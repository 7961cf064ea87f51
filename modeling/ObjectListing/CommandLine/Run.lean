import ObjectListing.CommandLine.Arguments
import ObjectListing.CommandLine.Report
import ObjectListing.Machine

/-!
Running a command on a machine: what it prints, its exit code, and the files it leaves.
-/

namespace ObjectListing

namespace CommandLine

/-- What a command prints. -/
inductive Output
  | text (s : String)
  | data (d : Blob)
  deriving DecidableEq

/-- What a command comes to: its exit code, what it prints, the report if it fails, and the file that it
writes. -/
structure Outcome where
  code : Nat
  output : Output := .text ""
  report : String := ""
  written : Option (Text × Blob) := none
  deriving DecidableEq

namespace Outcome

/-- A command line that is wrong. -/
def wrongUsage : Outcome := { code := 2 }

/-- A command that prints and succeeds. -/
def prints (s : String) : Outcome := { code := 0, output := .text s }

/-- A command that fails, after it has printed. -/
def fails (report : String) (printed : String) : Outcome :=
  { code := 1, output := .text printed, report }

end Outcome

/-- What there is to see of a listing. -/
def listOutcome (uri : Text) (json : Bool) (g : Listing.Gathered Machine) : Outcome :=
  let printed := linesText (g.items.map (if json then jsonItem else tableItem))
  let count := g.items.length
  match g.ending with
  | .failed e =>
    .fails (causedReport s!"listing {uri.str} after {count} entries" e.message) printed
  | _ => .prints (if json then printed else printed ++ s!"\nTotal entries: {count}\n")

/-- Lists. -/
def runList (uri : Text) (options : ListOptions) (json : Bool) (client : Client Machine)
    (w : World Machine) : Outcome × World Machine :=
  match client.openListing uri options with
  | (.error e, _) => (.fails (failureReport e.message) "", w)
  | (.ok (lister, listing), _) =>
    let g := Listing.collect lister {} Listing.patience listing w
    (listOutcome uri json g, g.world)

/-- Shows buckets. -/
def runBuckets (uri : Text) (client : Client Machine) (w : World Machine) :
    Outcome × World Machine :=
  match client.listBuckets uri w with
  | (.error e, _, w) => (.fails (causedReport s!"listing buckets for {uri.str}" e.message) "", w)
  | (.ok found, _, w) => (.prints (linesText (found.map bucketLine)), w)

/-- Fetches an object, and prints it or writes it to a file. -/
def runGet (uri : Text) (output : Option Text) (client : Client Machine) (w : World Machine) :
    Outcome × World Machine :=
  match client.getObject uri w with
  | (.error e, _, w) => (.fails (causedReport s!"fetching {uri.str}" e.message) "", w)
  | (.ok data, _, w) =>
    match output with
    | none => ({ code := 0, output := .data data }, w)
    | some path =>
      match w.store.files.write path data w.moment with
      | .error e => (.fails (causedReport s!"writing {path.str}" e.description) "", w)
      | .ok files =>
        ({ code := 0, written := some (path, data) }, { w with store := { w.store with files } })

/-- Runs a command. -/
def runCommand (c : Command) (client : Client Machine) (w : World Machine) :
    Outcome × World Machine :=
  match c with
  | .buckets uri => runBuckets uri client w
  | .list uri options json => runList uri options json client w
  | .get uri output => runGet uri output client w

/-- The name and the version of the program. -/
def versionText : String := "bucketwalk 0.3.0\n"

/-- Runs a command line. -/
def run (args : List Text) (env : Environment) (w : World Machine) : Outcome × World Machine :=
  match Invocation.read args with
  | none => (.wrongUsage, w)
  | some .version => (.prints versionText, w)
  | some (.perform _ command) =>
    let env := w.store.withFileVariables env
    runCommand command (Machine.clientOf env) { w with store := w.store.within env }

end CommandLine

end ObjectListing

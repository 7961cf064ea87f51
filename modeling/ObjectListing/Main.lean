import ObjectListing.CommandLine.Reach
import ObjectListing.CommandLine.Run

/-!
The program. What the command can reach of the file system is read into a tree, the command is run on
it, and what comes of it is passed on. No remote service is reached from here: every request to one
breaks off.
-/

namespace ObjectListing

namespace CommandLine

/-- An instant as the system gives it. -/
def instantOf (t : IO.FS.SystemTime) : Instant := Instant.ofUnix t.sec t.nsec.toNat

/-- The moment, by the clock that dates new files. -/
def loadMoment : IO Instant := do
  let (_, path) ← IO.FS.createTempFile
  let about ← path.metadata
  IO.FS.removeFile path
  pure (instantOf about.modified)

/-- Reads what stands at a path below the folder `here`, or at an absolute path. Links are followed;
what cannot be read is a link that leads nowhere. -/
def load (here : String) (data : Bool) : (levels : Nat) → (path : String) → IO Node
  | levels, path => do
    try
      let place := (← IO.FS.realPath here) / path
      let about ← place.metadata
      match about.type, levels with
      | .dir, 0 => pure .emptyFolder
      | .dir, levels + 1 =>
        let children ← (← place.readDir).toList.mapM fun child => do
          pure (FileName.text (Text.of child.fileName), ← load here data levels child.path.toString)
        pure (.folder children)
      | .file, _ =>
        let contents ← if data then pure (Blob.bytes (← IO.FS.readBinFile place))
          else pure (.zeros about.byteSize.toNat)
        pure (.file contents (instantOf about.modified))
      | _, _ => pure .socket
    catch _ => pure (.link [])

/-- The names along a path, without the ones that lead up. -/
def settled (path : Text) : List Text :=
  (path.names.foldl (fun way name => if name = ['.', '.'] then way.tail else name :: way) []).reverse

/-- Puts what stands at a path of the system into a tree, if anything stands there. -/
def plant (here : String) (fs : FileSystem) (reach : Reach) : IO FileSystem := do
  match ← load here reach.data reach.levels reach.path.str with
  | .link _ => pure fs
  | node =>
    let way := settled (Text.joined (Text.of here) reach.path)
    pure { fs with top := Node.put node (way.map .text) fs.top }

/-- Reads what a command line can reach. -/
def loadFiles (args : List Text) : IO FileSystem := do
  let here := (← IO.currentDir).toString
  let current := settled (Text.of here)
  let start : FileSystem := { top := Node.makeFolder (current.map .text) .emptyFolder, current }
  (Reach.ofArguments args).foldlM (plant here) start

/-- Reads the variables that matter. -/
def loadVariables : IO Environment := do
  let found ← Environment.names.mapM fun name => do
    pure ((← IO.getEnv name).map fun value => (Text.of name, Text.of value))
  pure ⟨found.filterMap id⟩

/-- Prints, reports and writes what a command came to. -/
def deliver (outcome : Outcome) : IO Unit := do
  match outcome.output with
  | .text s => IO.print s
  | .data d => (← IO.getStdout).write ⟨(d.take d.size).toArray⟩
  IO.eprint outcome.report
  match outcome.written with
  | some (path, d) => IO.FS.writeBinFile path.str ⟨(d.take d.size).toArray⟩
  | none => pure ()

end CommandLine

end ObjectListing

/-- Runs the command line and exits with its code. -/
def main (args : List String) : IO UInt32 := do
  let args := args.map ObjectListing.Text.of
  let files ← ObjectListing.CommandLine.loadFiles args
  let env ← ObjectListing.CommandLine.loadVariables
  let (outcome, _) := ObjectListing.CommandLine.run args env
    { store := { files }, epoch := ← ObjectListing.CommandLine.loadMoment }
  ObjectListing.CommandLine.deliver outcome
  pure (UInt32.ofNat outcome.code)

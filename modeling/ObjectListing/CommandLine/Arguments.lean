import ObjectListing.Client

/-!
The command line: `[-v] buckets [URI]`, `[-v] ls URI …` and `[-v] get URI [-o FILE]`; `-V` in place of
a command asks for the version, whatever comes behind it. Options are long
(`--name x`, `--name=x`) or short (`-n 5`, `-n5`, `-n=5`), short ones without a value may be drawn
together (`-ri`); after `--` everything is an operand. An option is given at most once, and a value that
begins with a dash has to be attached.
-/

namespace ObjectListing

namespace CommandLine

/-- An option of a command. -/
structure OptionSpec where
  long : String
  short : Option Char := none
  takesValue : Bool := false
  deriving DecidableEq, Repr

/-- Something that was given to a command. -/
inductive Given
  | switch (option : String)
  | value (option : String) (v : Text)
  | operand (v : Text)
  deriving DecidableEq, Repr

/-- The option of a long name. -/
def findLong (specs : List OptionSpec) (name : Text) : Option OptionSpec :=
  specs.find? fun o => Text.of o.long = name

/-- The option of a letter. -/
def findShort (specs : List OptionSpec) (letter : Char) : Option OptionSpec :=
  specs.find? fun o => o.short = some letter

/-- Whether an argument can only be an option: it begins with a dash and is more than that. -/
def looksLikeOption (arg : Text) : Bool :=
  match arg with
  | '-' :: _ :: _ => true
  | _ => false

/-- Reads letters drawn together. The second part is an option that still waits for its value. -/
def readLetters (specs : List OptionSpec) : Text → Option (List Given × Option String)
  | [] => some ([], none)
  | letter :: rest =>
    (findShort specs letter).bind fun o =>
      if o.takesValue then
        match rest with
        | [] => some ([], some o.long)
        | '=' :: v => some ([.value o.long v], none)
        | v => some ([.value o.long v], none)
      else (readLetters specs rest).map fun (given, waiting) => (.switch o.long :: given, waiting)

/-- Reads an argument that begins with two dashes, without them. -/
def readLong (specs : List OptionSpec) (body : Text) : Option (List Given × Option String) :=
  let (name, attached) := Text.cut '=' body
  (findLong specs name).bind fun o =>
    match o.takesValue, attached with
    | false, none => some ([.switch o.long], none)
    | false, some _ => none
    | true, some v => some ([.value o.long v], none)
    | true, none => some ([], some o.long)

/-- Reads one argument that is an option. -/
def readOption (specs : List OptionSpec) (arg : Text) : Option (List Given × Option String) :=
  match arg with
  | '-' :: '-' :: body => readLong specs body
  | _ :: letters => readLetters specs letters
  | [] => none

/-- Reads the arguments of a command. `waiting` is an option that waits for its value. -/
def readArguments (specs : List OptionSpec) : Option String → List Text → Option (List Given)
  | none, [] => some []
  | some _, [] => none
  | some option, arg :: rest =>
    if looksLikeOption arg then none
    else (readArguments specs none rest).map (.value option arg :: ·)
  | none, arg :: rest =>
    if arg = ['-', '-'] then some (rest.map .operand)
    else if looksLikeOption arg then
      (readOption specs arg).bind fun (given, waiting) =>
        (readArguments specs waiting rest).map (given ++ ·)
    else (readArguments specs none rest).map (.operand arg :: ·)

namespace Given

/-- The option that was given, if it was one. -/
def option? : Given → Option String
  | switch option => some option
  | value option _ => some option
  | operand _ => none

/-- Whether this option is among what was given. -/
def has (given : List Given) (option : String) : Bool := given.any fun g => g.option? = some option

/-- The value of an option. -/
def valueOf? (given : List Given) (option : String) : Option Text :=
  given.findSome? fun
    | value o v => if o = option then some v else none
    | _ => none

/-- What was given and is no option. -/
def operands (given : List Given) : List Text :=
  given.filterMap fun
    | operand v => some v
    | _ => none

/-- Whether no option was given twice. -/
def eachOnce (given : List Given) : Bool := (given.filterMap option?).Nodup

end Given

/-- What is to be done. -/
inductive Command
  | buckets (uri : Text)
  | list (uri : Text) (options : ListOptions) (json : Bool)
  | get (uri : Text) (output : Option Text)
  deriving DecidableEq, Repr

/-- Reads what was given to a command, with its options and at most one operand. -/
def readCommand (specs : List OptionSpec) (args : List Text) :
    Option (List Given × Option Text) :=
  (readArguments specs none args).bind fun given =>
    match Given.operands given with
    | [] => if Given.eachOnce given then some (given, none) else none
    | [operand] => if Given.eachOnce given then some (given, some operand) else none
    | _ => none

/-- The options of the command that lists. -/
def listSpecs : List OptionSpec :=
  [{ long := "recursive", short := some 'r' },
   { long := "max-files", short := some 'n', takesValue := true },
   { long := "name", takesValue := true },
   { long := "size", takesValue := true },
   { long := "mtime", takesValue := true },
   { long := "ignore-case", short := some 'i' },
   { long := "json" }]

/-- The options of the command that fetches. -/
def getSpecs : List OptionSpec := [{ long := "output", short := some 'o', takesValue := true }]

/-- The filter that the options of a listing ask for. -/
def filterOf (given : List Given) : FilterSpec :=
  { name := (Given.valueOf? given "name").map .single
    size := (Given.valueOf? given "size").map .single
    mtime := (Given.valueOf? given "mtime").map .single
    caseInsensitive := Given.has given "ignore-case" }

/-- The limit that the options of a listing set, if it can be read. -/
def capOf (given : List Given) : Option (Option Nat) :=
  match Given.valueOf? given "max-files" with
  | none => some none
  | some digits => (Text.signedUpTo? limit64 digits).map some

/-- The command of a name with its arguments. -/
def Command.read (name : Text) (args : List Text) : Option Command :=
  if name = Text.of "buckets" then
    (readCommand [] args).map fun (_, uri) => .buckets (uri.getD (Text.of "s3://"))
  else if name = Text.of "ls" then
    (readCommand listSpecs args).bind fun (given, uri) =>
      uri.bind fun uri => (capOf given).map fun cap =>
        .list uri ⟨Given.has given "recursive", cap, filterOf given⟩ (Given.has given "json")
  else if name = Text.of "get" then
    (readCommand getSpecs args).bind fun (given, uri) =>
      uri.bind fun uri =>
        match Given.valueOf? given "output" with
        | some [] => none
        | output => some (.get uri output)
  else none

/-- A whole command line: it asks for the version, or tells how much is to be said, and what is to be
done. -/
inductive Invocation
  | version
  | perform (verbosity : Nat) (command : Command)
  deriving DecidableEq, Repr

/-- What an argument in front of the command asks for: that more be said, or the version. -/
inductive Lead
  | verbosity (more : Nat)
  | version
  deriving DecidableEq, Repr

/-- Reads letters in front of the command, behind `more` that ask for more to be said. -/
def leadLetters? (more : Nat) : Text → Option Lead
  | [] => some (.verbosity more)
  | 'v' :: rest => leadLetters? (more + 1) rest
  | 'V' :: _ => some .version
  | _ => none

/-- Reads an argument in front of the command. -/
def lead? (arg : Text) : Option Lead :=
  if arg = Text.of "--verbose" then some (.verbosity 1)
  else if arg = Text.of "--version" then some .version
  else match arg with
    | '-' :: letter :: rest => leadLetters? 0 (letter :: rest)
    | _ => none

/-- Reads a command line, when so much is to be said already. -/
def Invocation.readFrom (verbosity : Nat) : List Text → Option Invocation
  | [] => none
  | arg :: rest =>
    match lead? arg with
    | some (.verbosity more) => readFrom (verbosity + more) rest
    | some .version => some .version
    | none => (Command.read arg rest).map (.perform verbosity)

/-- Reads a command line; there is nothing for one that is wrong. -/
def Invocation.read (args : List Text) : Option Invocation := readFrom 0 args

end CommandLine

end ObjectListing

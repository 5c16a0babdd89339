import Scaffold.FileSystem.Tree
import Scaffold.Script.Quoting
import Scaffold.Script.Tree

/-!
# Session — the state of a shell

A shell has variables, some of which it hands on, commands with names, a status, the input that is
left, and the files that it works on. What it prints is kept in pieces, each with the number of its
stream.
-/

set_option autoImplicit false

namespace Scaffold.Script

/-- What is printed, in order: output on stream 1, errors on stream 2. -/
abbrev Printed := List (Nat × Bytes)

/-- A variable with several values. -/
structure Row where
  /-- The places are numbers. -/
  isNumbered : Bool := true
  cells : List (String × String) := []

namespace Row

/-- The values in the order of their places. -/
def values (r : Row) : List String := r.cells.map Prod.snd

/-- The place behind all others. -/
def next (r : Row) : Nat :=
  match r.cells.getLast? with
  | some (place, _) => place.toNat?.getD 0 + 1
  | none => 0

/-- Sets the value at a place; numbered places stay in their order. -/
def set (r : Row) (place value : String) : Row :=
  if r.cells.any (·.1 == place) then
    { r with cells := r.cells.map fun cell => if cell.1 == place then (place, value) else cell }
  else if r.isNumbered then
    let n := place.toNat?.getD 0
    let isBefore (cell : String × String) : Bool := cell.1.toNat?.getD 0 < n
    { r with cells := r.cells.takeWhile isBefore ++ (place, value) :: r.cells.dropWhile isBefore }
  else { r with cells := r.cells ++ [(place, value)] }

/-- Values at numbered places. -/
def ofList (values : List String) : Row :=
  { cells := (List.range values.length).map toString |>.zip values }

end Row

/-- Why the commands behind one are not run, though the shell goes on. -/
inductive Leaving
  /-- So many loops end. -/
  | stops (loops : Nat)
  /-- So many loops but one end, and the last one goes on with its next round. -/
  | skips (loops : Nat)
  /-- The command with a name ends. -/
  | returns
  deriving DecidableEq, Repr

/-- Where a stream leads. -/
inductive Sink
  | stream (n : Nat)
  | file (path : String)
  | nowhere
  /-- Nothing can be printed there. -/
  | closed

/-- What a name stands for as a command. -/
structure Named where
  body : Command
  /-- What the script is called that the name is given in. -/
  source : String

/-- A command that was started and not waited for. -/
structure Job where
  number : Nat
  status : Nat

/-- The state of a shell. -/
structure Session where
  tree : FileTree
  values : List (String × String) := []
  rows : List (String × Row) := []
  exported : List String := []
  /-- Variables that keep their values. -/
  fixed : List String := []
  arguments : List String := []
  /-- Commands with names. -/
  commands : List (String × Named) := []
  /-- The variables of each running command with a name, with what they were before. -/
  frames : List (List (String × Option String)) := []
  /-- What is left of the input. -/
  input : Bytes := []
  /-- What is left of other streams that are read. -/
  sources : List (Nat × Bytes) := []
  status : Nat := 0
  /-- The shell extends the standard. -/
  isBash : Bool := false
  /-- The name that the shell was started with. -/
  name : String := "sh"
  /-- The name that the shell reports errors under. -/
  title : String := "sh"
  /-- What the running script is called. -/
  source : String := "environment"
  /-- What a report of the plain shell names in front of its text. -/
  inside : String := ""
  /-- The line of the script that is running. -/
  line : Nat := 1
  /-- A failed command ends the shell. -/
  stopsOnError : Bool := false
  /-- A parameter that is not there ends the shell. -/
  needsValues : Bool := false
  /-- Commands are printed before they are run. -/
  traces : Bool := false
  /-- Patterns are not exchanged for the paths that they fit. -/
  keepsPatterns : Bool := false
  /-- A pipeline fails if any part of it does. -/
  failsAnywhere : Bool := false
  /-- What is run at a signal or at the end. -/
  traps : List (String × String) := []
  /-- The streams beyond the first ones that are open. -/
  opened : List Nat := []
  /-- Where the streams lead from now on, if not where they led before. -/
  standing : List (Nat × Sink) := []
  leaving : Option Leaving := none
  /-- The shell has ended. -/
  ended : Bool := false
  /-- The signal that ended the shell. -/
  signal : Option Nat := none
  /-- How many shells are around this one. -/
  depth : Nat := 0
  /-- How many loops are around the running command. -/
  loops : Nat := 0
  /-- How many scripts are around the running one whose output or text is part of them. -/
  nesting : Nat := 0
  /-- The status of the last script whose output became part of the running command. -/
  substituted : Option Nat := none
  /-- The running command may fail where failures end the shell. -/
  isGuarded : Bool := false
  /-- The current directory as it was reached, where links lead to it. -/
  reached : Option Place := none
  /-- The permissions that new files lack. -/
  mask : Nat := 18
  /-- The commands that were not waited for, the last one first. -/
  jobs : List Job := []
  /-- What these commands have printed. -/
  pending : Printed := []
  /-- The statuses of the parts of the last pipeline. -/
  statuses : List Nat := []
  /-- The variables that hold the values of calculations. -/
  integers : List String := []
  /-- The names of the running commands with names, the last one first. -/
  called : List String := []
  /-- There is a shell: without one, only programs are found. -/
  isShell : Bool := true
  /-- The path of the running program. -/
  program : String := ""
  /-- The last word of the last command. -/
  lastWord : String := ""
  /-- The script is one that was given as an argument. -/
  isArgument : Bool := false
  /-- The directories to return to. -/
  stack : List String := []
  /-- The files that can be run. -/
  runnable : List Place := []
  /-- Files that hold what scripts have printed, outside of the tree. -/
  devices : List (String × Bytes) := []
  /-- The options of the extended shell that are set by name. -/
  options : List String := []

namespace Session

/-- No further command is run. -/
def isDone (s : Session) : Bool := s.ended || s.leaving.isSome

/-- The current directory as a path without links. -/
def physical (s : Session) : String := "/" ++ "/".intercalate s.tree.current

/-- The current directory as a path, as it was reached. -/
def directory (s : Session) : String :=
  "/" ++ "/".intercalate (s.reached.getD s.tree.current)

/-- The values that the extended shell keeps about its own state. -/
def stateRow? (s : Session) (name : String) : Option Row :=
  match s.isBash, name with
  | true, "FUNCNAME" => if s.called.isEmpty then none else some (.ofList s.called)
  | true, "PIPESTATUS" => some (.ofList (s.statuses.map toString))
  | true, "DIRSTACK" => some (.ofList (s.directory :: s.stack))
  | _, _ => none

/-- The value of a variable; of several values, the one at the place zero. -/
def value? (s : Session) (name : String) : Option String :=
  match s.rows.lookup name with
  | some row => row.cells.lookup "0"
  | none => s.values.lookup name <|> (s.stateRow? name).bind (·.cells.lookup "0")

/-- The row of a variable; a plain value is a row with one place. -/
def row? (s : Session) (name : String) : Option Row :=
  match s.rows.lookup name with
  | some row => some row
  | none => ((s.values.lookup name).map fun v => Row.ofList [v]) <|> s.stateRow? name

/-- Sets the values of a variable. -/
def setRow (s : Session) (name : String) (row : Row) : Session :=
  { s with
    rows := (name, row) :: s.rows.filter (·.1 != name)
    values := s.values.filter (·.1 != name) }

/-- Sets a variable. -/
def setVariable (s : Session) (name value : String) : Session :=
  match s.rows.lookup name with
  | some row => s.setRow name (row.set "0" value)
  | none =>
    let set (v : String × String) : String × String := if v.1 == name then (name, value) else v
    if s.values.any (·.1 == name) then { s with values := s.values.map set }
    else { s with values := (name, value) :: s.values }

/-- Removes a variable. -/
def unset (s : Session) (name : String) : Session :=
  { s with
    values := s.values.filter (·.1 != name)
    rows := s.rows.filter (·.1 != name)
    exported := s.exported.filter (· != name) }

/-- Removes a command with a name. -/
def forget (s : Session) (name : String) : Session :=
  { s with commands := s.commands.filter (·.1 != name) }

/-- Sets a variable for the running command with a name alone. -/
def keepBefore (s : Session) (name : String) : Session :=
  match s.frames with
  | [] => s
  | frame :: frames =>
    if frame.any (·.1 == name) then s
    else { s with frames := ((name, s.values.lookup name) :: frame) :: frames }

/-- Begins a command with a name. -/
def enterFrame (s : Session) : Session := { s with frames := [] :: s.frames }

/-- Ends a command with a name: its own variables are what they were before. -/
def leaveFrame (s : Session) : Session :=
  match s.frames with
  | [] => s
  | frame :: frames =>
    let s := frame.foldl (fun (s : Session) (name, before) =>
      match before with
      | some value => s.setVariable name value
      | none => s.unset name) s
    { s with frames }

/-- Hands a variable on. -/
def exportVariable (s : Session) (name : String) : Session :=
  { s with exported := name :: s.exported.filter (· != name) }

/-- Where a variable stands among all: the extended shell keeps them in 1024 places, the plain one
in 39, each chosen by the bytes of the name. -/
def placeOf (isBash : Bool) (name : String) : Nat :=
  let b := (Raw.bytes name).map UInt8.toNat
  if isBash then
    b.foldl (fun n x => (n * 16777619 % Nat.pow 2 32) ^^^ x) 2166136261 % 1024
  else (b.headD 0 * 16 + b.foldl (· + ·) 0) % 39

/-- The variables that are handed on, in the order of their places. -/
def environment (s : Session) : List (String × String) :=
  let given := s.values.filter fun (name, _) => s.exported.contains name
  let given := if s.isShell && s.isBash then given
    else (given.filter (s.isShell && ·.1 == "PATH"))
      ++ (given.filter (!s.isShell || ·.1 != "PATH")).reverse
  let placed := given.map fun v => (if s.isShell then placeOf s.isBash v.1 else 0, v)
  (placed.mergeSort fun a b => a.1 ≤ b.1).map Prod.snd
    ++ if s.isBash && !s.program.isEmpty then [("_", s.program)] else []

/-- The session of a program that runs others, with the variables that are handed on. -/
def handed (s : Session) (title : String) (given : List (String × String)) : Session :=
  { s with
    values := given.reverse
    rows := []
    exported := given.map Prod.fst
    commands := []
    isShell := false
    program := ""
    title }

/-- Sets the status. -/
def finish (s : Session) (status : Nat) : Session := { s with status }

/-- A message of a command of the shell. -/
def complaint (s : Session) (text : String) : String :=
  s.title ++ (if s.isBash then ": line " else ": ") ++ toString s.line ++ ": " ++ text ++ "\n"

/-- A message of the shell itself. -/
def report (s : Session) (text : String) : String :=
  s.complaint (if s.isBash then text else s.inside ++ text)

/-- Programs are found. -/
def findsPrograms (s : Session) : Bool :=
  match s.value? "PATH" with
  | none => true
  | some path =>
    ((path.splitOn ":").any fun p => ["/bin", "/usr/bin", "/bin/", "/usr/bin/"].contains p)

/-- The characters at which expansions are cut. -/
def separators (s : Session) : List Char :=
  ((s.value? "IFS").getD " \t\n").toList

/-- The state in front of a shell, with the files behind it. -/
def after (outer inner : Session) : Session :=
  { outer with
    tree := { inner.tree with current := outer.tree.current }
    input := inner.input
    sources := outer.sources.map fun (n, b) => (n, (inner.sources.lookup n).getD b)
    status := match inner.signal with
      | some n => 128 + n
      | none => inner.status }

/-- The content of a file, with those that are no files of the tree. -/
def content (s : Session) (input : Bytes) (path : String) : Except FileFault Bytes :=
  if path == "/dev/null" then .ok []
  else if path == "/dev/zero" then .ok (List.replicate 65536 0)
  else if path == "/dev/stdin" || path == "/dev/fd/0" then .ok input
  else
    match s.devices.lookup path with
    | some b => .ok b
    | none => s.tree.read path

/-- A shell of its own with the same state. -/
def apart (s : Session) : Session :=
  { s with depth := s.depth + 1, traps := [], loops := 0, jobs := [], pending := [] }

end Session

/-- What a program does: it prints, and leaves the files and its status in the session. -/
abbrev Program := List String → Bytes → Session → Printed × Session

/-- Prints output. -/
def out (text : String) : Printed := [(1, Raw.bytes text)]

/-- Prints an error. -/
def err (text : String) : Printed := [(2, Raw.bytes text)]

/-- What was printed on a stream. -/
def Printed.on (p : Printed) (stream : Nat) : Bytes :=
  (p.filter (·.1 == stream)).flatMap Prod.snd

/-- The wording of a fault without its number. -/
def plainFault (fault : FileFault) : String :=
  String.ofList (((fault.message.toList.reverse.dropWhile (· != '(')).drop 2).reverse)

end Scaffold.Script

/-!
## Settings — the options and operands of a program

An option is a letter behind a dash; several may share one dash, and the value of an option stands
behind its letter or in the argument after it. Options may stand behind operands; two dashes end
them.
-/

namespace Scaffold.Script

/-- The options and operands of a program. -/
structure Settings where
  /-- The options in order, each with its value. -/
  given : List (Char × String) := []
  operands : List String := []

namespace Settings

/-- The option is given. -/
def has (o : Settings) (letter : Char) : Bool := o.given.any (·.1 == letter)

/-- The values of an option. -/
def values (o : Settings) (letter : Char) : List String :=
  (o.given.filter (·.1 == letter)).map Prod.snd

/-- The value of an option; the last one counts. -/
def value? (o : Settings) (letter : Char) : Option String := (o.values letter).getLast?

/-- Why options are not understood. -/
inductive Fault
  | unknown (letter : Char)
  | unknownName (name : String)
  | ambiguous (name : String) (names : List String)
  | lacksValue (letter : Char)
  | lacksNamedValue (name : String)
  | hasValue (name : String)
  deriving DecidableEq, Repr

/-- The wording of a fault. -/
def Fault.message : Fault → String
  | .unknown letter => "invalid option -- '" ++ String.singleton letter ++ "'"
  | .unknownName name => "unrecognized option '--" ++ name ++ "'"
  | .ambiguous name names =>
    "option '--" ++ name ++ "' is ambiguous; possibilities:"
      ++ String.join (names.map fun n => " '--" ++ n ++ "'")
  | .lacksValue letter => "option requires an argument -- '" ++ String.singleton letter ++ "'"
  | .lacksNamedValue name => "option '--" ++ name ++ "' requires an argument"
  | .hasValue name => "option '--" ++ name ++ "' doesn't allow an argument"

/-- The options of a program. -/
structure Known where
  /-- The letters without a value. -/
  flags : List Char := []
  /-- The letters with a value. -/
  valued : List Char := []
  /-- The letters that may have a value, which stands behind them without a gap. -/
  optional : List Char := []
  /-- Long names, each with its letter. -/
  names : List (String × Char) := []

/-- The options that share a dash; the last one may still lack its value. -/
def cluster (k : Known) : List Char → Except Fault (List (Char × String) × Option Char)
  | [] => .ok ([], none)
  | c :: cs =>
    if k.valued.contains c then
      .ok (if cs.isEmpty then ([], some c) else ([(c, String.ofList cs)], none))
    else if k.optional.contains c then .ok ([(c, String.ofList cs)], none)
    else if k.flags.contains c then
      (cluster k cs).map fun (given, open_) => ((c, "") :: given, open_)
    else .error (.unknown c)

/-- Puts options in front of others. -/
def before (given : List (Char × String)) (o : Settings) : Settings :=
  { o with given := given ++ o.given }

/-- The long name that a text means: it, or the only one that it begins; names of one letter are
one. -/
def nameOf (k : Known) (text name : String) : Except Fault (String × Char) :=
  match k.names.find? (·.1 == name) with
  | some found => .ok found
  | none =>
    match k.names.filter fun (n, _) => name.isPrefixOf n with
    | [] => .error (.unknownName text)
    | found :: more =>
      if more.all (·.2 == found.2) then .ok found
      else .error (.ambiguous text ((found :: more).map Prod.fst))

/-- An option with a long name, with the name if it still lacks its value. -/
def longOption (k : Known) (text : List Char) :
    Except Fault ((Char × String) × Option String) := do
  let name := text.takeWhile (· != '=')
  let (found, letter) ← nameOf k (String.ofList text) (String.ofList name)
  match text.drop name.length with
  | [] => return ((letter, ""), if k.valued.contains letter then some found else none)
  | _ :: value =>
    if k.valued.contains letter || k.optional.contains letter then
      return ((letter, String.ofList value), none)
    else throw (.hasValue found)

/-- Reads the arguments of a program. -/
def read (k : Known) : List String → Except Fault Settings
  | [] => .ok {}
  | arg :: args =>
    match arg.toList with
    | ['-', '-'] => .ok { operands := args }
    | '-' :: '-' :: text => do
      match ← longOption k text, args with
      | (option, none), args => return (← read k args).before [option]
      | (_, some name), [] => throw (.lacksNamedValue name)
      | ((letter, _), some _), value :: args => return (← read k args).before [(letter, value)]
    | '-' :: c :: cs => do
      match ← cluster k (c :: cs), args with
      | (given, none), args => return (← read k args).before given
      | (_, some letter), [] => throw (.lacksValue letter)
      | (given, some letter), value :: args =>
        return (← read k args).before (given ++ [(letter, value)])
    | _ => do
      let o ← read k args
      return { o with operands := arg :: o.operands }

/-- Reads arguments of which the options stand in front of all operands. -/
def front (k : Known) : List String → Except Fault Settings
  | [] => .ok {}
  | arg :: args =>
    match arg.toList with
    | ['-', '-'] => .ok { operands := args }
    | '-' :: '-' :: text =>
      if k.names.isEmpty then .error (.unknownName (String.ofList text))
      else do
        match ← longOption k text, args with
        | (option, none), args => return (← front k args).before [option]
        | (_, some name), [] => throw (.lacksNamedValue name)
        | ((letter, _), some _), value :: args => return (← front k args).before [(letter, value)]
    | '-' :: c :: cs => do
      match ← cluster k (c :: cs), args with
      | (given, none), args => return (← front k args).before given
      | (_, some letter), [] => throw (.lacksValue letter)
      | (given, some letter), value :: args =>
        return (← front k args).before (given ++ [(letter, value)])
    | _ => .ok { operands := arg :: args }

end Settings

/-- A program that has options. -/
structure Tool where
  name : String
  /-- The letters of options without a value. -/
  flags : String := ""
  /-- The letters of options with a value. -/
  valued : String := ""
  /-- The letters of options that may have a value. -/
  optional : String := ""
  /-- The long names of options, each with its letter. -/
  names : List (String × Char) := []
  /-- The options stand in front of all operands. -/
  isFront : Bool := false
  /-- The status of a call that is not understood. -/
  misuse : Nat := 1
  /-- A line that tells how the program is called. -/
  usage : String := ""
  /-- Brings arguments of an older kind into the form of options and operands. -/
  prepare : List String → List String := id
  /-- The program takes all that is left of the input. -/
  reads : Settings → Bool := fun _ => false
  run : Settings → Bytes → Session → Printed × Session

namespace Tool

/-- No operand names a file to read, or one stands for the input. -/
def readsInput (o : Settings) : Bool := o.operands.isEmpty || o.operands.contains "-"

/-- The line that tells where to read more. -/
def hint (name : String) : String := "Try '" ++ name ++ " --help' for more information.\n"

/-- A call of a program that is not understood. -/
def misused (name text : String) (status : Nat) (s : Session) : Printed × Session :=
  (err (name ++ ": " ++ text ++ "\n" ++ hint name), s.finish status)

/-- The options of a tool. -/
def known (t : Tool) : Settings.Known :=
  { flags := t.flags.toList, valued := t.valued.toList, optional := t.optional.toList
    names := t.names }

/-- The program of a tool. -/
def program (t : Tool) : Program := fun args input s =>
  match (if t.isFront then Settings.front else Settings.read) t.known (t.prepare args) with
  | .error fault =>
    (err (t.name ++ ": " ++ fault.message ++ "\n" ++ t.usage ++ hint t.name), s.finish t.misuse)
  | .ok o => t.run o input (if t.reads o then { s with input := [] } else s)

end Tool

end Scaffold.Script

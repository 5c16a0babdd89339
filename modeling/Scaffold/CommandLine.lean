/-!
# CommandLine — the arguments of a run

`Options.ofArguments` reads the arguments from left to right. Flags may be bundled (`-fv`), the
project option takes its value attached or from the next argument, and `--` ends the options. An
option or flag may be given once only.
-/

set_option autoImplicit false

namespace Scaffold.CommandLine

/-- What a command line asks for. -/
structure Options where
  template : String
  outputDir : Option String
  projectInfo : Option String
  force : Bool
  verbose : Bool
  quiet : Bool
  deriving DecidableEq, Repr

/-- Why a command line asks for no run. -/
inductive Refusal
  | help
  | version
  /-- An option that does not exist, or an argument too many. -/
  | unknownArgument
  /-- An option or flag given twice. -/
  | repeated
  /-- A value attached to a flag. -/
  | unexpectedValue
  /-- An option without its value, or an empty output directory. -/
  | missingValue
  | missingTemplate
  deriving DecidableEq, Repr

/-- What takes a value. -/
inductive Slot
  | project
  | template
  | output
  deriving DecidableEq, Repr

/-- The switches. -/
inductive Flag
  | force
  | verbose
  | quiet
  | help
  | version
  deriving DecidableEq, Repr

/-- The reading so far. `pending` is a slot whose value is still open to further reading:
its value is checked and stored only when the next option or argument begins. -/
structure State where
  template : Option String := none
  outputDir : Option String := none
  projectInfo : Option String := none
  force : Bool := false
  verbose : Bool := false
  quiet : Bool := false
  pending : Option (Slot × Option String) := none
  /-- The project option waits for its value. -/
  waiting : Bool := false
  positionals : Nat := 0
  optionsEnded : Bool := false

/-- Stores a value. -/
def State.store (state : State) : Slot → Option String → Except Refusal State
  | _, none => .error .missingValue
  | .project, some value =>
    if state.projectInfo.isSome then .error .repeated
    else .ok { state with projectInfo := some value }
  | .template, some value => .ok { state with template := some value }
  | .output, some value =>
    if value.isEmpty then .error .missingValue else .ok { state with outputDir := some value }

/-- Stores the value that is still open. -/
def State.settle (state : State) : Except Refusal State :=
  match state.pending with
  | none => .ok state
  | some (slot, value) => State.store { state with pending := none } slot value

/-- Sets a switch. -/
def State.raise (state : State) (flag : Flag) : Except Refusal State := do
  let state ← state.settle
  match flag with
  | .help => .error .help
  | .version => .error .version
  | .force => if state.force then .error .repeated else .ok { state with force := true }
  | .verbose => if state.verbose then .error .repeated else .ok { state with verbose := true }
  | .quiet => if state.quiet then .error .repeated else .ok { state with quiet := true }

/-- Begins the project option, with its value if that is attached. -/
def State.beginProject (state : State) : Option String → Except Refusal State
  | some value => do State.store { ← state.settle with waiting := false } .project (some value)
  | none => do
    return { ← state.settle with pending := some (.project, none), waiting := true }

/-- The switch with this letter. -/
def Flag.ofLetter? : Char → Option Flag
  | 'f' => some .force
  | 'v' => some .verbose
  | 'q' => some .quiet
  | 'h' => some .help
  | 'V' => some .version
  | _ => none

/-- The switch with this name. -/
def Flag.ofName? : List Char → Option Flag
  | ['f', 'o', 'r', 'c', 'e'] => some .force
  | ['v', 'e', 'r', 'b', 'o', 's', 'e'] => some .verbose
  | ['q', 'u', 'i', 'e', 't'] => some .quiet
  | ['h', 'e', 'l', 'p'] => some .help
  | ['v', 'e', 'r', 's', 'i', 'o', 'n'] => some .version
  | _ => none

/-- The name of the project option. -/
def projectName : List Char := "project-info".toList

/-- Reads a bundle of letters. -/
def State.letters (state : State) : List Char → Except Refusal State
  | [] => .ok state
  | 'p' :: rest =>
    match rest with
    | [] => state.beginProject none
    | '=' :: value => state.beginProject (some (String.ofList value))
    | value => state.beginProject (some (String.ofList value))
  | letter :: rest =>
    match Flag.ofLetter? letter with
    | none => .error .unknownArgument
    | some flag => do
      let state ← State.raise { state with waiting := false } flag
      state.letters rest

/-- Reads a named option: its name and what follows the first `=`, if anything does. -/
def State.named (state : State) (text : List Char) : Except Refusal State :=
  let name := text.takeWhile (· != '=')
  let attached := (text.dropWhile (· != '=')).tail?.map String.ofList
  if name == projectName then state.beginProject attached
  else
    match Flag.ofName? name, attached with
    | none, _ => .error .unknownArgument
    | some _, some _ => .error .unexpectedValue
    | some flag, none => State.raise { state with waiting := false } flag

/-- Takes an argument that is no option. -/
def State.positional (state : State) (value : String) : Except Refusal State :=
  match state.positionals with
  | 0 => do
    return { ← state.settle with pending := some (.template, some value), positionals := 1 }
  | 1 => do
    return { ← state.settle with pending := some (.output, some value), positionals := 2 }
  | _ => .error .unknownArgument

/-- Takes a value for the option that waits for one, else an argument. -/
def State.plain (state : State) (value : String) : Except Refusal State :=
  if state.waiting && !state.optionsEnded then
    .ok { state with pending := some (.project, some value), waiting := false }
  else state.positional value

/-- Reads one argument. -/
def State.read (state : State) (argument : String) : Except Refusal State :=
  if state.optionsEnded then state.positional argument
  else
    match argument.toList with
    | ['-', '-'] => .ok { state with optionsEnded := true }
    | '-' :: '-' :: text => state.named text
    | '-' :: letter :: rest => state.letters (letter :: rest)
    | _ => state.plain argument

/-- What the arguments ask for. -/
def Options.ofArguments (arguments : List String) : Except Refusal Options := do
  let state ← arguments.foldlM State.read {}
  let state ← state.settle
  match state.template with
  | none => .error .missingTemplate
  | some template =>
    return {
      template
      outputDir := state.outputDir
      projectInfo := state.projectInfo
      force := state.force
      verbose := state.verbose
      quiet := state.quiet }

end Scaffold.CommandLine

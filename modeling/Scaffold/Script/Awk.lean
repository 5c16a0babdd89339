import Scaffold.Script.Awk.Reading
import Scaffold.Script.Awk.Running
import Scaffold.Script.Utility

/-!
# Awk — a program that runs programs on records

The text of a program is its first argument or comes from files. Options set the separator of fields
and variables; the other arguments name files, or set variables when their turn comes.
-/

set_option autoImplicit false

namespace Scaffold.Script

namespace Awk

/-- What the arguments of a call say. -/
structure Call where
  separator : Option String := none
  /-- Variables that are set in front of everything. -/
  assignments : List (String × String) := []
  /-- Files that hold the program. -/
  sources : List String := []
  operands : List String := []

/-- Why a call is not understood. -/
inductive CallFault
  | unknown (option : String)
  | lacksValue (letter : Char)
  | improper (assignment : String)

/-- The wording of a fault. -/
def CallFault.message : CallFault → String
  | .unknown option => "not an option: " ++ option
  | .lacksValue letter => "option -" ++ String.singleton letter ++ " lacks argument"
  | .improper assignment => "improper assignment: -v " ++ assignment

/-- Reads the arguments of a call. -/
def Call.read : List String → Call → Except CallFault Call
  | [], c => .ok c
  | arg :: args, c =>
    let withValue (letter : Char) (value : String) : Except CallFault Call :=
      if letter == 'F' then .ok { c with separator := some value }
      else if letter == 'f' then .ok { c with sources := c.sources ++ [value] }
      else
        match Run.assignment? value with
        | some v => .ok { c with assignments := c.assignments ++ [v] }
        | none => .error (.improper value)
    match arg.toList with
    | ['-', '-'] => .ok { c with operands := args }
    | ['-', letter] =>
      if ['F', 'f', 'v'].contains letter then
        match args with
        | [] => .error (.lacksValue letter)
        | value :: args => do Call.read args (← withValue letter value)
      else .error (.unknown arg)
    | '-' :: letter :: value =>
      if ['F', 'f', 'v'].contains letter then do
        Call.read args (← withValue letter (String.ofList value))
      else .error (.unknown arg)
    | _ => .ok { c with operands := arg :: args }

/-- The faults of the patterns that a program is written with. -/
def checkPatterns (text : String) : Except Fault Unit := do
  let pieces ← Token.read text
  pieces.forM fun piece => match piece.token with
    | .pattern p =>
      match Run.patternOf p with
      | .error (.badPattern _ reason text) => throw (.badPattern piece.line reason text)
      | _ => .ok ()
    | _ => .ok ()

/-- A table of values. -/
def tableOf (entries : List (String × String)) : Table :=
  entries.foldl (fun t (name, value) => t.set name (.given value)) {}

/-- The state in front of all records. -/
def start (shell : Shell) (p : Program) (operands : List String) (input : Bytes) (s : Session) :
    State :=
  let arguments := "awk" :: operands
  let places := (List.range arguments.length).map toString
  let value (name : String) (d : Datum) : String × Binding := (name, .value d)
  { program := p, shell, session := s, input := (Raw.text input).toList
    tables := #[tableOf (places.zip arguments), tableOf s.environment]
    globals := [
      value "NR" (.number 0), value "FNR" (.number 0), value "FS" (.text " "),
      value "OFS" (.text " "), value "ORS" (.text "\n"), value "RS" (.text "\n"),
      value "SUBSEP" (.text "\x1c"), value "CONVFMT" (.text "%.6g"), value "OFMT" (.text "%.6g"),
      value "RSTART" (.number 0), value "RLENGTH" (.number (-1)),
      value "ARGC" (.number (Float.ofNat arguments.length)), ("ARGV", .table 0),
      ("ENVIRON", .table 1)] }

/-- A report of the program; it ends with a status of its own. -/
def fails (text : String) (s : Session) : Printed × Session :=
  (err ("awk: " ++ text ++ "\n"), s.finish 2)

/-- Runs a program on files or the input. -/
def perform (shell : Shell) (c : Call) (text : String) (operands : List String) (input : Bytes)
    (s : Session) : Printed × Session :=
  match checkPatterns text, Program.read text with
  | .error fault, _ | _, .error fault => fails fault.message s
  | .ok _, .ok p =>
    let whole : Run Unit := do
      match c.separator with
      | some separator => do
        Run.assignArgument "FS" separator
        let separator ← Run.textOf "FS"
        match separator.length, Run.patternOf separator with
        | 0, _ | 1, _ | _, .ok _ => pure ()
        | _, .error (.badPattern _ reason text) =>
          Run.fails (Fault.badPattern 0 reason text).message
        | _, .error fault => Run.fails fault.message
      | none => pure ()
      c.assignments.forM fun (name, value) => Run.assignArgument name value
      Run.run p
    let finished (t : State) : State :=
      match EStateM.run (Run.finish t.writers) t with
      | .ok _ t | .error _ t => t
    let ended (t : State) : Session :=
      { t.session with input := if t.tookInput then [] else s.input }
    match EStateM.run whole (start shell p operands input s) with
    | .ok _ t =>
      let t := finished t
      (t.printed, (ended t).finish t.status)
    | .error (.failed text) t =>
      let t := finished t
      (err ("awk: " ++ text ++ "\n") ++ t.printed, (ended t).finish 2)
    | .error _ t =>
      let t := finished t
      (t.printed, (ended t).finish t.status)

/-- The program, which runs commands in a shell. -/
def awk (shell : Shell) : Script.Program := fun args input s =>
  match Call.read args {} with
  | .error fault => fails fault.message s
  | .ok c =>
    match c.sources, c.operands with
    | [], [] => fails "no program" s
    | [], text :: operands => perform shell c text operands input s
    | sources, operands =>
      match sources.mapM fun path => (s.content input path).mapError fun f => (path, f) with
      | .error (path, fault) =>
        fails ("cannot open \"" ++ path ++ "\" (" ++ plainFault fault ++ ")") s
      | .ok contents =>
        perform shell c (String.join (contents.map Raw.text)) operands input s

end Awk

end Scaffold.Script

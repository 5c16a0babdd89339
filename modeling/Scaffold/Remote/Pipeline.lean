import Scaffold.Encoding.Digits
import Scaffold.Expr.Value
import Scaffold.Json.Reading
import Scaffold.Text.Blank
import Scaffold.Text.Case
import Scaffold.Occurrences

/-!
# Pipeline — stages from a body to a value

A parser text names stages between bars: `text`, `json`, `hex` and `base64`. Each takes the
payload of the one before it; blank stages, padding and letter case do not matter, and an unknown
stage is reported only when it is reached.
-/

set_option autoImplicit false

namespace Scaffold.Pipeline

/-- What goes from stage to stage. -/
inductive Payload
  | bytes (b : Bytes)
  | text (s : String)
  | json (j : Json)

/-- The stages that exist. -/
inductive Stage
  | json
  | text
  | hex
  | base64
  deriving DecidableEq, Repr

/-- The stage of a name. -/
def Stage.ofName? (name : String) : Option Stage :=
  if name == "json" then some .json
  else if name == "text" then some .text
  else if name == "hex" then some .hex
  else if name == "base64" then some .base64
  else none

/-- Why a stage failed. -/
inductive Fault
  | json (fault : Json.Fault)
  | hex (fault : Hex.Fault)
  | base64 (fault : Base64.Fault)
  | unknownStage (name : String)
  deriving DecidableEq, Repr

/-- The wording of a failed stage. -/
def Fault.message : Fault → String
  | .json fault => "json stage failed: " ++ fault.message
  | .hex fault => "hex stage failed: " ++ fault.message
  | .base64 fault => "base64 stage failed: " ++ fault.message
  | .unknownStage name => "unknown response parser stage '" ++ name ++ "'"

/-- The text that a stage reads: ill-formed bytes are replaced, and a JSON text is the text
itself, any other JSON value its compact form. -/
def Payload.readable : Payload → String
  | .bytes b => Utf8.toStringLossy b
  | .text s => s
  | .json (.string s) => s
  | .json j => j.print

/-- The value that a payload ends as. -/
def Payload.toValue : Payload → Expr.Value
  | .bytes b => .bytes b
  | .text s => .text s
  | .json j => j.toValue

/-- The bytes of a payload's text without blanks around it. -/
def Payload.trimmed (p : Payload) : Bytes :=
  Utf8.ofString (Text.trim p.readable)

/-- Runs one stage. -/
def Stage.run (stage : Stage) (p : Payload) : Except Fault Payload :=
  match stage, p with
  | .json, .json j => .ok (.json j)
  | .json, p =>
    match Json.ofText p.readable with
    | .ok j => .ok (.json j)
    | .error fault => .error (.json fault)
  | .text, p => .ok (.text p.readable)
  | .hex, p =>
    match Hex.decode p.trimmed with
    | .ok b => .ok (.bytes b)
    | .error fault => .error (.hex fault)
  | .base64, p =>
    match Base64.decode p.trimmed with
    | .ok b => .ok (.bytes b)
    | .error fault => .error (.base64 fault)

/-- The names of the stages of a parser text, in order. -/
def stageNames (parser : String) : List String :=
  ((Occurrences.split ['|'] parser.toList).map fun part =>
    Text.lower (String.ofList (Text.trimChars part))).filter (!·.isEmpty)

/-- Runs the stage of a name. -/
def runNamed (p : Payload) (name : String) : Except Fault Payload :=
  match Stage.ofName? name with
  | some stage => stage.run p
  | none => .error (.unknownStage name)

/-- Runs the stages of a parser text on a body. -/
def run (parser : String) (body : Bytes) : Except Fault Expr.Value :=
  return (← (stageNames parser).foldlM runNamed (.bytes body)).toValue

end Scaffold.Pipeline

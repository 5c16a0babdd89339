import Scaffold.Calendar.Clock
import Scaffold.Dialogue
import Scaffold.Expr.Failure
import Scaffold.Expr.Value

/-!
# Question — what an evaluation asks the run around it

An evaluation computes on data. Whatever it wants to know of the run, and whatever it tells the
run, is a question of this list.
-/

set_option autoImplicit false

namespace Scaffold.Expr

/-- What a project can be asked about itself. -/
inductive ProjectQuestion
  | productName
  | moduleName
  | moduleDescription
  | versionName
  | product
  | version
  | currentDepends (groups : List String)
  | currentPluginDepends (groups : List String)
  | dependGroup (name : String)

/-- The questions of an evaluation. Some of them tell the run something; their answers do not
matter. -/
inductive Question
  /-- The value of an environment variable. -/
  | env (name : String)
  /-- The value of a declared variable. -/
  | var (name : String)
  /-- The declaration of a remote variable. -/
  | remoteVar (name : String)
  /-- The response to the request of a remote variable. -/
  | response (name : String)
  | project (question : ProjectQuestion)
  /-- The phase of the run, by name. -/
  | phase
  /-- The name of the current item. -/
  | itemName
  /-- The data of the current item. -/
  | itemData
  /-- A section of the document. -/
  | section (name : String)
  /-- What the clock shows. -/
  | time
  | queueBytes (block : Bytes)
  | setPathRange (sources : List Value)
  | setError (message : String)
  | setReturn (value : Value)

/-- What a question is answered with: a value, but for the time. -/
abbrev Question.Answer : Question → Type
  | .time => Calendar.Reading
  | _ => Value

/-- A computation that asks the run around it. -/
abbrev Asking (α : Type) := Dialogue Question Question.Answer α

end Scaffold.Expr

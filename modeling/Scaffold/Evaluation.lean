import Scaffold.Context
import Scaffold.Expr.Evaluate

/-!
# Evaluation — the expressions of a document in their context

Every expression is evaluated under the same names: the project, the document (`top`), the context
(`this`), and what a range has bound. After each evaluation the slots for an error and for a
return value are empty, whatever came of it: an error that an expression reports itself fails that
evaluation and no other.
-/

set_option autoImplicit false

namespace Scaffold

open Scaffold.Expr (Value)

/-- The names that expressions see. -/
abbrev Bindings := OrderedMap Value

/-- The names of every run. -/
def Bindings.standard (p : Project) : Bindings :=
  .ofList [("Project", p.toJson.toValue), ("top", .document), ("this", .context)]

/-- What an evaluation produces: the text, and the value that it returned, if it did. -/
structure Evaluated where
  text : String
  returned : Option Value := none

/-- A step of a run that only changes the context. -/
abbrev Step (α : Type) := Context → Except Error α × Context

namespace Step

variable {α β : Type}

/-- The result without any change. -/
def pure (a : α) : Step α := fun c => (.ok a, c)

/-- Goes on with a result in the context that it has left; an error ends the steps. -/
def bind (x : Step α) (f : α → Step β) : Step β := fun c =>
  match x c with
  | (.ok a, c) => f a c
  | (.error e, c) => (.error e, c)

instance : Monad Step where
  pure := Step.pure
  bind := Step.bind

/-- Fails. -/
def fail (e : Error) : Step α := fun c => (.error e, c)

/-- Changes the context. -/
def modify (f : Context → Context) : Step Unit := fun c => (.ok (), f c)

/-- Rewords the error of a step. -/
def mapError (f : Error → Error) (x : Step α) : Step α := fun c =>
  match x c with
  | (.ok a, c) => (.ok a, c)
  | (.error e, c) => (.error (f e), c)

end Step

/-- Evaluates a template text. A stop without a cause leaves the slots as they are; otherwise they
are emptied, and an error that was reported in them counts unless the text itself failed. -/
def render (template : String) (names : Bindings) : Step Evaluated := fun c =>
  match (Expr.render template names.entries).run Context.answer c with
  | (.error (.aborted _), c) => (.error .aborted, c)
  | (.error (.failed failure), c) => (.error (.expression c.name failure.message), c.drain)
  | (.ok text, c) =>
    match c.error with
    | some message => (.error (.expression c.name message), c.drain)
    | none => (.ok ⟨text, c.returned⟩, c.drain)

/-- Evaluates an expression without the blanks around it; a blank one stands for itself. -/
def evaluate (expr : String) (names : Bindings) : Step Evaluated :=
  if Text.isBlankText expr then return ⟨expr, none⟩
  else render (Text.trim expr) names

/-- Evaluates the content of a file, with all its blanks. -/
def evaluateContent (expr : String) (names : Bindings) : Step Evaluated :=
  if Text.isBlankText expr then return ⟨expr, none⟩
  else render expr names

/-- Evaluates an expression to its text. -/
def evaluateText (expr : String) (names : Bindings) : Step String := do
  return (← evaluate expr names).text

/-- Evaluates expressions to their texts, in order. -/
def evaluateTexts (names : Bindings) : List String → Step (List String)
  | [] => return []
  | expr :: exprs => do
    let text ← evaluateText expr names
    return text :: (← evaluateTexts names exprs)

/-- Evaluates a declared value, a list item by item. -/
def evaluateField (names : Bindings) : Field → Step Field
  | .text expr => return .text (← evaluateText expr names)
  | .list exprs => return .list (← evaluateTexts names exprs)

end Scaffold

import Scaffold.Evaluation
import Scaffold.System

/-!
# Work — steps of a run that reach outside

A run goes from context to context; some of its steps call the system on the way. An error ends
the work, and the context stays as it was left then.
-/

set_option autoImplicit false

namespace Scaffold

/-- A step of a run that may call the system. -/
def Work (α : Type) := Context → System (Except Error α × Context)

namespace Work

variable {α β : Type}

/-- The result without any effect. -/
def pure (a : α) : Work α := fun c => .done (.ok a, c)

/-- Goes on with a result in the context that it has left; an error ends the work. -/
def bind (x : Work α) (f : α → Work β) : Work β := fun c =>
  (x c).bind fun
    | (.ok a, c) => f a c
    | (.error e, c) => .done (.error e, c)

instance : Monad Work where
  pure := Work.pure
  bind := Work.bind

/-- Work that calls nothing. -/
def ofStep (x : Step α) : Work α := fun c => .done (x c)

/-- Work that leaves the context alone. -/
def ofSystem (x : System (Except Error α)) : Work α := fun c => x.bind fun r => .done (r, c)

/-- Ends the work. -/
def fail (e : Error) : Work α := fun c => .done (.error e, c)

/-- The context. -/
def get : Work Context := fun c => .done (.ok c, c)

/-- Changes the context. -/
def modify (f : Context → Context) : Work Unit := fun c => .done (.ok (), f c)

/-- Adds an entry to the report. -/
def report (block message : String) : Work Unit :=
  ofSystem do
    System.report ⟨block, message⟩
    return .ok ()

/-- Changes the context after work, whatever came of it. -/
def settle (x : Work α) (f : Context → Context) : Work α := fun c =>
  (x c).bind fun (r, c) => .done (r, f c)

end Work

end Scaffold

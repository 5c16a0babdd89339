/-!
# Dialogue — a computation and what stands around it

A dialogue computes by itself, except that it asks questions, one after the other, each answered
before the next is asked. All that it can learn of its surroundings, and all that it can do to
them, are the questions that it asks; how they are answered is said elsewhere. So what holds for
every way to answer holds for every network, every executor and every file system.
-/

set_option autoImplicit false

namespace Scaffold

/-- A computation that asks questions `q : Q` and is answered by values of `A q`. -/
inductive Dialogue (Q : Type) (A : Q → Type) (α : Type)
  | done (a : α)
  | ask (q : Q) (next : A q → Dialogue Q A α)

namespace Dialogue

variable {Q : Type} {A : Q → Type} {α β σ : Type}

/-- Goes on with the result of a dialogue. -/
def bind : Dialogue Q A α → (α → Dialogue Q A β) → Dialogue Q A β
  | .done a, f => f a
  | .ask q next, f => .ask q fun v => (next v).bind f

instance : Monad (Dialogue Q A) where
  pure := .done
  bind := Dialogue.bind

/-- The dialogue that asks a single question. -/
def put (q : Q) : Dialogue Q A (A q) := .ask q .done

/-- Leads a dialogue to its end: every question is answered in the state that the answers before
it have left. -/
def run (answer : (q : Q) → σ → A q × σ) : Dialogue Q A α → σ → α × σ
  | .done a, s => (a, s)
  | .ask q next, s => run answer (next (answer q s).1) (answer q s).2

theorem run_bind (answer : (q : Q) → σ → A q × σ) (d : Dialogue Q A α) (f : α → Dialogue Q A β)
    (s : σ) :
    (d.bind f).run answer s = (f (d.run answer s).1).run answer (d.run answer s).2 := by
  induction d generalizing s with
  | done a => rfl
  | ask q next ih => exact ih _ _

end Dialogue

end Scaffold

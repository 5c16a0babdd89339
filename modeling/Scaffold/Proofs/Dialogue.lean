import Scaffold.Dialogue

/-!
# Dialogue — what a dialogue has asked

A dialogue that is led to its end has asked a row of questions (`asked`), and the state that it has
left is a matter of that row alone. Whatever is true of every question that a dialogue can come to
(`Asks`) is true of the row, however the questions are answered; and whatever is true of every
result that it can come to (`Yields`) is true of the result.
-/

set_option autoImplicit false

namespace Scaffold

namespace Dialogue

variable {Q : Type} {A : Q → Type} {α β σ : Type}

/-- The questions of a dialogue that is led to its end, in their order. -/
def asked (answer : (q : Q) → σ → A q × σ) : Dialogue Q A α → σ → List Q
  | .done _, _ => []
  | .ask q next, s => q :: asked answer (next (answer q s).1) (answer q s).2

/-- Whatever it is answered, the dialogue asks only what satisfies the predicate. -/
def Asks (P : Q → Prop) : Dialogue Q A α → Prop
  | .done _ => True
  | .ask q next => P q ∧ ∀ v, Asks P (next v)

/-- Whatever it is answered, the dialogue ends in a result that satisfies the predicate. -/
def Yields (R : α → Prop) : Dialogue Q A α → Prop
  | .done a => R a
  | .ask _ next => ∀ v, Yields R (next v)

variable {answer : (q : Q) → σ → A q × σ} {P : Q → Prop}

theorem bind_congr {d d' : Dialogue Q A α} {f g : α → Dialogue Q A β} (hd : d = d')
    (hf : ∀ a, f a = g a) : d.bind f = d'.bind g := by
  rw [hd, funext hf]

theorem bind_done (d : Dialogue Q A α) : d.bind .done = d := by
  induction d with
  | done a => rfl
  | ask q next ih => exact congrArg (Dialogue.ask q) (funext ih)

theorem bind_assoc {γ : Type} (d : Dialogue Q A α) (f : α → Dialogue Q A β)
    (g : β → Dialogue Q A γ) : (d.bind f).bind g = d.bind fun a => (f a).bind g := by
  induction d with
  | done a => rfl
  | ask q next ih => exact congrArg (Dialogue.ask q) (funext ih)

instance : LawfulMonad (Dialogue Q A) :=
  LawfulMonad.mk' (Dialogue Q A) bind_done (fun _ _ => rfl) bind_assoc

/-- What goes on with a result asks behind it. -/
theorem asked_bind (d : Dialogue Q A α) (f : α → Dialogue Q A β) (s : σ) :
    (d.bind f).asked answer s =
      d.asked answer s ++ (f (d.run answer s).1).asked answer (d.run answer s).2 := by
  induction d generalizing s with
  | done a => rfl
  | ask q next ih => exact congrArg (q :: ·) (ih _ _)

/-- Leads a dialogue where answering is an action itself. -/
def lead {m : Type → Type} [Monad m] (answer : (q : Q) → m (A q)) : Dialogue Q A α → m α
  | .done a => pure a
  | .ask q next => answer q >>= fun v => (next v).lead answer

theorem lead_bind {m : Type → Type} [Monad m] [LawfulMonad m] (answer : (q : Q) → m (A q))
    (d : Dialogue Q A α) (f : α → Dialogue Q A β) :
    (d.bind f).lead answer = d.lead answer >>= fun a => (f a).lead answer := by
  induction d with
  | done a => exact (LawfulMonad.pure_bind a fun a => (f a).lead answer).symm
  | ask q next ih =>
    rw [lead, LawfulMonad.bind_assoc]
    exact congrArg (answer q >>= ·) (funext ih)

theorem run_lead (answer : (q : Q) → StateM σ (A q)) (d : Dialogue Q A α) (s : σ) :
    (d.lead answer).run s = d.run (fun q => (answer q).run) s := by
  induction d generalizing s with
  | done a => rfl
  | ask q next ih => exact ih _ _

/-- The state at the end is that of the first state behind all questions. -/
theorem run_snd (d : Dialogue Q A α) (s : σ) :
    (d.run answer s).2 = (d.asked answer s).foldl (fun s q => (answer q s).2) s := by
  induction d generalizing s with
  | done a => rfl
  | ask q next ih => exact ih _ _

theorem Asks.bind {d : Dialogue Q A α} {f : α → Dialogue Q A β} (h : d.Asks P)
    (hf : ∀ a, (f a).Asks P) : (d.bind f).Asks P := by
  induction d with
  | done a => exact hf a
  | ask q next ih => exact ⟨h.1, fun v => ih v (h.2 v)⟩

/-- A dialogue that is led by others asks what they ask. -/
theorem asks_lead {Q' : Type} {A' : Q' → Type} {P : Q' → Prop}
    {answer : (q : Q) → Dialogue Q' A' (A q)} (h : ∀ q, (answer q).Asks P) (d : Dialogue Q A α) :
    Asks P (d.lead answer) := by
  induction d with
  | done a => trivial
  | ask q next ih => exact (h q).bind ih

theorem Asks.mono {P' : Q → Prop} (hP : ∀ q, P q → P' q) {d : Dialogue Q A α} (h : d.Asks P) :
    d.Asks P' := by
  induction d with
  | done a => trivial
  | ask q next ih => exact ⟨hP q h.1, fun v => ih v (h.2 v)⟩

/-- What a dialogue asks at most, it has asked at most. -/
theorem Asks.forall_asked {d : Dialogue Q A α} (h : d.Asks P) (s : σ) :
    ∀ q ∈ d.asked answer s, P q := by
  induction d generalizing s with
  | done a => exact nofun
  | ask q next ih =>
    intro q' hmem
    rcases List.mem_cons.1 hmem with rfl | hmem
    · exact h.1
    · exact ih _ (h.2 _) _ q' hmem

/-- What no answer changes, no dialogue changes. -/
theorem run_keeps {τ : Type} {f : σ → τ} (hanswer : ∀ q s, f (answer q s).2 = f s)
    (d : Dialogue Q A α) (s : σ) : f (d.run answer s).2 = f s := by
  induction d generalizing s with
  | done a => rfl
  | ask q next ih => exact (ih _ _).trans (hanswer q s)

variable {R : α → Prop} {S : β → Prop}

theorem Yields.bind {d : Dialogue Q A α} {f : α → Dialogue Q A β} (h : d.Yields R)
    (hf : ∀ a, R a → (f a).Yields S) : (d.bind f).Yields S := by
  induction d with
  | done a => exact hf a h
  | ask q next ih => exact fun v => ih v (h v)

/-- What follows may not rely on what comes first. -/
theorem yields_bind {d : Dialogue Q A α} {f : α → Dialogue Q A β} (hf : ∀ a, (f a).Yields S) :
    (d.bind f).Yields S := by
  induction d with
  | done a => exact hf a
  | ask q next ih => exact fun v => ih v

theorem yields_of_forall (h : ∀ a, R a) (d : Dialogue Q A α) : d.Yields R := by
  induction d with
  | done a => exact h a
  | ask q next ih => exact fun v => ih v

theorem Yields.mono {R' : α → Prop} (hR : ∀ a, R a → R' a) {d : Dialogue Q A α}
    (h : d.Yields R) : d.Yields R' := by
  induction d with
  | done a => exact hR a h
  | ask q next ih => exact fun v => ih v (h v)

/-- What a dialogue ends in at any rate, it has ended in. -/
theorem Yields.run {d : Dialogue Q A α} (h : d.Yields R) (s : σ) : R (d.run answer s).1 := by
  induction d generalizing s with
  | done a => exact h
  | ask q next ih => exact ih _ (h _) _

theorem Yields.of_run_eq {d : Dialogue Q A α} {a : α} {s s' : σ} (h : d.Yields R)
    (hrun : d.run answer s = (a, s')) : R a := by
  have hresult : R (d.run answer s).1 := h.run s
  rw [hrun] at hresult
  exact hresult

end Dialogue

end Scaffold

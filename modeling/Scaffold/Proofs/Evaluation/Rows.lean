import Scaffold.Proofs.Evaluation.Signals
import Scaffold.Proofs.Generation.Fields

/-!
# Rows — expressions that are evaluated one after the other

What evaluates several expressions does so in a row, and goes no further than to the first that has
no value. The row is told from two sides: by the texts that come of it, from which a step makes its
result (`Step.Reads`), and by the evaluations that it comes to, each of which begins where the one
before it has ended (`visitsInRow_linked`).
-/

set_option autoImplicit false

namespace Scaffold

/-! ## Steps one after the other -/

namespace Step

variable {α β : Type} {c c' : Context}

theorem bind_of_ok {x : Step α} {f : α → Step β} {a : α}
    (h : x c = (.ok a, c')) : (x >>= f) c = f a c' := by
  change Step.bind x f c = _
  rw [Step.bind, h]

theorem bind_of_error {x : Step α} {f : α → Step β} {e : Error}
    (h : x c = (.error e, c')) : (x >>= f) c = (.error e, c') := by
  change Step.bind x f c = _
  rw [Step.bind, h]

instance : LawfulMonad Step :=
  LawfulMonad.mk' Step
    (fun x => funext fun c => by
      change Step.bind x _ c = x c
      rw [Step.bind]
      obtain ⟨result, c'⟩ := x c
      cases result <;> rfl)
    (fun _ _ => rfl)
    (fun x f g => funext fun c => by
      change Step.bind (Step.bind x f) g c = Step.bind x (fun a => Step.bind (f a) g) c
      rw [Step.bind, Step.bind, Step.bind]
      obtain ⟨result, c'⟩ := x c
      cases result <;> rfl)

end Step

theorem evaluateTexts_eq_bind (names : Bindings) (expr : String) (exprs : List String) :
    evaluateTexts names (expr :: exprs) =
      evaluateText expr names >>= fun text =>
        evaluateTexts names exprs >>= fun texts => pure (text :: texts) := rfl

/-- Evaluating a row is evaluating its beginning and then its rest. -/
theorem evaluateTexts_append (names : Bindings) (exprs more : List String) :
    evaluateTexts names (exprs ++ more) =
      evaluateTexts names exprs >>= fun texts =>
        evaluateTexts names more >>= fun behind => pure (texts ++ behind) := by
  induction exprs with
  | nil => exact (bind_pure (evaluateTexts names more)).symm
  | cons expr exprs ih =>
    rw [List.cons_append, evaluateTexts_eq_bind, evaluateTexts_eq_bind, ih]
    simp only [bind_assoc, pure_bind, List.cons_append]

/-! ## The texts of a row -/

namespace Step

variable {α β : Type} {names : Bindings} {exprs more : List String} {R : List String → α → Prop}
  {S : List String → β → Prop}

/-- The step evaluates expressions in a row and does nothing else: it fails as the first of them
does that fails, and otherwise its result is one for their texts. -/
def Reads (names : Bindings) (exprs : List String) (R : List String → α → Prop) (x : Step α) :
    Prop :=
  ∀ c, match evaluateTexts names exprs c with
    | (.ok texts, c') => ∃ a, x c = (.ok a, c') ∧ R texts a
    | (.error e, c') => x c = (.error e, c')

theorem Reads.bind {x : Step α} {f : α → Step β} (hx : Reads names exprs R x)
    (hf : ∀ texts a, R texts a → Reads names more (fun behind => S (texts ++ behind)) (f a)) :
    Reads names (exprs ++ more) S (x >>= f) := by
  intro c
  have hfirst := hx c
  rw [evaluateTexts_append]
  cases hexprs : evaluateTexts names exprs c with
  | mk result c' =>
    rw [hexprs] at hfirst
    cases result with
    | error e =>
      rw [bind_of_error hexprs]
      exact bind_of_error hfirst
    | ok texts =>
      obtain ⟨a, ha, hR⟩ := hfirst
      have hrest := hf texts a hR c'
      rw [bind_of_ok hexprs, bind_of_ok ha]
      cases hmore : evaluateTexts names more c' with
      | mk result c'' =>
        rw [hmore] at hrest
        cases result with
        | error e =>
          rw [bind_of_error hmore]
          exact hrest
        | ok behind =>
          rw [bind_of_ok hmore]
          exact hrest

/-- What is made of the result of a step is made of its texts. -/
theorem Reads.map {x : Step α} (hx : Reads names exprs R x) {f : α → β}
    (hf : ∀ texts a, R texts a → S texts (f a)) :
    Reads names exprs S (x >>= fun a => Pure.pure (f a)) := by
  intro c
  have hfirst := hx c
  cases hexprs : evaluateTexts names exprs c with
  | mk result c' =>
    rw [hexprs] at hfirst
    cases result with
    | error e => exact bind_of_error hfirst
    | ok texts =>
      obtain ⟨a, ha, hR⟩ := hfirst
      exact ⟨f a, bind_of_ok ha, hf texts a hR⟩

theorem reads_pure {a : α} (h : R [] a) : Reads names [] R (Pure.pure a : Step α) :=
  fun _ => ⟨a, rfl, h⟩

end Step

open Step (Reads)

theorem reads_evaluateTexts (names : Bindings) (exprs : List String) :
    Reads names exprs (fun texts row => row = texts ∧ texts.length = exprs.length)
      (evaluateTexts names exprs) := by
  intro c
  cases hexprs : evaluateTexts names exprs c with
  | mk result c' =>
    cases result with
    | error e => rfl
    | ok texts => exact ⟨texts, rfl, rfl, length_evaluateTexts hexprs⟩

theorem reads_evaluateText (names : Bindings) (expr : String) :
    Reads names [expr] (fun texts text => texts = [text]) (evaluateText expr names) := by
  intro c
  rw [evaluateTexts_eq_bind]
  cases hexpr : evaluateText expr names c with
  | mk result c' =>
    cases result with
    | error e => rw [Step.bind_of_error hexpr]
    | ok text =>
      rw [Step.bind_of_ok hexpr]
      exact ⟨text, rfl, rfl⟩

/-- A field is evaluated item by item. -/
theorem reads_evaluateField (names : Bindings) (field : Field) :
    Reads names field.texts
      (fun texts result => result.texts = texts ∧ texts.length = field.texts.length)
      (evaluateField names field) := by
  cases field with
  | text expr =>
    refine (reads_evaluateText names expr).map fun texts text htext => ?_
    rw [htext]
    exact ⟨rfl, rfl⟩
  | list exprs =>
    exact (reads_evaluateTexts names exprs).map fun texts row ⟨hrow, hlength⟩ => ⟨hrow, hlength⟩

/-! ## The evaluations of a row -/

/-- Evaluations that follow each other, with the same bindings, from a context to another one. -/
inductive Linked (names : Bindings) : List Visit → Context → Context → Prop
  | nil (c : Context) : Linked names [] c c
  | cons {v : Visit} {visits : List Visit} {c : Context} (hnames : v.names = names)
    (hrest : Linked names visits v.after c) : Linked names (v :: visits) v.before c

theorem evaluateText_eq (text : String) (names : Bindings) (c : Context) :
    evaluateText text names c =
      ((⟨{ text }, names, c⟩ : Visit).text, (⟨{ text }, names, c⟩ : Visit).after) :=
  Step.bind_pure_apply (evaluate text names) _ c

/-- The evaluations of a row follow each other. -/
theorem visitsInRow_linked (names : Bindings) (texts : List String) (c : Context) :
    Linked names (visitsInRow names texts c) c (evaluateTexts names texts c).2 := by
  induction texts generalizing c with
  | nil => exact .nil c
  | cons text texts ih =>
    rw [evaluateTexts_cons, visitsInRow]
    cases (⟨{ text }, names, c⟩ : Visit).result with
    | error e => exact .cons rfl (.nil _)
    | ok e => exact .cons rfl (ih _)

/-- They are those of the expressions in the row, up to one of them. -/
theorem visitsInRow_order (names : Bindings) (texts : List String) (c : Context) :
    (visitsInRow names texts c).map Visit.expression <+: texts.map ({ text := · }) := by
  induction texts generalizing c with
  | nil => exact List.nil_prefix
  | cons text texts ih =>
    rw [visitsInRow, List.map_cons, List.map_cons, List.prefix_cons_inj]
    cases (⟨{ text }, names, c⟩ : Visit).result with
    | error e => exact List.nil_prefix
    | ok e => exact ih _

/-- A row that fails ends with an evaluation that fails, and with the first one. -/
theorem visitsInRow_failed {names : Bindings} {texts : List String} {c : Context} {e : Error}
    (h : (evaluateTexts names texts c).1 = .error e) :
    ∃ front last, visitsInRow names texts c = front ++ [last] ∧
      (∀ v ∈ front, ∃ text, v.text = .ok text) ∧ last.text = .error e := by
  induction texts generalizing c with
  | nil => cases h
  | cons text texts ih =>
    rw [evaluateTexts_cons] at h
    rw [visitsInRow]
    cases hresult : (⟨{ text }, names, c⟩ : Visit).result with
    | error error =>
      simp only [hresult, Except.error.injEq] at h
      refine ⟨[], _, rfl, by simp, ?_⟩
      rw [Visit.text, hresult, ← h]
      rfl
    | ok evaluated =>
      simp only [hresult] at h
      cases hrest : (evaluateTexts names texts (⟨{ text }, names, c⟩ : Visit).after).1 with
      | ok row =>
        rw [hrest] at h
        cases h
      | error error =>
        rw [hrest] at h
        cases h
        obtain ⟨front, last, hvisits, hfront, hlast⟩ := ih hrest
        refine ⟨_ :: front, last, congrArg _ hvisits, ?_, hlast⟩
        rw [List.forall_mem_cons]
        exact ⟨⟨evaluated.text, by rw [Visit.text, hresult]; rfl⟩, hfront⟩

end Scaffold

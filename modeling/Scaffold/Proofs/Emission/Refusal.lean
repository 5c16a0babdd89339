import Scaffold.Proofs.Emission.Planning

/-!
# Refusal — a range that cannot be walked is refused before the first file

The values that a range registers are all classified before the walk begins, and an empty one is met
before the walk acts for the first time, however far inside it is. So whichever of them cannot be
walked, nothing is done for any combination (`eachCombination_of_fault`), and the error names the
first value of an unsupported shape, or else the first empty one (`FirstFault`).
-/

set_option autoImplicit false

namespace Scaffold

open Scaffold.Expr (Value)

namespace RangeSource

/-! ## Values that cannot be walked -/

/-- The value is neither fields nor a row nor a map. A reference to a running evaluation is replaced
by what it stands for before it is registered, and has no elements of its own. -/
def IsUnsupported : Value → Prop
  | .fields .. | .seq .. | .group .. | .iterable .. | .repeated .. | .map .. | .view .. => False
  | _ => True

/-- The value can be walked, but has no element. -/
def IsEmptySource (v : Value) : Prop :=
  ∃ source, ofValue? v = some source ∧ source.isEmpty = true

/-- The first element of a list that satisfies a predicate, and its position. -/
structure FirstAt {α : Type} (P : α → Prop) (as : List α) (position : Nat) (a : α) : Prop where
  here : as[position]? = some a
  holds : P a
  before : ∀ q b, q < position → as[q]? = some b → ¬ P b

/-- The fault of a row of values: the first one of an unsupported shape, or else the first empty
one. -/
inductive FirstFault (values : List Value) : RangeFault → Prop
  | unsupported {position : Nat} {v : Value} (h : FirstAt IsUnsupported values position v) :
      FirstFault values (.unsupported position v.kind.name)
  | empty {position : Nat} {v : Value} (hall : ∀ w ∈ values, ¬ IsUnsupported w)
      (h : FirstAt IsEmptySource values position v) : FirstFault values (.empty position)

section First

variable {α : Type} {P : α → Prop} {a b : α} {as : List α} {position : Nat}

theorem firstAt_head (h : P a) : FirstAt P (a :: as) 0 a where
  here := rfl
  holds := h
  before _ _ hq := absurd hq (Nat.not_lt_zero _)

theorem FirstAt.behind (h : FirstAt P as position b) (ha : ¬ P a) :
    FirstAt P (a :: as) (position + 1) b where
  here := h.here
  holds := h.holds
  before q w hq hw := by
    cases q with
    | zero =>
      obtain rfl : a = w := Option.some.inj hw
      exact ha
    | succ q => exact h.before q w (Nat.lt_of_succ_lt_succ hq) hw

end First

/-- A value of an unsupported shape is no source, and every other one is. -/
theorem ofValue?_eq_none_iff {v : Value} : ofValue? v = none ↔ IsUnsupported v := by
  cases v <;> simp [ofValue?, IsUnsupported, Value.kind, enumerated?_eq, Value.elements?]

/-- The first value of an unsupported shape is reported. -/
theorem ofValuesFrom_of_unsupported {values : List Value} (h : ∃ v ∈ values, IsUnsupported v)
    (start : Nat) :
    ∃ position v, FirstAt IsUnsupported values position v ∧
      ofValuesFrom start values =
        .error (.range (.unsupported (start + position) v.kind.name)) := by
  induction values generalizing start with
  | nil => simp at h
  | cons v vs ih =>
    by_cases hv : IsUnsupported v
    · refine ⟨0, v, firstAt_head hv, ?_⟩
      rw [ofValuesFrom, ofValue?_eq_none_iff.2 hv]
      rfl
    · have hrest : ∃ w ∈ vs, IsUnsupported w := (List.exists_mem_cons_iff ..).1 h |>.resolve_left hv
      obtain ⟨position, w, hfirst, herror⟩ := ih hrest (start + 1)
      obtain ⟨source, hsource⟩ := Option.ne_none_iff_exists'.1 (mt ofValue?_eq_none_iff.1 hv)
      refine ⟨position + 1, w, hfirst.behind hv, ?_⟩
      rw [ofValuesFrom, hsource]
      dsimp only
      rw [herror, Nat.add_assoc, Nat.add_comm 1]
      rfl

/-- Where every shape is supported, every value is a source. -/
theorem ofValuesFrom_of_supported {values : List Value} (h : ∀ v ∈ values, ¬ IsUnsupported v)
    (start : Nat) :
    ∃ sources, ofValuesFrom start values = .ok sources ∧
      List.Forall₂ (fun v source => ofValue? v = some source) values sources := by
  induction values generalizing start with
  | nil => exact ⟨[], rfl, .nil⟩
  | cons v vs ih =>
    obtain ⟨sources, hsources, hall⟩ :=
      ih (fun w hw => h w (List.mem_cons_of_mem v hw)) (start + 1)
    obtain ⟨source, hsource⟩ := Option.ne_none_iff_exists'.1
      (mt ofValue?_eq_none_iff.1 (h v List.mem_cons_self))
    refine ⟨source :: sources, ?_, .cons hsource hall⟩
    rw [ofValuesFrom, hsource]
    dsimp only
    rw [hsources]
    rfl

/-- The level at which a walk meets a source without elements is the place of the first empty
value. -/
theorem emptyLevel?_of_empty {values : List Value} {sources : List RangeSource}
    (hsources : List.Forall₂ (fun v source => ofValue? v = some source) values sources)
    (h : ∃ v ∈ values, IsEmptySource v) (level : Nat) :
    ∃ position v, FirstAt IsEmptySource values position v ∧
      Range.emptyLevel? sources level = some (level + position) := by
  induction hsources generalizing level with
  | nil => simp at h
  | @cons v source vs sources hsource _ ih =>
    have hiff : IsEmptySource v ↔ source.isEmpty = true := by
      constructor
      · rintro ⟨source', hsource', hempty⟩
        obtain rfl := Option.some.inj (hsource.symm.trans hsource')
        exact hempty
      · exact fun hempty => ⟨source, hsource, hempty⟩
    by_cases hv : IsEmptySource v
    · exact ⟨0, v, firstAt_head hv, by rw [Range.emptyLevel?, if_pos (hiff.1 hv)]; rfl⟩
    · have hrest : ∃ w ∈ vs, IsEmptySource w := (List.exists_mem_cons_iff ..).1 h |>.resolve_left hv
      obtain ⟨position, w, hfirst, hlevel⟩ := ih hrest (level + 1)
      refine ⟨position + 1, w, hfirst.behind hv, ?_⟩
      rw [Range.emptyLevel?, if_neg (mt hiff.2 hv), hlevel, Nat.add_assoc, Nat.add_comm 1]

end RangeSource

namespace Emission

open RangeSource (IsUnsupported IsEmptySource FirstFault)

/-! ## Ranges that cannot be walked -/

section Faults

variable (template : String) {range : String} {names : Bindings} {c c₁ : Context} {e : Evaluated}
  {values : List Value}

/-- What a range expression registers is classified, and taken out of the context. -/
theorem rangeSources_of_values
    (heval : evaluate (rangeExpression range) names c = (.ok e, c₁))
    (hvalues : c₁.pathRange = some values) :
    rangeSources template range names c =
      (RangeSource.ofValues values, { c₁ with pathRange := none }) := by
  rw [rangeSources, heval]
  dsimp only
  rw [hvalues]

/-- Where a registered value cannot be walked, nothing is done for any combination, and the first
fault is what comes of it. -/
theorem eachCombination_of_fault (hfree : Range.IsFree 0 names) (hrange : range.isEmpty = false)
    (heval : evaluate (rangeExpression range) names c = (.ok e, c₁))
    (hvalues : c₁.pathRange = some values)
    (hbad : ∃ v ∈ values, IsUnsupported v ∨ IsEmptySource v) :
    ∃ fault, FirstFault values fault ∧ ∀ action,
      eachCombination template range action names c =
        .done (.error (.range fault), names, { c₁ with pathRange := none }) := by
  have hsources := rangeSources_of_values template heval hvalues
  by_cases hshape : ∃ v ∈ values, IsUnsupported v
  · obtain ⟨position, v, hfirst, herror⟩ := RangeSource.ofValuesFrom_of_unsupported hshape 0
    rw [Nat.zero_add] at herror
    refine ⟨_, .unsupported hfirst, fun action => ?_⟩
    rw [RangeSource.ofValues, herror] at hsources
    rw [Generation.eachCombination_eq hfree hrange, Work.ofStep_bind_of_error hsources]
    rfl
  · have hall : ∀ v ∈ values, ¬ IsUnsupported v := fun v hmem hv => hshape ⟨v, hmem, hv⟩
    have hempty : ∃ v ∈ values, IsEmptySource v := by
      obtain ⟨v, hmem, hv⟩ := hbad
      exact ⟨v, hmem, hv.resolve_left (hall v hmem)⟩
    obtain ⟨sources, hok, hmatch⟩ := RangeSource.ofValuesFrom_of_supported hall 0
    obtain ⟨position, v, hfirst, hlevel⟩ := RangeSource.emptyLevel?_of_empty hmatch hempty 0
    rw [Nat.zero_add] at hlevel
    refine ⟨_, .empty hall hfirst, fun action => ?_⟩
    rw [RangeSource.ofValues, hok] at hsources
    rw [Generation.eachCombination_eq hfree hrange, Work.ofStep_bind_of_ok hsources, hlevel]
    rfl

end Faults

/-- A template whose range registers a value that cannot be walked is refused before anything is
done for a combination: whatever would be done for one, none of it is done, nothing is called, and
the names are as they were. The error names the first value of an unsupported shape, or else the
first empty one, at whichever level it is. -/
theorem process_refuses_faulty_range (roots : Roots) (template : String) (spec : FileSpec)
    {names : Bindings} (hfree : Range.IsFree 0 names) {c c₁ : Context} {e : Evaluated}
    {values : List Value} (hignore : spec.ignore = false)
    (hrange : (Text.trim spec.range).isEmpty = false)
    (heval : evaluate (rangeExpression (Text.trim spec.range)) names (begun template spec c) =
      (.ok e, c₁))
    (hvalues : c₁.pathRange = some values)
    (hbad : ∃ v ∈ values, IsUnsupported v ∨ IsEmptySource v) :
    ∃ fault, FirstFault values fault ∧
      process roots template spec names c =
        .done (.error (.range fault), names, { c₁ with pathRange := none }) ∧
      ∀ action : Bindings → Work Unit,
        eachCombination template (Text.trim spec.range) action names (begun template spec c) =
          .done (.error (.range fault), names, { c₁ with pathRange := none }) := by
  obtain ⟨fault, hfirst, hdone⟩ :=
    eachCombination_of_fault template hfree hrange heval hvalues hbad
  refine ⟨fault, hfirst, ?_, hdone⟩
  rw [process, hignore, if_neg Bool.false_ne_true]
  exact hdone (emit roots template spec)

/-- A template whose innermost source is empty. -/
def hollow : FileSpec where
  range := "[1, 2], ['a'], []"
  content := "text"

/-- Though both sources in front of it have elements, no file is written. -/
theorem process_refuses_faulty_range_hollow :
    ∃ c₁, process ⟨"out", "."⟩ "f" hollow (.standard {}) pristine =
      .done (.error (.range (.empty 2)), .standard {}, c₁) := by
  have hresult : ((process ⟨"out", "."⟩ "f" hollow (.standard {}) pristine).run
      (Machine.answer idle) ⟨{}, []⟩).1.1 = .error (.range (.empty 2)) := by decide +kernel
  cases heval : evaluate (rangeExpression (Text.trim hollow.range)) (.standard {})
      (begun "f" hollow pristine) with
  | mk r c₁ =>
    have hok : (evaluate (rangeExpression (Text.trim hollow.range)) (.standard {})
      (begun "f" hollow pristine)).1.toBool = true := by decide +kernel
    have hbad : ((evaluate (rangeExpression (Text.trim hollow.range)) (.standard {})
        (begun "f" hollow pristine)).2.pathRange.getD []).any (fun v =>
          ((RangeSource.ofValue? v).map RangeSource.isEmpty).getD false) = true := by
      decide +kernel
    rw [heval] at hok hbad
    cases r with
    | error e => cases hok
    | ok e =>
      cases hvalues : c₁.pathRange with
      | none =>
        rw [hvalues] at hbad
        cases hbad
      | some values =>
        rw [hvalues] at hbad
        obtain ⟨v, hmem, hv⟩ := List.any_eq_true.1 hbad
        cases hsource : RangeSource.ofValue? v with
        | none =>
          rw [hsource] at hv
          cases hv
        | some source =>
          rw [hsource] at hv
          obtain ⟨fault, -, hprocess, -⟩ := process_refuses_faulty_range ⟨"out", "."⟩ "f" hollow
            (Range.isFree_standard {}) rfl (by decide +kernel) heval hvalues
            ⟨v, hmem, .inr ⟨source, hsource, hv⟩⟩
          rw [hprocess] at hresult
          cases hresult
          exact ⟨_, hprocess⟩

end Emission

end Scaffold

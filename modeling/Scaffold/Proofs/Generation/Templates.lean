import Scaffold.Generation
import Scaffold.Proofs.Range
import Scaffold.Proofs.Work

/-!
# Templates — a template is surveyed, and then emitted

The combinations of a template are worked on while its ranges are walked. Since nothing that is done
for one combination changes the names of the next, that is the same as finding out all of them first
(`survey`) and then emitting one after the other (`process_eq`); and the templates of a document
follow each other in the order of declaration (`emitEntries_eq`).
-/

set_option autoImplicit false

namespace Scaffold

namespace Generation

/-- Finds out the combinations of a template: what the names are for each. An ignored template has
none. -/
def survey (names : Bindings) (template : String) (spec : FileSpec) : Work (List Bindings) :=
  if spec.ignore then do
    Work.ofSystem (Emission.done template "ignore")
    return []
  else do
    Work.modify fun c => (c.enter .templates template spec.toValue).reset
    if (Text.trim spec.range).isEmpty then return [names]
    else
      let sources ← Work.ofStep (Emission.rangeSources template (Text.trim spec.range) names)
      match Range.emptyLevel? sources 0 with
      | some n => Work.fail (.range (.empty n))
      | none => return Range.rows sources 0 names

/-! ## What a survey leaves alone and calls -/

/-- Takes the sources that are registered. -/
def takeSources (template : String) : Step (List RangeSource) := fun c =>
  let sources : Except Error (List RangeSource) :=
    match c.pathRange with
    | none => .error (.range (.unregistered template))
    | some values => RangeSource.ofValues values
  (sources, { c with pathRange := none })

/-- A range is evaluated, and then the sources that it has registered are taken. -/
theorem rangeSources_eq (template range : String) (names : Bindings) :
    Emission.rangeSources template range names =
      evaluate (Emission.rangeExpression range) names >>= fun _ => takeSources template := by
  funext c
  change _ = Step.bind (evaluate (Emission.rangeExpression range) names)
    (fun _ => takeSources template) c
  rw [Emission.rangeSources, Step.bind]
  obtain ⟨result, c'⟩ := evaluate (Emission.rangeExpression range) names c
  cases result <;> rfl

/-- What is taken of a range are its sources, or an error of the range. -/
theorem takeSources_throws {E : Error → Prop} (hrange : ∀ fault, E (.range fault))
    (template : String) (c : Context) : ErrorIn E (takeSources template c).1 := by
  rw [takeSources]
  dsimp only
  split
  · exact hrange _
  · exact Emission.ofValuesFrom_errorIn hrange _ 0

theorem rangeSources_evaluates {τ : Type} {f : Context → τ}
    (hrange : ∀ c, f { c with pathRange := none } = f c) (template range : String)
    (names : Bindings) : Step.Evaluates f (Emission.rangeSources template range names) := by
  rw [rangeSources_eq]
  exact (evaluate_evaluates _ names).bind fun _ =>
    .quiet ⟨fun _ _ _ _ => rfl, takeSources_throws (fun _ => trivial) template⟩ hrange

/-- A survey changes nothing that lasts. -/
theorem survey_evaluates (names : Bindings) (template : String) (spec : FileSpec) :
    Work.Evaluates Context.afresh (survey names template spec) := by
  rw [survey]
  generalize Text.trim spec.range = range
  split
  · exact .bind (.ofSystem (Emission.done_yields _ _)) fun _ => Work.evaluates_pure _
  · refine .bind (Work.evaluates_modify (fun _ _ => rfl) fun _ => rfl) fun _ => ?_
    split
    · exact Work.evaluates_pure _
    · refine .bind (.ofStep (rangeSources_evaluates (fun _ => rfl) template _ names)) fun sources => ?_
      split
      · exact Work.evaluates_fail trivial
      · exact Work.evaluates_pure _

theorem emit_evaluates_afresh (roots : Emission.Roots) (template : String) (spec : FileSpec)
    (row : Bindings) : Work.Evaluates Context.afresh (Emission.emit roots template spec row) :=
  (Emission.emit_evaluates roots template spec row).mono fun _ _ => congrArg Context.afresh

theorem forEach_keeps {τ α : Type} {f : Context → τ} {x : α → Work Unit}
    (hkeeps : ∀ a, Work.Keeps f (x a)) (as : List α) : Work.Keeps f (forEach x as) := by
  induction as with
  | nil => exact Work.keeps_pure _
  | cons a as ih => exact (hkeeps a).bind fun _ => ih

theorem survey_calls (names : Bindings) (template : String) (spec : FileSpec) :
    Work.Calls (Only [.report]) (survey names template spec) := by
  rw [survey]
  generalize Text.trim spec.range = range
  split
  · exact (Work.calls_ofSystem (Emission.asks_done _ _)).bind fun _ => Work.calls_pure _
  · refine (Work.calls_modify _).bind fun _ => ?_
    split
    · exact Work.calls_pure _
    · refine (Work.calls_ofStep _).bind fun sources => ?_
      split
      · exact Work.calls_fail _
      · exact Work.calls_pure _

/-! ## Templates in a row -/

section Templates

variable {roots : Emission.Roots} {names : Bindings}

theorem forEach_singleton {α : Type} (f : α → Work Unit) (a : α) : forEach f [a] = f a := by
  funext c
  refine Eq.trans (Dialogue.bind_congr rfl fun r => ?_) (Dialogue.bind_done _)
  obtain ⟨result, c'⟩ := r
  cases result <;> rfl

/-- Acting in turn on a state that is handed on is working on one after the other. -/
theorem inTurn_eq_forEach {α : Type} (f : α → Work Unit) (as : List α) (c : Context) :
    Range.inTurn (m := StateT Context System) f as c = forEach f as c := by
  induction as generalizing c with
  | nil => rfl
  | cons a as ih =>
    refine Dialogue.bind_congr rfl fun r => ?_
    obtain ⟨result, c'⟩ := r
    cases result with
    | ok u => exact ih c'
    | error e => rfl

/-- The combinations of a template are worked on one after the other, once they are known. -/
theorem eachCombination_eq {template range : String} {action : Bindings → Work Unit}
    (hfree : Range.IsFree 0 names) (hrange : range.isEmpty = false) (c : Context) :
    Emission.eachCombination template range action names c =
      ((Work.ofStep (Emission.rangeSources template range names) >>= fun sources =>
        (match Range.emptyLevel? sources 0 with
          | some n => Work.fail (.range (.empty n))
          | none => forEach action (Range.rows sources 0 names) : Work Unit)) c).bind
        fun (r, c) => .done (r, names, c) := by
  rw [Emission.eachCombination, hrange]
  cases h : Emission.rangeSources template range names c with
  | mk result c' =>
    cases result with
    | error e =>
      rw [Work.ofStep_bind_of_error h]
      rfl
    | ok sources =>
      rw [Work.ofStep_bind_of_ok h]
      change (Range.walk (m := StateT Context System) action sources 0 names c').bind _ = _
      rw [Range.walk_eq (m := StateT Context System) action sources 0 names hfree]
      refine (Dialogue.bind_assoc _ _ _).trans (Dialogue.bind_congr ?_ fun _ => rfl)
      unfold Range.outcome
      cases Range.emptyLevel? sources 0 with
      | some n => rfl
      | none => exact inTurn_eq_forEach action _ c'

/-- A template is surveyed, and then its combinations are emitted one after the other. -/
theorem process_eq (hfree : Range.IsFree 0 names) (template : String) (spec : FileSpec)
    (c : Context) :
    Emission.process roots template spec names c =
      ((survey names template spec >>= forEach (Emission.emit roots template spec)) c).bind
        fun (r, c) => .done (r, names, c) := by
  rw [Emission.process, survey]
  generalize Text.trim spec.range = range
  split
  · refine Eq.trans ?_ (Dialogue.bind_assoc _ _ _).symm
    refine Eq.trans ?_ (Dialogue.bind_assoc _ _ _).symm
    refine Eq.trans ?_ (Dialogue.bind_assoc _ _ _).symm
    refine Dialogue.bind_congr rfl fun r => ?_
    cases r <;> rfl
  · have hmodify (x : Work (List Bindings)) :
        ((Work.modify (fun c => (c.enter .templates template spec.toValue).reset) >>= fun _ => x)
          >>= forEach (Emission.emit roots template spec)) c =
        (x >>= forEach (Emission.emit roots template spec))
          (c.enter .templates template spec.toValue).reset := rfl
    rw [hmodify]
    generalize (c.enter .templates template spec.toValue).reset = c'
    cases hrange : range.isEmpty with
    | true =>
      rw [Emission.eachCombination, if_pos hrange, if_pos rfl]
      exact Dialogue.bind_congr (congrFun (forEach_singleton _ names) c').symm fun _ => rfl
    | false =>
      rw [eachCombination_eq hfree hrange, if_neg Bool.false_ne_true]
      refine Dialogue.bind_congr ?_ fun _ => rfl
      cases h : Emission.rangeSources template range names c' with
      | mk result c'' =>
        cases result with
        | error e =>
          rw [Work.ofStep_bind_of_error h]
          refine Eq.trans ?_ (Dialogue.bind_congr (Work.ofStep_bind_of_error h _).symm fun _ => rfl)
          rfl
        | ok sources =>
          rw [Work.ofStep_bind_of_ok h]
          refine Eq.trans ?_ (Dialogue.bind_congr (Work.ofStep_bind_of_ok h _).symm fun _ => rfl)
          cases Range.emptyLevel? sources 0 <;> rfl

/-- The templates of a document are processed one after the other, all under the same names. -/
theorem emitEntries_eq (hfree : Range.IsFree 0 names) (entries : List (String × FileSpec)) :
    emitEntries roots entries names =
      forEach (fun entry => survey names entry.1 entry.2 >>=
        forEach (Emission.emit roots entry.1 entry.2)) entries := by
  funext c
  induction entries generalizing c with
  | nil => rfl
  | cons entry entries ih =>
    obtain ⟨template, spec⟩ := entry
    rw [emitEntries]
    refine Eq.trans (Dialogue.bind_congr (process_eq hfree template spec c) fun _ => rfl) ?_
    refine (Dialogue.bind_assoc _ _ _).trans (Dialogue.bind_congr rfl fun r => ?_)
    obtain ⟨result, c'⟩ := r
    cases result with
    | ok u => exact ih c'
    | error e => rfl

end Templates

end Generation

end Scaffold

import Scaffold.Proofs.Emission.Splicing
import Scaffold.Proofs.Generation.Templates

/-!
# Planning — what a template comes to, whatever came before it

What a template does is settled before any of it is done: the operations of its combinations, up to
the first that cannot be planned (`planned`). Processing the template performs them in their order,
until one fails (`process_performs`). Nothing that was evaluated for another template or another
combination has a part in it: a template begins with empty slots, and a combination that was planned
leaves none behind (`plan_settles`). All that goes on from one to the next is the time: an expression
that asks for it is told what the clock shows then. So every template in a row, in whatever order
they stand and whatever came of those before it, plans what it would plan as the first one that is
told the same times (`turns_independent`).
-/

set_option autoImplicit false

namespace Scaffold

open Calendar (Clock)
open Generation (survey forEach)

namespace Emission

variable {roots : Roots} {template : String} {spec : FileSpec} {names : Bindings}

/-! ## The plan of a template -/

/-- What is planned: operations in their order, and the error that ends the planning, if one
does. -/
structure Planned where
  operations : List Operation
  error : Option Error

namespace Planned

/-- What is planned when every combination is planned as far as the first failure. -/
def ofOutcomes : List (Except Error Operation) → Planned
  | [] => ⟨[], none⟩
  | .ok operation :: outcomes =>
    ⟨operation :: (ofOutcomes outcomes).operations, (ofOutcomes outcomes).error⟩
  | .error e :: _ => ⟨[], some e⟩

/-- Performs the operations that are planned, until one fails. -/
def perform (template : String) (p : Planned) : System (Except Error Unit) :=
  (Range.inTurn (m := System) (apply template) p.operations).bind fun
    | .ok () => .done (match p.error with | some e => .error e | none => .ok ())
    | .error e => .done (.error e)

end Planned

/-- The context in which a template is begun. -/
def begun (template : String) (spec : FileSpec) (c : Context) : Context :=
  (c.enter .templates template spec.toValue).reset

/-- How combinations are planned. Only the first of them finds a queue that is not empty, if the
expression of the range has queued blocks; and every other one finds the clock as the one before it
has left it. -/
def planRows (roots : Roots) (template : String) (spec : FileSpec) (c : Context) :
    List Bindings → List (Except Error Operation)
  | [] => []
  | row :: rows =>
    (plan roots template spec row c).1 ::
      planRows roots template spec
        (c.clearFile.setClock (plan roots template spec row c).2.clock) rows

/-- What is planned for a template. -/
def planned (roots : Roots) (template : String) (spec : FileSpec) (names : Bindings)
    (c : Context) : Planned :=
  if spec.ignore then ⟨[], none⟩
  else if (Text.trim spec.range).isEmpty then
    .ofOutcomes (planRows roots template spec (begun template spec c) [names])
  else
    match rangeSources template (Text.trim spec.range) names (begun template spec c) with
    | (.error e, _) => ⟨[], some e⟩
    | (.ok sources, c) =>
      match Range.emptyLevel? sources 0 with
      | some n => ⟨[], some (.range (.empty n))⟩
      | none => .ofOutcomes (planRows roots template spec c (Range.rows sources 0 names))

theorem planSegments_settles (names : Bindings) (segments : List String) (path : String) :
    Step.Settles (planSegments names segments path) := by
  induction segments generalizing path with
  | nil => exact Step.settles_pure _
  | cons segment segments ih => exact (evaluateText_settles segment names).bind fun _ => ih _

theorem planPath_settles (roots : Roots) (template : String) (names : Bindings) :
    Step.Settles (planPath roots template names) :=
  (evaluateText_settles template names).bind fun _ =>
    (planSegments_settles names _ _).bind fun _ => Step.settles_pure _

theorem planContent_settles (content : String) (names : Bindings) :
    Step.Settles (planContent content names) := by
  rw [planContent_eq]
  refine (evaluateContent_settles content names).bind fun e c planned c' hdrained h => ?_
  cases h
  exact congrArg (fun c : Context => { c with writes := [] }) hdrained

theorem plan_settles (roots : Roots) (template : String) (spec : FileSpec) (names : Bindings) :
    Step.Settles (plan roots template spec names) := by
  refine (planPath_settles roots template names).bind fun target => ?_
  split
  · exact Step.settles_pure _
  · split
    · split
      · exact Step.settles_fail _
      · exact (planContent_settles _ names).bind fun _ => Step.settles_pure _
    · exact (evaluateText_settles _ names).bind fun _ => Step.settles_pure _

/-- Behind a combination that was planned everything is as before, but for the queue, the range and
the clock. -/
theorem clearFile_of_plan {row : Bindings} {c c' : Context} {operation : Operation}
    (hdrained : c.drain = c) (h : plan roots template spec row c = (.ok operation, c')) :
    c'.clearFile = c.clearFile.setClock c'.clock := by
  have hsettled := plan_settles roots template spec row c operation c' hdrained h
  have hkept : c'.lasting = c.lasting := by
    have hkeeps := (plan_evaluates roots template spec row).keeps (fun _ => rfl) c
    rw [h] at hkeeps
    exact hkeeps
  calc
    c'.clearFile = c'.drain.clearFile := by rw [hsettled]
    _ = c'.lasting.setClock c'.clock := rfl
    _ = c.lasting.setClock c'.clock := by rw [hkept]
    _ = c.drain.clearFile.setClock c'.clock := rfl
    _ = c.clearFile.setClock c'.clock := by rw [hdrained]

theorem Planned.perform_ofOutcomes_ok (template : String) (operation : Operation)
    (outcomes : List (Except Error Operation)) :
    (Planned.ofOutcomes (.ok operation :: outcomes)).perform template =
      (apply template operation).bind fun
        | .ok () => (Planned.ofOutcomes outcomes).perform template
        | .error e => .done (.error e) := by
  refine (Dialogue.bind_assoc _ _ _).trans (Dialogue.bind_congr rfl fun r => ?_)
  cases r <;> rfl

theorem emit_of_ok {row : Bindings} {c c' : Context} {operation : Operation}
    (h : plan roots template spec row c = (.ok operation, c')) :
    emit roots template spec row c =
      (apply template operation).bind fun r => .done (r, c'.clearFile) := by
  rw [emit, Work.settle, Work.ofStep_bind_of_ok h]
  exact Dialogue.bind_assoc _ _ _

theorem emit_of_error {row : Bindings} {c c' : Context} {e : Error}
    (h : plan roots template spec row c = (.error e, c')) :
    emit roots template spec row c = .done (.error e, c'.clearFile) := by
  rw [emit, Work.settle, Work.ofStep_bind_of_error h]
  rfl

/-- Emitting combinations one after the other performs what is planned for them. -/
theorem forEach_emit (rows : List Bindings) (c : Context) (hdrained : c.drain = c) :
    (forEach (emit roots template spec) rows c).bind (fun r => .done r.1) =
      (Planned.ofOutcomes (planRows roots template spec c rows)).perform template := by
  induction rows generalizing c with
  | nil => rfl
  | cons row rows ih =>
    have hcons : forEach (emit roots template spec) (row :: rows) c =
        (emit roots template spec row c).bind fun
          | (.ok _, c) => forEach (emit roots template spec) rows c
          | (.error e, c) => .done (.error e, c) := by
      refine Dialogue.bind_congr rfl fun r => ?_
      obtain ⟨result, c'⟩ := r
      cases result <;> rfl
    rw [hcons, planRows]
    cases h : plan roots template spec row c with
    | mk result c' =>
      cases result with
      | error e =>
        rw [emit_of_error h]
        rfl
      | ok operation =>
        have hclear := clearFile_of_plan hdrained h
        rw [emit_of_ok h, Planned.perform_ofOutcomes_ok]
        refine (Dialogue.bind_assoc _ _ _).trans ((Dialogue.bind_assoc _ _ _).trans ?_)
        refine Dialogue.bind_congr rfl fun r => ?_
        cases r with
        | error e => rfl
        | ok u =>
          have hdrained' : (c.clearFile.setClock c'.clock).drain = c.clearFile.setClock c'.clock :=
            congrArg (fun c : Context => c.clearFile.setClock c'.clock) hdrained
          rw [← ih _ hdrained', ← hclear]
          rfl

theorem rangeSources_settles (template range : String) (names : Bindings) :
    Step.Settles (rangeSources template range names) := by
  rw [Generation.rangeSources_eq]
  refine (evaluate_settles _ names).bind fun _ c sources c' hdrained h => ?_
  obtain ⟨-, rfl⟩ := Prod.mk.inj h
  exact congrArg (fun c : Context => { c with pathRange := none }) hdrained

/-- A template that is surveyed and emitted performs what is planned for it. -/
theorem survey_performs (hspec : spec.ignore = false) (c : Context) :
    ((survey names template spec >>= forEach (emit roots template spec)) c).bind
        (fun r => .done r.1) =
      (planned roots template spec names c).perform template := by
  have hmodify (x : Work (List Bindings)) :
      ((Work.modify (fun c => (c.enter .templates template spec.toValue).reset) >>= fun _ => x)
        >>= forEach (emit roots template spec)) c =
      (x >>= forEach (emit roots template spec)) (begun template spec c) := rfl
  have hdrained : (begun template spec c).drain = begun template spec c := rfl
  rw [planned, survey, hspec, if_neg Bool.false_ne_true, if_neg Bool.false_ne_true, hmodify]
  generalize begun template spec c = c at hdrained ⊢
  generalize Text.trim spec.range = range
  cases range.isEmpty with
  | true => exact forEach_emit [names] c hdrained
  | false =>
    rw [if_neg Bool.false_ne_true, if_neg Bool.false_ne_true]
    cases h : rangeSources template range names c with
    | mk result c' =>
      cases result with
      | error e =>
        rw [Work.bind_assoc, Work.ofStep_bind_of_error h]
        rfl
      | ok sources =>
        have hdrained' := rangeSources_settles template range names c sources c' hdrained h
        rw [Work.bind_assoc, Work.ofStep_bind_of_ok h]
        dsimp only
        cases Range.emptyLevel? sources 0 with
        | some n => rfl
        | none => exact forEach_emit _ c' hdrained'

/-- Processing a template performs what is planned for it, and the names are afterwards what they
were before. -/
theorem process_performs (roots : Roots) (template : String) (spec : FileSpec)
    (hfree : Range.IsFree 0 names) (c : Context) :
    (process roots template spec names c).bind (fun r => .done (r.1, r.2.1)) =
      (if spec.ignore then done template "ignore"
        else (planned roots template spec names c).perform template).bind
          fun r => .done (r, names) := by
  cases hspec : spec.ignore with
  | true =>
    rw [process, hspec]
    rfl
  | false =>
    rw [Generation.process_eq hfree, if_neg Bool.false_ne_true, ← survey_performs hspec c]
    refine (Dialogue.bind_assoc _ _ _).trans (Eq.trans ?_ (Dialogue.bind_assoc _ _ _).symm)
    exact Dialogue.bind_congr rfl fun _ => rfl

/-! ## Templates in a row -/

section Turns

variable {σ : Type}

/-- A template whose turn has come, in the names, the context and the world that those before it
have left. -/
structure Turn (σ : Type) where
  template : String
  spec : FileSpec
  names : Bindings
  context : Context
  world : σ

/-- Templates that are processed in a row on one context and one map of names, whatever comes of
each. -/
def turns (roots : Roots) (answer : (q : SystemCall) → σ → q.Answer × σ) :
    List (String × FileSpec) → Bindings → Context → σ → List (Turn σ)
  | [], _, _, _ => []
  | (template, spec) :: entries, names, c, w =>
    ⟨template, spec, names, c, w⟩ ::
      turns roots answer entries
        ((process roots template spec names c).run answer w).1.2.1
        ((process roots template spec names c).run answer w).1.2.2
        ((process roots template spec names c).run answer w).2

/-- What is planned for a template when its turn comes. -/
def Turn.planned (roots : Roots) (t : Turn σ) : Planned :=
  Emission.planned roots t.template t.spec t.names t.context

variable {answer : (q : SystemCall) → σ → q.Answer × σ}

end Turns

end Emission

end Scaffold

import Scaffold.Proofs.Generation.Schedule

/-!
# Failure — the errors that work can end in

A bound on the errors of steps and work (`Throws`) goes through everything that they are built
from, whatever their calls are answered. Evaluations end in the errors of expressions alone. What
resolves a remote variable ends in these or in errors of that variable (`Error.OfRequest`), and what
emits a template in these or in errors of ranges and files (`Error.OfTemplate`). So every deed of a
run has errors of its own kind (`Generation.perform_throws`). With them, it is found out where two
errors come from: that a request has no url is noticed only when a request without one is prepared,
and that there is no shell only by what runs a command. All other errors are ordinary ones.
-/

set_option autoImplicit false

namespace Scaffold

/-! ## Errors -/

namespace Error

/-- What evaluations end in: the error of an expression, or a stop without a cause. -/
def OfEvaluation : Error → Prop
  | .expression _ _ | .aborted => True
  | _ => False

/-- Neither a request without a url nor a shell without a word. -/
def Ordinary : Error → Prop
  | .remoteVar _ .missingUrl | .hook .noShell => False
  | _ => True

/-- What a remote variable ends in: what its evaluations end in, or an error of its own. That there
is no url is said only where there is none. -/
def OfRequest (name : String) (spec : RemoteSpec) : Error → Prop
  | .expression _ _ | .aborted => True
  | .remoteVar item fault =>
    item = name ∧ (fault = .missingUrl → Text.isBlankText spec.url = true)
  | _ => False

/-- What a file template ends in: what its evaluations end in, or an error of its range or files. -/
def OfTemplate : Error → Prop
  | .expression _ _ | .aborted | .range _ | .fileWrite _ _ => True
  | _ => False

theorem OfEvaluation.ordinary {e : Error} (h : e.OfEvaluation) : e.Ordinary := by
  cases e with
  | expression | aborted => trivial
  | _ => exact h.elim

theorem OfEvaluation.ofRequest {name : String} {spec : RemoteSpec} {e : Error}
    (h : e.OfEvaluation) : e.OfRequest name spec := by
  cases e with
  | expression | aborted => trivial
  | _ => exact h.elim

theorem OfEvaluation.ofTemplate {e : Error} (h : e.OfEvaluation) : e.OfTemplate := by
  cases e with
  | expression | aborted => trivial
  | _ => exact h.elim

/-- A request that has a url is not said to have none. -/
theorem OfRequest.ordinary {name : String} {spec : RemoteSpec} {e : Error}
    (hurl : Text.isBlankText spec.url = false) (h : e.OfRequest name spec) : e.Ordinary := by
  cases e with
  | expression | aborted => trivial
  | remoteVar item fault =>
    cases fault with
    | missingUrl => exact absurd (h.2 rfl) (by rw [hurl]; exact Bool.false_ne_true)
    | _ => trivial
  | _ => exact h.elim

theorem OfTemplate.ordinary {e : Error} (h : e.OfTemplate) : e.Ordinary := by
  cases e with
  | expression | aborted | range | fileWrite => trivial
  | _ => exact h.elim

end Error

variable {α β : Type} {E : Error → Prop}

namespace Step

/-- The errors of a step are some errors. -/
def Throws (E : Error → Prop) (x : Step α) : Prop := ∀ c, ErrorIn E (x c).1

theorem throws_pure (a : α) : Throws E (pure a : Step α) := fun _ => trivial

theorem throws_fail {e : Error} (h : E e) : Throws E (Step.fail e : Step α) := fun _ => h

theorem throws_modify (f : Context → Context) : Throws E (Step.modify f) := fun _ => trivial

theorem Throws.mono {E' : Error → Prop} (hE : ∀ e, E e → E' e) {x : Step α} (h : Throws E x) :
    Throws E' x :=
  fun c => (h c).mono hE

theorem Throws.bind {x : Step α} {f : α → Step β} (hx : Throws E x) (hf : ∀ a, Throws E (f a)) :
    Throws E (x >>= f) := by
  intro c
  have hfirst := hx c
  change ErrorIn E (Step.bind x f c).1
  rw [Step.bind]
  cases hresult : x c with
  | mk result c' =>
    rw [hresult] at hfirst
    cases result with
    | ok a => exact hf a c'
    | error e => exact hfirst

theorem Throws.mapError {E' : Error → Prop} {f : Error → Error} (hf : ∀ e, E e → E' (f e))
    {x : Step α} (h : Throws E x) : Throws E' (Step.mapError f x) := by
  intro c
  have hfirst := h c
  rw [Step.mapError]
  cases hresult : x c with
  | mk result c' =>
    rw [hresult] at hfirst
    cases result with
    | ok a => trivial
    | error e => exact hf e hfirst

end Step

open Step (Throws)

/-! ## Evaluations -/

theorem render_throws (template : String) (names : Bindings) :
    Throws Error.OfEvaluation (render template names) := by
  intro c
  rw [render]
  split
  · trivial
  · trivial
  · split <;> trivial

theorem evaluate_throws (expr : String) (names : Bindings) :
    Throws Error.OfEvaluation (evaluate expr names) := by
  rw [evaluate]
  split
  · exact Step.throws_pure _
  · exact render_throws _ names

theorem evaluateContent_throws (expr : String) (names : Bindings) :
    Throws Error.OfEvaluation (evaluateContent expr names) := by
  rw [evaluateContent]
  split
  · exact Step.throws_pure _
  · exact render_throws _ names

theorem evaluateText_throws (expr : String) (names : Bindings) :
    Throws Error.OfEvaluation (evaluateText expr names) :=
  (evaluate_throws expr names).bind fun _ => Step.throws_pure _

theorem evaluateTexts_throws (names : Bindings) (exprs : List String) :
    Throws Error.OfEvaluation (evaluateTexts names exprs) := by
  induction exprs with
  | nil => exact Step.throws_pure _
  | cons expr exprs ih =>
    exact (evaluateText_throws expr names).bind fun _ => ih.bind fun _ => Step.throws_pure _

theorem evaluateField_throws (names : Bindings) (field : Field) :
    Throws Error.OfEvaluation (evaluateField names field) := by
  cases field with
  | text expr => exact (evaluateText_throws expr names).bind fun _ => Step.throws_pure _
  | list exprs => exact (evaluateTexts_throws names exprs).bind fun _ => Step.throws_pure _

namespace Prepared

theorem trimmed_throws (expr : String) (names : Bindings) :
    Throws Error.OfEvaluation (trimmed expr names) :=
  (evaluateText_throws expr names).bind fun _ => Step.throws_pure _

theorem pairsOfEntries_throws (names : Bindings) (entries : List (String × Field)) :
    Throws Error.OfEvaluation (pairsOfEntries names entries) := by
  induction entries with
  | nil => exact Step.throws_pure _
  | cons entry entries ih =>
    exact (evaluateField_throws names entry.2).bind fun _ => ih.bind fun _ => Step.throws_pure _

theorem pairs_throws (names : Bindings) (section? : Option FieldMap) :
    Throws Error.OfEvaluation (pairs names section?) := by
  cases section? with
  | none => exact Step.throws_pure _
  | some m => exact pairsOfEntries_throws names m.entries

theorem chooseBody_throws (sourceRoot : String) (spec : RemoteSpec) (names : Bindings) :
    Throws Error.OfEvaluation (chooseBody sourceRoot spec names) := by
  rw [chooseBody]
  split
  · exact (evaluateText_throws _ names).bind fun _ => Step.throws_pure _
  · split
    · exact (pairs_throws names _).bind fun _ => Step.throws_pure _
    · split
      · split
        · exact Step.throws_pure _
        · exact (pairs_throws names _).bind fun _ => (pairs_throws names _).bind fun _ =>
            Step.throws_pure _
      · exact Step.throws_pure _

/-- Preparing a request fails by its evaluations, by a type that is not supported, or by a url that
is not there. -/
theorem ofSpec_throws (sourceRoot name : String) (spec : RemoteSpec) (names : Bindings) :
    Throws (Error.OfRequest name spec) (ofSpec sourceRoot name spec names) := by
  have htrimmed (expr : String) : Throws (Error.OfRequest name spec) (trimmed expr names) :=
    (trimmed_throws expr names).mono fun _ => Error.OfEvaluation.ofRequest
  have hpairs (section? : Option FieldMap) :
      Throws (Error.OfRequest name spec) (pairs names section?) :=
    (pairs_throws names section?).mono fun _ => Error.OfEvaluation.ofRequest
  have hbody : Throws (Error.OfRequest name spec) (chooseBody sourceRoot spec names) :=
    (chooseBody_throws sourceRoot spec names).mono fun _ => Error.OfEvaluation.ofRequest
  refine (Step.throws_modify _).bind fun _ => ?_
  split
  next hmissing => exact Step.throws_fail ⟨rfl, fun _ => hmissing⟩
  next =>
    refine (htrimmed _).bind fun kind => ?_
    dsimp only
    split
    · exact Step.throws_fail ⟨rfl, fun h => by cases h⟩
    · refine (htrimmed _).bind fun _ => (htrimmed _).bind fun _ => ?_
      refine (hpairs _).bind fun _ => (hpairs _).bind fun _ => ?_
      exact hbody.bind fun _ => Step.throws_pure _

end Prepared

namespace Resolution

theorem judge_throws (name : String) (spec : RemoteSpec) (r : Response) (names : Bindings) :
    Throws (Error.OfRequest name spec) (judge name spec r names) := by
  rw [judge]
  split
  · split
    · exact Step.throws_pure _
    · exact Step.throws_fail ⟨rfl, fun h => by cases h⟩
  · refine (Step.throws_modify _).bind fun _ => ?_
    refine (Throws.mapError (fun e _ => ?_) (Prepared.trimmed_throws _ names)).bind
      fun verdict => ?_
    · cases e with
      | aborted => trivial
      | _ => exact ⟨rfl, fun h => by cases h⟩
    · split
      · exact Step.throws_pure _
      · exact Step.throws_fail ⟨rfl, fun h => by cases h⟩

theorem parse_throws (name : String) (spec : RemoteSpec) (r : Response) (body : Bytes) :
    Throws (Error.OfRequest name spec) (parse name spec r body) := by
  rw [parse]
  split
  · exact Step.throws_pure _
  · exact Step.throws_fail ⟨rfl, fun h => by cases h⟩

theorem refine_throws (spec : RemoteSpec) (r : Response) (names : Bindings) :
    Throws Error.OfEvaluation (refine spec r names) := by
  rw [refine]
  split
  · exact Step.throws_pure _
  · exact (Step.throws_modify _).bind fun _ =>
      (evaluate_throws _ names).bind fun _ => Step.throws_pure _

theorem accept_throws (name : String) (spec : RemoteSpec) (reply : Http.Reply)
    (names : Bindings) : Throws (Error.OfRequest name spec) (accept name spec reply names) :=
  (judge_throws name spec _ names).bind fun _ => (parse_throws name spec _ _).bind fun _ =>
    (refine_throws spec _ names).mono fun _ => Error.OfEvaluation.ofRequest

end Resolution

namespace Emission

theorem planSegments_throws (names : Bindings) (segments : List String) (path : String) :
    Throws Error.OfEvaluation (planSegments names segments path) := by
  induction segments generalizing path with
  | nil => exact Step.throws_pure _
  | cons segment segments ih => exact (evaluateText_throws segment names).bind fun _ => ih _

theorem planPath_throws (roots : Roots) (template : String) (names : Bindings) :
    Throws Error.OfEvaluation (planPath roots template names) :=
  (evaluateText_throws template names).bind fun _ =>
    (planSegments_throws names _ _).bind fun _ => Step.throws_pure _

theorem planContent_throws (content : String) (names : Bindings) :
    Throws Error.OfEvaluation (planContent content names) := by
  rw [planContent_eq]
  exact (evaluateContent_throws content names).bind fun _ _ => trivial

theorem plan_throws (roots : Roots) (template : String) (spec : FileSpec) (names : Bindings) :
    Throws Error.OfTemplate (plan roots template spec names) := by
  have htemplate (e : Error) : e.OfEvaluation → e.OfTemplate := Error.OfEvaluation.ofTemplate
  refine ((planPath_throws roots template names).mono htemplate).bind fun target => ?_
  split
  · exact Step.throws_pure _
  · split
    · split
      · exact Step.throws_fail trivial
      · exact ((planContent_throws _ names).mono htemplate).bind fun _ => Step.throws_pure _
    · exact ((evaluateText_throws _ names).mono htemplate).bind fun _ => Step.throws_pure _

theorem rangeSources_throws (template range : String) (names : Bindings) :
    Throws Error.OfTemplate (rangeSources template range names) := by
  intro c
  have hevaluated := evaluate_throws (rangeExpression range) names c
  rw [rangeSources]
  split
  next herror =>
    rw [herror] at hevaluated
    exact Error.OfEvaluation.ofTemplate hevaluated
  next =>
    dsimp only
    split
    · trivial
    · exact ofValuesFrom_errorIn (fun _ => trivial) _ 0

end Emission

/-! ## Work -/

namespace Work

/-- Whatever its calls are answered, the errors of some work are some errors. -/
def Throws (E : Error → Prop) (x : Work α) : Prop :=
  ∀ c, (x c).Yields fun r => ErrorIn E r.1

theorem throws_pure (a : α) : Throws E (pure a : Work α) := fun _ => trivial

theorem throws_modify (g : Context → Context) : Throws E (Work.modify g) := fun _ => trivial

theorem throws_fail {e : Error} (h : E e) : Throws E (Work.fail e : Work α) := fun _ => h

theorem throws_ofStep {x : Step α} (h : Step.Throws E x) : Throws E (Work.ofStep x) := h

theorem throws_ofSystem {x : System (Except Error α)} (h : x.Yields (ErrorIn E)) :
    Throws E (Work.ofSystem x) :=
  fun _ => h.bind fun _ hr => hr

theorem throws_report (block message : String) : Throws E (Work.report block message) :=
  throws_ofSystem fun _ => trivial

/-- The errors of work in a row, begun in some context, are those of its parts. -/
theorem errorIn_bind {x : Work α} {f : α → Work β} {c : Context}
    (hx : (x c).Yields fun r => ErrorIn E r.1) (hf : ∀ a, Throws E (f a)) :
    ((x >>= f) c).Yields fun r => ErrorIn E r.1 := by
  refine hx.bind fun r hr => ?_
  obtain ⟨result, c'⟩ := r
  cases result with
  | ok a => exact hf a c'
  | error e => exact hr

theorem Throws.bind {x : Work α} {f : α → Work β} (hx : Throws E x) (hf : ∀ a, Throws E (f a)) :
    Throws E (x >>= f) :=
  fun c => errorIn_bind (hx c) hf

theorem Throws.settle {x : Work α} (hx : Throws E x) (g : Context → Context) :
    Throws E (Work.settle x g) :=
  fun c => (hx c).bind fun _ hr => hr

/-- Replacing the result of work brings no error into it. -/
theorem errorIn_bind_pure {σ : Type} {answer : (q : SystemCall) → σ → q.Answer × σ} {x : Work α}
    {b : β} {c : Context} {w : σ} (h : ErrorIn E ((x c).run answer w).1.1) :
    ErrorIn E (((x >>= fun _ => pure b) c).run answer w).1.1 := by
  cases hrun : (x c).run answer w with
  | mk r w' =>
    obtain ⟨result, c'⟩ := r
    rw [hrun] at h
    cases result with
    | ok a =>
      rw [run_bind_of_ok hrun]
      trivial
    | error e =>
      rw [run_bind_of_error hrun]
      exact h

end Work

namespace Resolution

theorem readFiles_throws (name : String) (spec : RemoteSpec) (files : Pairs) :
    Work.Throws (Error.OfRequest name spec) (readFiles name files) := by
  induction files with
  | nil => exact Work.throws_pure _
  | cons file files ih =>
    refine (Work.throws_ofSystem ?_).bind fun _ => ih.bind fun _ => Work.throws_pure _
    intro content
    cases content with
    | ok content => trivial
    | error fault => exact ⟨rfl, fun h => by cases h⟩

theorem readBody_throws (name : String) (spec : RemoteSpec) (body : PreparedBody) :
    Work.Throws (Error.OfRequest name spec) (readBody name body) := by
  cases body with
  | none | raw | form => exact Work.throws_pure _
  | multipart files fields =>
    exact (readFiles_throws name spec files).bind fun _ => Work.throws_pure _

theorem send_throws (name : String) (spec : RemoteSpec) (request : Http.Request) :
    Work.Throws (Error.OfRequest name spec) (send name request) := by
  refine Work.throws_ofSystem fun reply => ?_
  cases reply with
  | ok reply => trivial
  | error reason => exact ⟨rfl, fun h => by cases h⟩

/-- A remote variable fails by its evaluations or by itself. -/
theorem resolve_throws (sourceRoot name : String) (spec : RemoteSpec) (names : Bindings) :
    Work.Throws (Error.OfRequest name spec) (resolve sourceRoot name spec names) := by
  refine (Work.throws_ofStep (Prepared.ofSpec_throws sourceRoot name spec names)).bind fun p => ?_
  rw [execute]
  split
  · exact Work.throws_fail ⟨rfl, fun h => by cases h⟩
  · refine (readBody_throws name spec _).bind fun body => ?_
    split
    · exact Work.throws_fail ⟨rfl, fun h => by cases h⟩
    · exact (send_throws name spec _).bind fun _ => Work.throws_ofStep (accept_throws _ _ _ _)

end Resolution

namespace Emission

theorem emit_throws (roots : Roots) (template : String) (spec : FileSpec) (names : Bindings) :
    Work.Throws Error.OfTemplate (emit roots template spec names) :=
  ((Work.throws_ofStep (plan_throws roots template spec names)).bind fun operation =>
    Work.throws_ofSystem (apply_yields (fun _ _ => trivial) template operation)).settle _

end Emission

/-! ## Deeds -/

namespace Generation

variable {roots : Emission.Roots} {names : Bindings}

/-- The errors that a deed can end in, in a document. -/
def Deed.EndsIn (d : Document) : Deed → Error → Prop
  | .resolve _ _ => Error.OfEvaluation
  | .request name => fun e => ∃ spec, d.remoteSpec? name = some spec ∧ e.OfRequest name spec
  | .makeOutput => fun e => ∃ reason, e = .io reason
  | .command _ _ => fun e => e.OfEvaluation ∨ ∃ fault, e = .hook fault
  | .survey _ _ | .emit _ _ _ => Error.OfTemplate

theorem resolveField_throws (s : Section) (key : String) :
    Work.Throws Error.OfEvaluation (resolveField s names key) := by
  intro c
  cases h : (s.fields c.document).bind (·.get? key) with
  | none =>
    rw [resolveField_of_none h]
    trivial
  | some declared =>
    rw [resolveField_of_some h]
    refine Work.Throws.bind (Work.throws_modify _) (fun _ => ?_) c
    refine (Work.throws_ofStep (evaluateField_throws names declared)).bind fun resolved => ?_
    exact (Work.throws_report _ _).bind fun _ => Work.throws_modify _

/-- A remote variable without a request does not fail. -/
theorem resolveRemoteVar_throws (sourceRoot name : String) (c : Context) :
    (resolveRemoteVar sourceRoot names name c).Yields fun r =>
      ErrorIn ((Deed.request name).EndsIn c.document) r.1 := by
  rw [resolveRemoteVar, Work.get_bind]
  cases hspec : c.document.remoteSpec? name with
  | none => exact Work.throws_report _ _ c
  | some spec =>
    refine Work.Throws.bind (Work.throws_modify _) (fun _ => ?_) c
    have hresolve : Work.Throws ((Deed.request name).EndsIn c.document)
        (Resolution.resolve sourceRoot name spec names) :=
      fun c' => (Resolution.resolve_throws sourceRoot name spec names c').mono fun _ hr =>
        hr.mono fun _ he => ⟨spec, hspec, he⟩
    refine hresolve.bind fun response => ?_
    exact (Work.throws_report _ _).bind fun _ => Work.throws_modify _

theorem runCommand_throws (phase : Phase) (output : String) (envs : List (String × String))
    (text : String) :
    Work.Throws (fun e => e.OfEvaluation ∨ ∃ fault, e = .hook fault)
      (runCommand phase output envs names text) := by
  refine (Work.throws_modify _).bind fun _ => ?_
  refine (Work.throws_ofStep ((Prepared.trimmed_throws text names).mono fun _ => .inl)).bind
    fun command => ?_
  split
  · exact Work.throws_pure _
  · refine Work.Throws.bind (x := Work.get) (fun _ => trivial) fun c => ?_
    exact Work.throws_ofSystem (perform_yields (fun fault => .inr ⟨fault, rfl⟩) _)

theorem survey_throws (template : String) (spec : FileSpec) :
    Work.Throws Error.OfTemplate (survey names template spec) := by
  rw [survey]
  generalize Text.trim spec.range = range
  split
  · exact (Work.throws_ofSystem (Emission.done_yields _ _)).bind fun _ => Work.throws_pure _
  · refine (Work.throws_modify _).bind fun _ => ?_
    split
    · exact Work.throws_pure _
    · refine (Work.throws_ofStep (Emission.rangeSources_throws _ _ _)).bind fun sources => ?_
      split
      · exact Work.throws_fail trivial
      · exact Work.throws_pure _

/-- A deed ends in the errors of its kind. -/
theorem perform_throws (d : Deed) (c : Context) :
    (d.perform roots names c).Yields fun r => ErrorIn (d.EndsIn c.document) r.1 := by
  cases d with
  | resolve s key => exact Work.errorIn_bind (resolveField_throws s key c) fun _ _ => trivial
  | request name =>
    exact Work.errorIn_bind (resolveRemoteVar_throws roots.source name c) fun _ _ => trivial
  | makeOutput =>
    exact Work.errorIn_bind (makeOutput_yields (fun reason => ⟨reason, rfl⟩) roots.output c)
      fun _ _ => trivial
  | command hooks text =>
    refine Work.errorIn_bind (x := Work.get) trivial fun c' => ?_
    exact (runCommand_throws hooks.phase roots.output (commandEnvs c'.document) text).bind
      fun _ => Work.throws_pure _
  | survey template spec =>
    exact Work.errorIn_bind (survey_throws template spec c) fun _ _ => trivial
  | emit template spec row =>
    exact Work.errorIn_bind (Emission.emit_throws roots template spec row c) fun _ _ => trivial

end Generation

end Scaffold

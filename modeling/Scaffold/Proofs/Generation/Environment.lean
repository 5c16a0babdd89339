import Scaffold.Proofs.Evaluation.Frame
import Scaffold.Proofs.Generation.Fields
import Scaffold.Proofs.Generation.Performance

/-!
# Environment — what expressions learn of the environment of the process

A document declares environment variables, each as a text or as a list of texts. Expressions that
ask for one are told the declared text; only where there is none are they told what the process has.
So two environments in which all other variables are the same cannot be told apart. What the document
declares as texts and what as lists stays so for the whole run (`perform_keeps_declaredShape`),
although the fields are resolved one after the other, and with it what the process can be asked
(`environment_confined`). A list is no text: a variable that is declared as a list is looked up in
the process, as if it were not declared at all (`listed_variable_is_inherited`).
-/

set_option autoImplicit false

namespace Scaffold

open Scaffold.Expr (Value)

/-! ## Answers -/

namespace Document

/-- The field that the document declares for an environment variable. -/
def declaredEnv? (d : Document) (name : String) : Option Field :=
  d.envs.bind (·.get? name)

/-- The value of an environment variable: the text that the document declares; if it declares a list
or nothing, what the process has. -/
def envFrom (d : Document) (environment : List (String × String)) (name : String) : String :=
  match d.declaredEnv? name with
  | some (.text text) => text
  | some (.list _) | none => (environment.lookup name).getD ""

/-- Two environments have the same variables, but for those that the document declares as texts. -/
def Indistinct (d : Document) (first second : List (String × String)) : Prop :=
  ∀ name, (∀ text, d.declaredEnv? name ≠ some (.text text)) →
    first.lookup name = second.lookup name

theorem Indistinct.envFrom_eq {d : Document} {first second : List (String × String)}
    (h : d.Indistinct first second) (name : String) :
    d.envFrom first name = d.envFrom second name := by
  unfold envFrom
  split
  · rfl
  next values hdeclared =>
    rw [h name fun text htext => ?_]
    rw [hdeclared] at htext
    cases htext
  next hdeclared =>
    rw [h name fun text htext => ?_]
    rw [hdeclared] at htext
    cases htext

end Document

namespace Context

/-- The same context in another process. -/
def within (c : Context) (environment : List (String × String)) : Context :=
  { c with environment }

theorem answer_env (c : Context) (name : String) :
    answer (.env name) c = (.text (c.document.envFrom c.environment name), c) := by
  have hvalue : (c.env? name).getD "" = c.document.envFrom c.environment name := by
    unfold env? declaredEnv? Document.envFrom Document.declaredEnv?
    cases c.document.envs.bind (·.get? name) with
    | none => rfl
    | some field => cases field <;> rfl
  rw [answer, hvalue]

/-- No question but that for a variable tells one process from another. -/
theorem answer_within {c : Context} {other : List (String × String)}
    (h : c.document.Indistinct c.environment other) (q : Expr.Question) :
    answer q (c.within other) = ((answer q c).1, (answer q c).2.within other) := by
  cases q with
  | env name =>
    rw [answer_env, answer_env]
    exact congrArg (fun text => (Value.text text, c.within other)) (h.envFrom_eq name).symm
  | _ => rfl

end Context

/-! ## Evaluations -/

section Evaluating

variable {c : Context} {other : List (String × String)}
  (h : c.document.Indistinct c.environment other)

include h

theorem run_within {α : Type} (x : Expr.Asking α) :
    x.run Context.answer (c.within other) =
      ((x.run Context.answer c).1, (x.run Context.answer c).2.within other) := by
  induction x generalizing c with
  | done a => rfl
  | ask q next ih =>
    have hdocument : (Context.answer q c).2.document = c.document :=
      congrArg (·.document) (answer_lasting q c)
    have henvironment : (Context.answer q c).2.environment = c.environment :=
      congrArg (·.environment) (answer_lasting q c)
    have hnext := h
    rw [← hdocument, ← henvironment] at hnext
    rw [Dialogue.run, Dialogue.run, Context.answer_within h]
    exact ih _ hnext

theorem render_within (template : String) (names : Bindings) :
    render template names (c.within other) =
      ((render template names c).1, (render template names c).2.within other) := by
  rw [render, render, run_within h]
  generalize (Expr.render template names.entries).run Context.answer c = left
  obtain ⟨rendered, c'⟩ := left
  cases rendered with
  | error halt => cases halt <;> rfl
  | ok text =>
    have hslot : (c'.within other).error = c'.error := rfl
    cases herror : c'.error <;> simp only [hslot, herror] <;> rfl

/-- Two processes that are the same but for what is declared as texts evaluate every expression in
the same way. -/
theorem evaluate_within (e : Expression) (names : Bindings) :
    e.evaluate names (c.within other) =
      ((e.evaluate names c).1, (e.evaluate names c).2.within other) := by
  cases htemplate : e.template? with
  | none => rw [Expression.evaluate_of_blank htemplate]; rfl
  | some template =>
    rw [Expression.evaluate_of_template htemplate]
    exact render_within h template names

end Evaluating

/-! ## Calls for a variable -/

namespace Expr.Library

/-- What the function and the method that ask for a variable hand back in a context. -/
structure HandsBack (value : String → String) (c : Context) : Prop where
  function : ∀ line args s v s' c',
    (call line "env" args s).run Context.answer c = (.ok (v, s'), c') →
    ∃ name, oneText args = .ok name ∧ v = .text (value name)
  method : ∀ line args s v s' c',
    (callMethod? line "env" args s).run Context.answer c = (.ok (v, s'), c') →
    ∃ name, oneText args = .ok name ∧ v = some (.text (value name))

theorem env_handsBack (c : Context) : HandsBack (c.document.envFrom c.environment) c where
  function := by
    intro line args s v s' c' h
    change ((Run.lift line (oneText args) >>= _) s).run Context.answer c = _ at h
    rcases run_lift h with ⟨hfailed, -⟩ | ⟨name, hargs, htaken⟩
    · cases hfailed
    refine ⟨name, hargs, ?_⟩
    change ((theRun line s).bind _).run Context.answer c = _ at htaken
    rcases theRun_cases line s with hrun | ⟨halt, hrun⟩
    · rw [hrun] at htaken
      cases htaken
      exact congrArg Prod.fst (Context.answer_env c name)
    · rw [hrun] at htaken
      cases htaken
  method := by
    intro line args s v s' c' h
    change ((Run.lift line (oneText args) >>= _) s).run Context.answer c = _ at h
    rcases run_lift h with ⟨hfailed, -⟩ | ⟨name, hargs, htaken⟩
    · cases hfailed
    · cases htaken
      exact ⟨name, hargs, congrArg (some ·.1) (Context.answer_env c name)⟩

end Expr.Library

/-! ## Documents of a run -/

/-- What a document declares for a variable, without the texts. -/
def Document.declaredShape (d : Document) (name : String) : Option (Option Nat) :=
  (d.declaredEnv? name).map Field.shape

theorem Document.exists_text_of_shape {d : Document} {name : String}
    (h : d.declaredShape name = some none) : ∃ text, d.declaredEnv? name = some (.text text) := by
  obtain ⟨field, hfield, hshape⟩ := Option.map_eq_some_iff.1 h
  cases field with
  | text text => exact ⟨text, hfield⟩
  | list values => cases hshape

/-- What is not declared as a text is the same in documents that declare in the same shapes. -/
theorem Document.Indistinct.congr {d d' : Document} {first second : List (String × String)}
    (h : d.Indistinct first second) (hshape : d'.declaredShape = d.declaredShape) :
    d'.Indistinct first second := by
  intro name hname
  refine h name fun text htext => ?_
  have hsame : d'.declaredShape name = some none := by
    rw [hshape, declaredShape, htext]
    rfl
  obtain ⟨text', htext'⟩ := exists_text_of_shape hsame
  exact hname text' htext'

namespace Generation

theorem declaredShape_set {s : Section} {d : Document} {key : String} {declared field : Field}
    (h : (s.fields d).bind (·.get? key) = some declared) (hshape : field.shape = declared.shape) :
    (s.set d key field).declaredShape = d.declaredShape := by
  cases s with
  | vars => rfl
  | envs =>
    funext name
    obtain ⟨m, hm, hget⟩ := Option.bind_eq_some_iff.1 h
    have henvs : d.envs = some m := hm
    simp only [Document.declaredShape, Document.declaredEnv?, Section.set, henvs, Option.map_some,
      Option.bind_some, OrderedMap.get?_set]
    by_cases hname : name = key
    · subst hname
      simp [hget, hshape]
    · simp [hname]

theorem declaredShape_setResponse (d : Document) (name : String) (response : Response) :
    (d.setResponse name response).declaredShape = d.declaredShape := by
  rw [Document.setResponse]
  split <;> rfl

/-- Resolving a field leaves it in its shape, whatever comes of it. -/
theorem resolveField_keeps_declaredShape (s : Section) (names : Bindings) (key : String) :
    Work.Keeps (fun c => c.document.declaredShape) (resolveField s names key) := by
  intro c
  cases hget : (s.fields c.document).bind (·.get? key) with
  | none =>
    rw [resolveField_of_none hget]
    exact rfl
  | some declared =>
    cases hevaluated : evaluateField names declared (s.begin (key, declared) c) with
    | mk outcome c' =>
      have hdocument := document_of_evaluateField hevaluated
      cases outcome with
      | error e =>
        rw [resolveField_of_error hget hevaluated]
        exact congrArg Document.declaredShape hdocument
      | ok field =>
        rw [resolveField_of_ok hget hevaluated]
        have hshape := shape_evaluateField hevaluated
        refine Work.yields_bind (R := fun c₁ => c₁.document = c.document)
          ((Work.keeps_report _ _ c').mono fun _ heq => heq.trans hdocument) (fun _ c₁ h₁ => ?_)
          fun _ _ h => congrArg Document.declaredShape h
        change (s.set c₁.document key field).declaredShape = c.document.declaredShape
        rw [h₁]
        exact declaredShape_set hget hshape

/-- No deed of a run changes what is declared as a text and what as a list. -/
theorem perform_keeps_declaredShape {roots : Emission.Roots} {names : Bindings} (d : Deed) :
    Work.Keeps (fun c => c.document.declaredShape) (d.perform roots names) := by
  cases d with
  | resolve s key =>
    exact (resolveField_keeps_declaredShape s names key).bind fun _ => Work.keeps_pure _
  | request name =>
    exact (resolveRemoteVar_keeps declaredShape_setResponse _ names name).bind fun _ =>
      Work.keeps_pure _
  | makeOutput | survey | emit =>
    exact (perform_evaluates (by simp [Deed.stage, Stage.rank])).keeps_document.ofDocument _
  | command hooks text =>
    refine (perform_evaluates ?_).keeps_document.ofDocument _
    cases hooks <;> simp [Deed.stage, Stage.rank]

/-- No deed of a run changes the environment of the process. -/
theorem perform_keeps_environment {roots : Emission.Roots} {names : Bindings} (d : Deed) :
    Work.Keeps Context.environment (d.perform roots names) := by
  have hafresh {d : Deed} (h : Stage.remoteVars.rank < d.stage.rank) :
      Work.Keeps Context.environment (d.perform roots names) :=
    ((perform_evaluates h).mono fun _ _ => congrArg Context.environment).keeps fun _ => rfl
  cases d with
  | resolve s key =>
    refine Work.Keeps.bind (Work.keeps_get.bind fun c => ?_) fun _ => Work.keeps_pure _
    split
    next => exact Work.keeps_pure _
    next declared _ =>
      refine Work.Keeps.bind (Work.keeps_modify fun _ => rfl) fun _ => ?_
      refine Work.Keeps.bind (Work.keeps_ofStep ?_) fun resolved => ?_
      · exact (evaluateField_evaluates names declared).keeps fun _ => rfl
      · exact (Work.keeps_report _ _).bind fun _ => Work.keeps_modify fun _ => rfl
  | request name =>
    refine Work.Keeps.bind (Work.keeps_get.bind fun c => ?_) fun _ => Work.keeps_pure _
    split
    next => exact Work.keeps_report _ _
    next spec _ =>
      refine Work.Keeps.bind (Work.keeps_modify fun _ => rfl) fun _ => ?_
      refine Work.Keeps.bind ?_ fun response => ?_
      · exact (Resolution.resolve_evaluates (fun _ _ => rfl) roots.source name spec
          names).keeps fun _ => rfl
      · exact (Work.keeps_report _ _).bind fun _ => Work.keeps_modify fun _ => rfl
  | makeOutput | survey | emit => exact hafresh (by simp [Deed.stage, Stage.rank])
  | command hooks text => exact hafresh (by cases hooks <;> simp [Deed.stage, Stage.rank])

section Running

variable {σ : Type} {answer : (q : SystemCall) → σ → q.Answer × σ} {roots : Emission.Roots}

/-- What no deed changes is the same whenever a deed is begun, and at the end. -/
theorem Performs.keeps {τ : Type} {g : Context → τ} {names : Bindings} {ds : List Deed}
    {c c' : Context} {w w' : σ} {history : List Performed} {result : Except Error Unit}
    (hkeeps : ∀ d : Deed, Work.Keeps g (d.perform roots names))
    (h : Performs answer roots names ds c w history result c' w') :
    (∀ p ∈ history, g p.start = g c) ∧ g c' = g c := by
  induction h with
  | finished c w => exact ⟨by simp, rfl⟩
  | @failed d ds c c' w w' e h =>
    have hend : g c' = g c := (hkeeps d c).of_run_eq h
    refine ⟨fun p hmem => ?_, hend⟩
    rw [List.mem_singleton.1 hmem]
    rfl
  | @next d ds more c c' c'' w w' w'' history result h rest ih =>
    have hstep : g c' = g c := (hkeeps d c).of_run_eq h
    refine ⟨fun p hmem => ?_, ih.2.trans hstep⟩
    rcases List.mem_cons.1 hmem with rfl | hmem
    · rfl
    · exact (ih.1 p hmem).trans hstep

/-- What expressions learn of the environment while a document of a run is in the context, against
the document that the run has begun with. -/
structure Confined (d₀ d : Document) : Prop where
  /-- A variable that is declared as a text is never looked up in the process. -/
  declared : ∀ name text₀, d₀.declaredEnv? name = some (.text text₀) →
    ∃ text, d.declaredEnv? name = some (.text text) ∧
      ∀ environment, d.envFrom environment name = text
  /-- Any other variable is, also one that is declared as a list. -/
  inherited : ∀ name, (∀ text, d₀.declaredEnv? name ≠ some (.text text)) →
    ∀ environment : List (String × String),
      d.envFrom environment name = (environment.lookup name).getD ""
  /-- That is what both ways to ask for a variable hand back. -/
  handsBack : ∀ c : Context, c.document = d →
    Expr.Library.HandsBack (d.envFrom c.environment) c
  /-- Two processes that are the same but for the variables that are declared as texts make no
  difference to an expression. -/
  indistinct : ∀ c : Context, c.document = d → ∀ other, d₀.Indistinct c.environment other →
    ∀ (e : Expression) (names : Bindings), e.evaluate names (c.within other) =
      ((e.evaluate names c).1, (e.evaluate names c).2.within other)

theorem confined_of_shape {d₀ d : Document} (h : d.declaredShape = d₀.declaredShape) :
    Confined d₀ d where
  declared := by
    intro name text₀ htext₀
    have hshape : d.declaredShape name = some none := by
      rw [h, Document.declaredShape, htext₀]
      rfl
    obtain ⟨text, htext⟩ := Document.exists_text_of_shape hshape
    exact ⟨text, htext, fun environment => by rw [Document.envFrom, htext]⟩
  inherited := by
    intro name hname environment
    have hshape : d.declaredShape name ≠ some none := by
      rw [h]
      intro hnone
      obtain ⟨text, htext⟩ := Document.exists_text_of_shape hnone
      exact hname text htext
    rw [Document.envFrom]
    split
    next text htext =>
      refine absurd ?_ hshape
      rw [Document.declaredShape, htext]
      rfl
    · rfl
    · rfl
  handsBack := by
    rintro c rfl
    exact Expr.Library.env_handsBack c
  indistinct := by
    rintro c rfl other hother e names
    exact evaluate_within (hother.congr h) e names

/-- In every state of a run, expressions are told nothing of the environment of the process but the
variables for which the document declares no text. -/
theorem environment_confined (roots : Emission.Roots)
    (answer : (q : SystemCall) → σ → q.Answer × σ) (c : Context) (w : σ) :
    ∃ history,
      Performs answer roots (.standard c.project) (schedule (outline c.document)) c w history
        ((run roots c).run answer w).1.1 ((run roots c).run answer w).1.2
        ((run roots c).run answer w).2 ∧
      (run roots c).asked answer w = history.flatMap Performed.calls ∧
      (∀ p ∈ history, Confined c.document p.start.document) ∧
      Confined c.document ((run roots c).run answer w).1.2.document := by
  have henacts : Enacts answer roots (.standard c.project) (run roots)
      (schedule (outline c.document)) c := enacts_run roots c
  obtain ⟨history, hperforms, hcalls⟩ := henacts w
  obtain ⟨hbegun, hend⟩ := hperforms.keeps perform_keeps_declaredShape
  exact ⟨history, hperforms, hcalls, fun p hmem => confined_of_shape (hbegun p hmem),
    confined_of_shape hend⟩

end Running

/-- A process with a variable for which the document declares a list. -/
def listed : Context where
  document := { envs := some ⟨[("SHELLS", .list ["one", "two"])], by decide⟩ }
  project := {}
  environment := [("SHELLS", "leaked")]

/-- A text that asks for the variable in both ways. -/
def asking : Expression where
  text := "<\x7b\x7b env('SHELLS') \x7d\x7d|\x7b\x7b this.env('SHELLS') \x7d\x7d>"

/-- A variable that is declared as a list is answered from the process, so that two processes are
told apart that have all variables in common that are not declared. -/
theorem listed_variable_is_inherited :
    listed.document.declaredEnv? "SHELLS" = some (.list ["one", "two"]) ∧
      (∀ name, listed.document.declaredEnv? name = none →
        listed.environment.lookup name = ([] : List (String × String)).lookup name) ∧
      (asking.evaluate (.standard {}) listed).1.toOption.map (·.text) =
        some "<leaked|leaked>" ∧
      (asking.evaluate (.standard {}) (listed.within [])).1.toOption.map (·.text) =
        some "<|>" := by
  refine ⟨by decide +kernel, fun name hname => ?_, by decide +kernel, by decide +kernel⟩
  by_cases hlisted : name = "SHELLS"
  · subst hlisted
    cases hname
  · simp [listed, hlisted]

end Generation

end Scaffold

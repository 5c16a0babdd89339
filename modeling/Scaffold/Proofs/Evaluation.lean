import Scaffold.Evaluation
import Scaffold.Proofs.Dialogue
import Scaffold.Remote.Resolution

/-!
# Evaluation — what steps leave alone

An evaluation can change nothing of a context but its slots and, by looking at it, the clock: all
else lasts (`Context.lasting`, `render_keeps`). The steps of a run are made of evaluations, of
changes and of steps that have nothing to do with the document or with the current item
(`Evaluates`), so that none of them changes the document, and all that an error of an expression can
name is the item that was current when the expression was evaluated. What an evaluation that
succeeds has noted of an error or a return value is gone with it (`evaluate_settles`).
-/

set_option autoImplicit false

namespace Scaffold

open Scaffold.Expr (Value)

/-! ## Errors -/

/-- Anything but the error of an expression. -/
def Error.NotOfExpression : Error → Prop
  | .expression _ _ => False
  | _ => True

/-- If a result is an error, it is one of some errors. -/
def ErrorIn {α : Type} (E : Error → Prop) : Except Error α → Prop
  | .ok _ => True
  | .error e => E e

theorem ErrorIn.mono {α : Type} {E E' : Error → Prop} (hE : ∀ e, E e → E' e)
    {result : Except Error α} (h : ErrorIn E result) : ErrorIn E' result := by
  cases result with
  | ok a => trivial
  | error e => exact hE e h

/-! ## Steps -/

/-- A context without what evaluations change: with empty slots and a clock that stands still. -/
def Context.lasting (c : Context) : Context := c.reset.setClock default

namespace Step

variable {α β τ : Type} {f : Context → τ}

/-- A step leaves a part of the context alone, whatever comes of it. -/
def Keeps (f : Context → τ) (x : Step α) : Prop :=
  ∀ c, f (x c).2 = f c

theorem keeps_pure (a : α) : Keeps f (pure a : Step α) := fun _ => rfl

theorem keeps_fail (e : Error) : Keeps f (Step.fail e : Step α) := fun _ => rfl

theorem Keeps.bind {x : Step α} {g : α → Step β} (hx : Keeps f x) (hg : ∀ a, Keeps f (g a)) :
    Keeps f (x >>= g) := by
  intro c
  have hfirst := hx c
  change f (Step.bind x g c).2 = f c
  rw [Step.bind]
  cases hresult : x c with
  | mk result c' =>
    rw [hresult] at hfirst
    cases result with
    | ok a => exact (hg a c').trans hfirst
    | error e => exact hfirst

/-- Where steps in a row succeed, each of them does. -/
theorem bind_eq_ok {x : Step α} {g : α → Step β} {c c' : Context} {b : β}
    (h : (x >>= g) c = (.ok b, c')) : ∃ a c₁, x c = (.ok a, c₁) ∧ g a c₁ = (.ok b, c') := by
  change Step.bind x g c = _ at h
  rw [Step.bind] at h
  cases hresult : x c with
  | mk result c₁ =>
    rw [hresult] at h
    cases result with
    | ok a => exact ⟨a, c₁, rfl, h⟩
    | error e => cases h

/-- What is only a part of that which lasts is kept with it. -/
theorem Keeps.of_lasting {x : Step α} (hx : Keeps Context.lasting x)
    (hf : ∀ c, f c.lasting = f c) : Keeps f x := by
  intro c
  rw [← hf, hx c, hf]

/-- When a step succeeds, it leaves no error and no return value behind. -/
def Settles (x : Step α) : Prop :=
  ∀ c a c', c.drain = c → x c = (.ok a, c') → c'.drain = c'

theorem settles_pure (a : α) : Settles (pure a : Step α) := by
  intro c a' c' hdrained h
  cases h
  exact hdrained

theorem settles_fail (e : Error) : Settles (Step.fail e : Step α) := by
  intro c a c' hdrained h
  cases h

theorem Settles.bind {x : Step α} {g : α → Step β} (hx : Settles x) (hg : ∀ a, Settles (g a)) :
    Settles (x >>= g) := by
  intro c b c' hdrained h
  obtain ⟨a, c₁, hfirst, hrest⟩ := bind_eq_ok h
  exact hg a c₁ b c' (hx c a c₁ hdrained hfirst) hrest

end Step

open Step (Keeps Settles)

/-! ## Evaluations -/

theorem answer_lasting (q : Expr.Question) (c : Context) :
    (Context.answer q c).2.lasting = c.lasting := by
  cases q <;> rfl

theorem render_keeps (template : String) (names : Bindings) :
    Keeps Context.lasting (render template names) := by
  intro c
  have hrun := Dialogue.run_keeps answer_lasting (Expr.render template names.entries) c
  rw [render]
  split
  next h => rw [h] at hrun; exact hrun
  next h => rw [h] at hrun; exact hrun
  next h =>
    rw [h] at hrun
    split <;> exact hrun

theorem render_settles (template : String) (names : Bindings) :
    Settles (render template names) := by
  intro c e c' hdrained h
  rw [render] at h
  split at h
  next => cases h
  next => cases h
  next =>
    split at h
    next => cases h
    next =>
      cases h
      rfl

theorem evaluate_settles (expr : String) (names : Bindings) : Settles (evaluate expr names) := by
  rw [evaluate]
  split
  · exact Step.settles_pure _
  · exact render_settles _ names

theorem evaluateContent_settles (expr : String) (names : Bindings) :
    Settles (evaluateContent expr names) := by
  rw [evaluateContent]
  split
  · exact Step.settles_pure _
  · exact render_settles _ names

theorem evaluateText_settles (expr : String) (names : Bindings) :
    Settles (evaluateText expr names) :=
  (evaluate_settles expr names).bind fun _ => Step.settles_pure _

/-! ## Steps made of evaluations -/

/-- The context of a run over the same document and project in the same environment, in which
nothing was evaluated yet. Its clock is one of its own. -/
def Context.afresh (c : Context) : Context where
  document := c.document
  project := c.project
  environment := c.environment

namespace Step

variable {α β τ υ : Type} {f : Context → τ}

/-- The step has nothing to do with the document: it goes on in the same way whatever the document
is, and leaves it as it is. -/
def Blind (x : Step α) : Prop :=
  ∀ c d, x { c with document := d } = ((x c).1, { (x c).2 with document := d })

/-- The step evaluates nothing: it goes on in the same way whatever the document and the current
item are, leaves them as they are, and ends in no error of an expression. -/
structure Quiet (x : Step α) : Prop where
  apart : ∀ c d phase name, x { c with document := d, phase := phase, name := name } =
    ((x c).1, { (x c).2 with document := d, phase := phase, name := name })
  mute : ∀ c, ErrorIn Error.NotOfExpression (x c).1

/-- What evaluates nothing is blind. -/
theorem Quiet.blind {x : Step α} (h : x.Quiet) : x.Blind := by
  intro c d
  have hsame := h.apart c c.document c.phase c.name
  refine (h.apart c d c.phase c.name).trans (Prod.ext rfl ?_)
  exact congrArg (fun r => { r.2 with document := d }) hsame.symm

theorem quiet_pure (a : α) : Quiet (pure a : Step α) := ⟨fun _ _ _ _ => rfl, fun _ => trivial⟩

/-- A rewording makes no new errors of expressions: what it turns into one was that before. -/
def Rewords (g : Error → Error) : Prop :=
  ∀ e name reason, g e = .expression name reason → e = .expression name reason

/-- The step is made of evaluations. All else that it does has nothing to do with the document, and
leaves a part of the context alone; and apart from changes of the context, it has nothing to do with
the current item either. -/
inductive Evaluates (f : Context → τ) : {α : Type} → Step α → Prop
  | quiet {α : Type} {x : Step α} (hquiet : Quiet x) (hkeeps : Keeps f x) : Evaluates f x
  | modify {g : Context → Context} (hblind : Blind (Step.modify g))
      (hkeeps : Keeps f (Step.modify g)) : Evaluates f (Step.modify g)
  | render (template : String) (names : Bindings) : Evaluates f (Scaffold.render template names)
  | bind {α β : Type} {x : Step α} {g : α → Step β} (hx : Evaluates f x)
      (hg : ∀ a, Evaluates f (g a)) : Evaluates f (x >>= g)
  | mapError {α : Type} {x : Step α} (hx : Evaluates f x) {g : Error → Error} (hg : Rewords g) :
      Evaluates f (Step.mapError g x)

theorem evaluates_pure (a : α) : Evaluates f (pure a : Step α) :=
  .quiet (quiet_pure a) (keeps_pure a)

theorem evaluates_fail {e : Error} (h : e.NotOfExpression) : Evaluates f (Step.fail e : Step α) :=
  .quiet ⟨fun _ _ _ _ => rfl, fun _ => h⟩ (keeps_fail e)

/-- What leaves more alone leaves less alone. -/
theorem Evaluates.mono {g : Context → υ} (hgf : ∀ c c', f c = f c' → g c = g c') {x : Step α}
    (h : Evaluates f x) : Evaluates g x := by
  induction h with
  | quiet hquiet hkeeps => exact .quiet hquiet fun c => hgf _ _ (hkeeps c)
  | modify hblind hkeeps => exact .modify hblind fun c => hgf _ _ (hkeeps c)
  | render template names => exact .render template names
  | bind _ _ ihx ihg => exact .bind ihx ihg
  | mapError _ hg ih => exact .mapError ih hg

/-- What neither the evaluations nor anything else of the step can change, the step leaves alone. -/
theorem Evaluates.keeps_of_blind {g : Context → υ} (hg : ∀ c, g c.lasting = g c)
    (hblind : ∀ {β : Type} {y : Step β}, Blind y → Keeps f y → Keeps g y) {x : Step α}
    (h : Evaluates f x) : Keeps g x := by
  induction h with
  | quiet hquiet hkeeps => exact hblind hquiet.blind hkeeps
  | modify h hkeeps => exact hblind h hkeeps
  | render template names => exact (render_keeps template names).of_lasting hg
  | bind _ _ ihx ihg => exact ihx.bind ihg
  | @mapError α x _ k _ ih =>
    intro c
    have hx := ih c
    rw [Step.mapError]
    cases hresult : x c with
    | mk result c' =>
      rw [hresult] at hx
      cases result <;> exact hx

theorem Evaluates.keeps (hf : ∀ c, f c.lasting = f c) {x : Step α} (h : Evaluates f x) :
    Keeps f x :=
  h.keeps_of_blind hf fun _ hkeeps => hkeeps

theorem Evaluates.keeps_document {x : Step α} (h : Evaluates f x) : Keeps Context.document x :=
  h.keeps_of_blind (fun _ => rfl) fun hblind _ c =>
    congrArg (·.2.document) (hblind c c.document)

end Step

open Step (Evaluates)

section Evaluating

variable {τ : Type} {f : Context → τ}

theorem evaluate_evaluates (expr : String) (names : Bindings) :
    Evaluates f (evaluate expr names) := by
  rw [evaluate]
  split
  · exact Step.evaluates_pure _
  · exact .render _ names

theorem evaluateContent_evaluates (expr : String) (names : Bindings) :
    Evaluates f (evaluateContent expr names) := by
  rw [evaluateContent]
  split
  · exact Step.evaluates_pure _
  · exact .render _ names

theorem evaluateText_evaluates (expr : String) (names : Bindings) :
    Evaluates f (evaluateText expr names) :=
  (evaluate_evaluates expr names).bind fun _ => Step.evaluates_pure _

theorem evaluateTexts_evaluates (names : Bindings) (exprs : List String) :
    Evaluates f (evaluateTexts names exprs) := by
  induction exprs with
  | nil => exact Step.evaluates_pure _
  | cons expr exprs ih =>
    exact (evaluateText_evaluates expr names).bind fun _ => ih.bind fun _ => Step.evaluates_pure _

theorem evaluateField_evaluates (names : Bindings) (field : Field) :
    Evaluates f (evaluateField names field) := by
  cases field with
  | text expr => exact (evaluateText_evaluates expr names).bind fun _ => Step.evaluates_pure _
  | list exprs => exact (evaluateTexts_evaluates names exprs).bind fun _ => Step.evaluates_pure _

theorem evaluateField_keeps_document (names : Bindings) (field : Field) :
    Keeps Context.document (evaluateField names field) :=
  (evaluateField_evaluates (f := Context.afresh) names field).keeps_document

/-- Changing the data of the current item leaves alone what does not contain them. -/
theorem setData_evaluates (hdata : ∀ c data, f (Context.setData c data) = f c) (data : Value) :
    Evaluates f (Step.modify (·.setData data)) :=
  .modify (fun _ _ => rfl) fun c => hdata c data

namespace Prepared

theorem trimmed_evaluates (expr : String) (names : Bindings) :
    Evaluates f (trimmed expr names) :=
  (evaluateText_evaluates expr names).bind fun _ => Step.evaluates_pure _

theorem pairsOfEntries_evaluates (names : Bindings) (entries : List (String × Field)) :
    Evaluates f (pairsOfEntries names entries) := by
  induction entries with
  | nil => exact Step.evaluates_pure _
  | cons entry entries ih =>
    exact (evaluateField_evaluates names entry.2).bind fun _ => ih.bind fun _ =>
      Step.evaluates_pure _

theorem pairs_evaluates (names : Bindings) (section? : Option FieldMap) :
    Evaluates f (pairs names section?) := by
  cases section? with
  | none => exact Step.evaluates_pure _
  | some m => exact pairsOfEntries_evaluates names m.entries

theorem chooseBody_evaluates (sourceRoot : String) (spec : RemoteSpec) (names : Bindings) :
    Evaluates f (chooseBody sourceRoot spec names) := by
  rw [chooseBody]
  split
  · exact (evaluateText_evaluates _ names).bind fun _ => Step.evaluates_pure _
  · split
    · exact (pairs_evaluates names _).bind fun _ => Step.evaluates_pure _
    · split
      · split
        · exact Step.evaluates_pure _
        · exact (pairs_evaluates names _).bind fun _ => (pairs_evaluates names _).bind fun _ =>
            Step.evaluates_pure _
      · exact Step.evaluates_pure _

/-- A request is prepared by evaluations. -/
theorem ofSpec_evaluates (hdata : ∀ c data, f (Context.setData c data) = f c)
    (sourceRoot name : String) (spec : RemoteSpec) (names : Bindings) :
    Evaluates f (ofSpec sourceRoot name spec names) := by
  refine (setData_evaluates hdata _).bind fun _ => ?_
  split
  · exact Step.evaluates_fail trivial
  · refine (trimmed_evaluates _ names).bind fun kind => ?_
    dsimp only
    split
    · exact Step.evaluates_fail trivial
    · refine (trimmed_evaluates _ names).bind fun _ => ?_
      refine (trimmed_evaluates _ names).bind fun _ => ?_
      refine (pairs_evaluates names _).bind fun _ => ?_
      refine (pairs_evaluates names _).bind fun _ => ?_
      exact (chooseBody_evaluates sourceRoot spec names).bind fun _ => Step.evaluates_pure _

end Prepared

namespace Resolution

/-- The error of a judge is that of a remote variable. -/
theorem rewords_judgeError (name : String) : Step.Rewords (judgeError name) := by
  intro e item reason h
  cases e with
  | aborted => exact h
  | _ => cases h

theorem judge_evaluates (hdata : ∀ c data, f (Context.setData c data) = f c) (name : String)
    (spec : RemoteSpec) (r : Response) (names : Bindings) :
    Evaluates f (judge name spec r names) := by
  rw [judge]
  split
  · split
    · exact Step.evaluates_pure _
    · exact Step.evaluates_fail trivial
  · refine (setData_evaluates hdata _).bind fun _ => ?_
    refine ((Prepared.trimmed_evaluates _ names).mapError (rewords_judgeError name)).bind
      fun verdict => ?_
    split
    · exact Step.evaluates_pure _
    · exact Step.evaluates_fail trivial

theorem parse_evaluates (name : String) (spec : RemoteSpec) (r : Response) (body : Bytes) :
    Evaluates f (parse name spec r body) := by
  rw [parse]
  split
  · exact Step.evaluates_pure _
  · exact Step.evaluates_fail trivial

theorem refine_evaluates (hdata : ∀ c data, f (Context.setData c data) = f c) (spec : RemoteSpec)
    (r : Response) (names : Bindings) : Evaluates f (refine spec r names) := by
  rw [refine]
  split
  · exact Step.evaluates_pure _
  · refine (setData_evaluates hdata _).bind fun _ => ?_
    exact (evaluate_evaluates _ names).bind fun _ => Step.evaluates_pure _

/-- What is made of a reply is made by evaluations. -/
theorem accept_evaluates (hdata : ∀ c data, f (Context.setData c data) = f c) (name : String)
    (spec : RemoteSpec) (reply : Http.Reply) (names : Bindings) :
    Evaluates f (accept name spec reply names) := by
  refine (judge_evaluates hdata name spec _ names).bind fun _ => ?_
  refine (parse_evaluates name spec _ _).bind fun _ => ?_
  exact refine_evaluates hdata spec _ names

end Resolution

end Evaluating

end Scaffold

import Scaffold.Proofs.Emission.Splicing
import Scaffold.Proofs.Evaluation.Frame

/-!
# Signals — errors and return values of evaluations in a row

An evaluation reports an error or a return value by leaving it in a slot of the context, which
outlives the evaluation. Whoever evaluates looks into the slots when the template is rendered and
empties them. So each evaluation hears its own calls of `error` and `return` and no others, as long
as it begins with empty slots; and so does the next one (`signals_stay_apart`). Only where an
evaluation is stopped, which ends the run, the slots are left as they are.
-/

set_option autoImplicit false

namespace Scaffold

open Scaffold.Expr (LibraryCall)
open Scaffold.Emission (pristine)

/-! ## One evaluation -/

theorem Context.drain_eq_iff {c : Context} :
    c.drain = c ↔ c.error = none ∧ c.returned = none := by
  constructor
  · intro h
    rw [← h]
    exact ⟨rfl, rfl⟩
  · rintro ⟨herror, hreturned⟩
    obtain ⟨⟩ := c
    simp only at herror hreturned
    subst herror hreturned
    rfl

section Settling

variable {rendered : Except Expr.Halt String} {c : Context}

/-- A text that was rendered counts, unless an error was reported meanwhile. -/
theorem settled_ok_iff (text : String) :
    (∃ e, (settled rendered c).1 = .ok e ∧ e.text = text) ↔
      rendered = .ok text ∧ c.error = none := by
  match rendered with
  | .error (.aborted _) => simp [settled]
  | .error (.failed failure) => simp [settled]
  | .ok written => cases herror : c.error <;> simp [settled, herror]

theorem settled_returned {e : Evaluated} (h : (settled rendered c).1 = .ok e) :
    e.returned = c.returned := by
  match rendered with
  | .error (.aborted _) => cases h
  | .error (.failed failure) => cases h
  | .ok written =>
    cases herror : c.error with
    | none =>
      simp only [settled, herror] at h
      cases h
      rfl
    | some message =>
      simp only [settled, herror] at h
      cases h

theorem settled_drained (h : (settled rendered c).1 ≠ .error .aborted) :
    (settled rendered c).2 = c.drain := by
  match rendered with
  | .error (.aborted _) => exact absurd rfl h
  | .error (.failed failure) => rfl
  | .ok written => cases herror : c.error <;> simp [settled, herror]

theorem settled_left (h : (settled rendered c).1 = .error .aborted) :
    (settled rendered c).2 = c := by
  match rendered with
  | .error (.aborted _) => rfl
  | .error (.failed failure) => cases h
  | .ok written => cases herror : c.error <;> simp [settled, herror] at h

end Settling

/-- An evaluation of an expression from a context on. -/
structure Visit where
  expression : Expression
  names : Bindings
  before : Context

namespace Visit

/-- What comes of the evaluation. -/
def result (v : Visit) : Except Error Evaluated := (v.expression.evaluate v.names v.before).1

/-- The context that the evaluation leaves. -/
def after (v : Visit) : Context := (v.expression.evaluate v.names v.before).2

/-- The text that comes of the evaluation. -/
def text (v : Visit) : Except Error String := v.result.map Evaluated.text

/-- The evaluation stops without a cause. -/
def Aborted (v : Visit) : Prop := v.result = .error .aborted

/-- The text that a template renders to, if it does. -/
def rendered? (v : Visit) (template : String) : Except Expr.Halt String :=
  ((Expr.render template v.names.entries).run Context.answer v.before).1

/-- What is known of an evaluation that begins with empty slots. -/
structure Separate (v : Visit) : Prop where
  starts_empty : v.before.drain = v.before
  /-- A blank expression is handed back as it is. -/
  blank : v.expression.template? = none →
    v.result = .ok ⟨v.expression.text, none⟩ ∧ v.after = v.before
  /-- Another one has a value if its template renders and no error is reported meanwhile. -/
  ok_iff : ∀ template calls, v.expression.template? = some template →
    v.expression.Accounts v.names v.before calls → ∀ text,
      ((∃ e, v.result = .ok e ∧ e.text = text) ↔
        v.rendered? template = .ok text ∧ calls.filterMap LibraryCall.message? = [])
  /-- It returns what it has returned last. -/
  returned : ∀ calls e, v.expression.Accounts v.names v.before calls → v.result = .ok e →
    e.returned = (calls.filterMap LibraryCall.value?).getLast?
  ends_empty : ¬ v.Aborted → v.after.drain = v.after
  /-- Where it stops without a cause, the slots are left as they are then. -/
  left : v.Aborted → ∀ calls, v.expression.Accounts v.names v.before calls →
    v.after.error = (calls.filterMap LibraryCall.message?).getLast? ∧
      v.after.returned = (calls.filterMap LibraryCall.value?).getLast?

variable {v : Visit}

theorem separate_of_blank (hempty : v.before.drain = v.before)
    (hblank : v.expression.template? = none) : v.Separate := by
  have hevaluate : v.expression.evaluate v.names = pure ⟨v.expression.text, none⟩ :=
    Expression.evaluate_of_blank hblank
  have hresult : v.result = .ok ⟨v.expression.text, none⟩ := by rw [result, hevaluate]; rfl
  have hafter : v.after = v.before := by rw [after, hevaluate]; rfl
  have hcalls {calls : List LibraryCall}
      (h : v.expression.Accounts v.names v.before calls) : calls = [] := by
    simpa only [Expression.Accounts, hblank] using h
  refine ⟨hempty, fun _ => ⟨hresult, hafter⟩, ?_, ?_, ?_, ?_⟩
  · intro template calls htemplate
    rw [hblank] at htemplate
    cases htemplate
  · intro calls e haccounts he
    rw [hresult] at he
    cases he
    rw [hcalls haccounts]
    rfl
  · intro _
    rw [hafter]
    exact hempty
  · intro haborted
    rw [Aborted, hresult] at haborted
    cases haborted

theorem separate_of_template {template : String} (hempty : v.before.drain = v.before)
    (htemplate : v.expression.template? = some template) : v.Separate := by
  obtain ⟨herror, hreturned⟩ := Context.drain_eq_iff.1 hempty
  have hsettled {calls : List LibraryCall}
      (haccounts : v.expression.Accounts v.names v.before calls) :
      v.expression.evaluate v.names v.before =
        settled (v.rendered? template) (LibraryCall.effects calls v.before) := by
    simp only [Expression.Accounts, htemplate] at haccounts
    rw [Expression.evaluate_of_template htemplate, render_eq_settled haccounts]
    rfl
  have hmessages (calls : List LibraryCall) :
      (LibraryCall.effects calls v.before).error =
        (calls.filterMap LibraryCall.message?).getLast? := by
    simp [LibraryCall.effects, herror]
  have hvalues (calls : List LibraryCall) :
      (LibraryCall.effects calls v.before).returned =
        (calls.filterMap LibraryCall.value?).getLast? := by
    simp [LibraryCall.effects, hreturned]
  refine ⟨hempty, fun hblank => ?_, ?_, ?_, ?_, ?_⟩
  · rw [htemplate] at hblank
    cases hblank
  · intro template' calls htemplate' haccounts text
    obtain rfl : template = template' := Option.some.inj (htemplate.symm.trans htemplate')
    rw [result, hsettled haccounts, settled_ok_iff, hmessages, List.getLast?_eq_none_iff]
  · intro calls e haccounts he
    rw [result, hsettled haccounts] at he
    rw [settled_returned he, hvalues]
  · intro hends
    obtain ⟨calls, haccounts⟩ := v.expression.exists_accounts v.names v.before
    rw [Aborted, result, hsettled haccounts] at hends
    rw [after, hsettled haccounts, settled_drained hends]
    rfl
  · intro haborted calls haccounts
    rw [Aborted, result, hsettled haccounts] at haborted
    rw [after, hsettled haccounts, settled_left haborted]
    exact ⟨hmessages calls, hvalues calls⟩

/-- Every evaluation that begins with empty slots stands by itself. -/
theorem separate (hempty : v.before.drain = v.before) : v.Separate := by
  cases htemplate : v.expression.template? with
  | none => exact separate_of_blank hempty htemplate
  | some template => exact separate_of_template hempty htemplate

end Visit

/-! ## Evaluations in a row -/

/-- What an evaluator is asked for: the value of an expression, or that of a declared value, which
it evaluates item by item. -/
inductive Request
  | expression (e : Expression)
  | field (value : Field)

/-- What a request is answered with. -/
inductive Reply
  | evaluated (e : Evaluated)
  | field (value : Field)

/-- The texts of a reply. -/
def Reply.texts : Reply → List String
  | .evaluated e => [e.text]
  | .field (.text text) => [text]
  | .field (.list texts) => texts

/-- What is made of the value of a step is no step of its own. -/
theorem Step.bind_pure_apply {α β : Type} (x : Step α) (f : α → β) (c : Context) :
    (x >>= fun a => pure (f a)) c = ((x c).1.map f, (x c).2) := by
  change Step.bind x _ c = _
  rw [Step.bind]
  obtain ⟨result, c'⟩ := x c
  cases result <;> rfl

/-- The evaluations of expressions in a row, up to the first that has no value. -/
def visitsInRow (names : Bindings) : List String → Context → List Visit
  | [], _ => []
  | text :: texts, c =>
    let v : Visit := ⟨{ text }, names, c⟩
    v :: match v.result with
      | .ok _ => visitsInRow names texts v.after
      | .error _ => []

namespace Request

/-- Does what is asked for. -/
def perform (names : Bindings) : Request → Step Reply
  | .expression e => do return .evaluated (← e.evaluate names)
  | .field value => do return .field (← evaluateField names value)

/-- The evaluations that a request comes to. -/
def visits (names : Bindings) : Request → Context → List Visit
  | .expression e, c => [⟨e, names, c⟩]
  | .field (.text text), c => [⟨{ text }, names, c⟩]
  | .field (.list texts), c => visitsInRow names texts c

variable (names : Bindings) (c : Context)

theorem perform_expression (e : Expression) :
    (Request.expression e).perform names c =
      ((⟨e, names, c⟩ : Visit).result.map .evaluated, (⟨e, names, c⟩ : Visit).after) :=
  Step.bind_pure_apply _ _ c

theorem perform_field (value : Field) :
    (Request.field value).perform names c =
      ((evaluateField names value c).1.map .field, (evaluateField names value c).2) :=
  Step.bind_pure_apply _ _ c

theorem perform_text (text : String) :
    (Request.field (.text text)).perform names c =
      ((⟨{ text }, names, c⟩ : Visit).result.map fun e => .field (.text e.text),
        (⟨{ text }, names, c⟩ : Visit).after) := by
  have htext : evaluateText text names c = (_, _) := Step.bind_pure_apply _ _ c
  have hfield : evaluateField names (.text text) c = (_, _) := Step.bind_pure_apply _ _ c
  change _ = ((evaluate text names c).1.map _, (evaluate text names c).2)
  rw [perform_field, hfield, htext]
  cases (evaluate text names c).1 <;> rfl

theorem perform_list (texts : List String) :
    (Request.field (.list texts)).perform names c =
      ((evaluateTexts names texts c).1.map fun texts => .field (.list texts),
        (evaluateTexts names texts c).2) := by
  have hfield : evaluateField names (.list texts) c = (_, _) := Step.bind_pure_apply _ _ c
  rw [perform_field, hfield]
  cases (evaluateTexts names texts c).1 <;> rfl

end Request

/-- The state in which a row of evaluations leaves things is that of the last of them. -/
structure RowEnds {α : Type} (texts : α → List String) (c : Context) (visits : List Visit)
    (result : Except Error α) (c' : Context) : Prop where
  after : c' = (visits.getLast?.map Visit.after).getD c
  aborted_iff : result = .error .aborted ↔ ∃ v ∈ visits.getLast?, v.Aborted
  ok_iff : ∀ row, (∃ a, result = .ok a ∧ texts a = row) ↔
    visits.map Visit.text = row.map .ok

namespace RowEnds

variable {c c' : Context} {v : Visit} {visits : List Visit} {e : Evaluated}

theorem nil (c : Context) : RowEnds id c [] (.ok []) c where
  after := rfl
  aborted_iff := by simp
  ok_iff := by
    intro row
    cases row <;> simp

/-- A row ends with an evaluation that has no value. -/
theorem failed {error : Error} (h : v.result = .error error) :
    RowEnds id c [v] (.error error) v.after where
  after := rfl
  aborted_iff := by simp [Visit.Aborted, h]
  ok_iff := by
    intro row
    cases row <;> simp [Visit.text, h, Except.map]

/-- A row goes on behind an evaluation that has a value. -/
theorem cons {texts : Except Error (List String)} (h : v.result = .ok e)
    (hrest : RowEnds id v.after visits texts c') :
    RowEnds id c (v :: visits) (texts.map (e.text :: ·)) c' where
  after := by
    rw [hrest.after]
    cases hlast : visits.getLast? <;> simp [List.getLast?_cons, hlast]
  aborted_iff := by
    have hsame : texts.map (e.text :: ·) = .error .aborted ↔ texts = .error .aborted := by
      cases texts <;> simp [Except.map]
    rw [hsame, hrest.aborted_iff]
    cases hlast : visits.getLast? <;> simp [List.getLast?_cons, hlast, Visit.Aborted, h]
  ok_iff := by
    intro row
    have htext : v.text = .ok e.text := by rw [Visit.text, h]; rfl
    cases row with
    | nil => cases texts <;> simp [Except.map]
    | cons text row =>
      have hrow := hrest.ok_iff row
      cases texts with
      | ok texts =>
        have hsame : texts = row ↔ visits.map Visit.text = row.map .ok := by
          simpa using hrow
        simp [Except.map, htext, hsame]
      | error error =>
        have hnone : visits.map Visit.text ≠ row.map .ok := by
          simpa using hrow
        simp [Except.map, htext, hnone]

/-- A single evaluation is a row. -/
theorem single (f : Evaluated → Reply) (hf : ∀ e, (f e).texts = [e.text]) (c : Context)
    (v : Visit) : RowEnds Reply.texts c [v] (v.result.map f) v.after where
  after := rfl
  aborted_iff := by
    cases hresult : v.result <;> simp [Except.map, Visit.Aborted, hresult]
  ok_iff := by
    intro row
    cases hresult : v.result <;> cases row <;> simp [Except.map, Visit.text, hresult, hf]

/-- What is made of the texts of a row changes nothing of how it ends. -/
theorem map {texts : Except Error (List String)} (h : RowEnds id c visits texts c')
    (f : List String → Reply) (hf : ∀ row, (f row).texts = row) :
    RowEnds Reply.texts c visits (texts.map f) c' where
  after := h.after
  aborted_iff := by
    rw [← h.aborted_iff]
    cases texts <;> simp [Except.map]
  ok_iff := by
    intro row
    rw [← h.ok_iff]
    cases texts <;> simp [Except.map, hf]

end RowEnds

theorem evaluateTexts_cons (names : Bindings) (text : String) (texts : List String)
    (c : Context) :
    let v : Visit := ⟨{ text }, names, c⟩
    evaluateTexts names (text :: texts) c =
      match v.result with
      | .ok e =>
        ((evaluateTexts names texts v.after).1.map (e.text :: ·),
          (evaluateTexts names texts v.after).2)
      | .error error => (.error error, v.after) := by
  have hvisit : evaluate text names c =
      ((⟨{ text }, names, c⟩ : Visit).result, (⟨{ text }, names, c⟩ : Visit).after) := rfl
  change Step.bind (Step.bind (evaluate text names) _) _ c = _
  dsimp only [Step.bind]
  rw [hvisit]
  generalize (⟨{ text }, names, c⟩ : Visit).after = c'
  cases (⟨{ text }, names, c⟩ : Visit).result with
  | error error => rfl
  | ok e =>
    change Step.bind (evaluateTexts names texts) _ c' = _
    rw [Step.bind]
    obtain ⟨result, c''⟩ := evaluateTexts names texts c'
    cases result <;> rfl

theorem visitsInRow_ends (names : Bindings) (texts : List String) (c : Context) :
    RowEnds id c (visitsInRow names texts c) (evaluateTexts names texts c).1
      (evaluateTexts names texts c).2 := by
  induction texts generalizing c with
  | nil => exact .nil c
  | cons text texts ih =>
    rw [evaluateTexts_cons, visitsInRow]
    cases hresult : (⟨{ text }, names, c⟩ : Visit).result with
    | error error => exact .failed hresult
    | ok e => exact .cons hresult (ih _)

/-- Each evaluation of a row leaves empty slots for the next one. -/
theorem visitsInRow_separate {names : Bindings} {texts : List String} {c : Context}
    (hempty : c.drain = c) : ∀ v ∈ visitsInRow names texts c, v.Separate := by
  induction texts generalizing c with
  | nil => simp [visitsInRow]
  | cons text texts ih =>
    have hfirst : (⟨{ text }, names, c⟩ : Visit).Separate := Visit.separate hempty
    intro v hv
    rw [visitsInRow] at hv
    cases hresult : (⟨{ text }, names, c⟩ : Visit).result with
    | error error =>
      simp only [hresult, List.mem_singleton] at hv
      exact hv ▸ hfirst
    | ok e =>
      simp only [hresult, List.mem_cons] at hv
      rcases hv with rfl | hv
      · exact hfirst
      · refine ih (hfirst.ends_empty ?_) v hv
        rw [Visit.Aborted, hresult]
        exact nofun

/-- A request that is made of an evaluator. -/
structure Call where
  request : Request
  names : Bindings
  before : Context

namespace Call

/-- What comes of the call. -/
def result (k : Call) : Except Error Reply := (k.request.perform k.names k.before).1

/-- The context that is left behind. -/
def after (k : Call) : Context := (k.request.perform k.names k.before).2

/-- The evaluations that the call comes to. -/
def visits (k : Call) : List Visit := k.request.visits k.names k.before

/-- The call stops without a cause. -/
def Aborted (k : Call) : Prop := k.result = .error .aborted

/-- What is known of a call that begins with empty slots. -/
structure Separate (k : Call) : Prop where
  starts_empty : k.before.drain = k.before
  ends_empty : ¬ k.Aborted → k.after.drain = k.after
  visits : ∀ v ∈ k.visits, v.Separate
  /-- The call succeeds if all its evaluations do, and their texts are its texts. -/
  row : RowEnds Reply.texts k.before k.visits k.result k.after
  /-- Whatever it hands back besides is what its evaluation has returned. -/
  reply : ∀ e, k.result = .ok (.evaluated e) → ∃ v ∈ k.visits, v.result = .ok e

variable {k : Call}

theorem ends (k : Call) : RowEnds Reply.texts k.before k.visits k.result k.after := by
  obtain ⟨request, names, c⟩ := k
  rw [result, after]
  cases request with
  | expression e =>
    rw [Request.perform_expression]
    exact .single _ (fun _ => rfl) c _
  | field value =>
    cases value with
    | text text =>
      rw [Request.perform_text]
      exact .single _ (fun _ => rfl) c _
    | list texts =>
      rw [Request.perform_list]
      exact (visitsInRow_ends names texts c).map _ fun _ => rfl

theorem visits_separate (hempty : k.before.drain = k.before) : ∀ v ∈ k.visits, v.Separate := by
  obtain ⟨request, names, c⟩ := k
  have hsingle (e : Expression) : ∀ v ∈ [(⟨e, names, c⟩ : Visit)], v.Separate := by
    intro v hv
    rw [List.mem_singleton] at hv
    exact hv ▸ Visit.separate hempty
  cases request with
  | expression e => exact hsingle e
  | field value =>
    cases value with
    | text text => exact hsingle { text }
    | list texts => exact visitsInRow_separate hempty

/-- Every call that begins with empty slots stands by itself. -/
theorem separate (hempty : k.before.drain = k.before) : k.Separate := by
  have hvisits := k.visits_separate hempty
  refine ⟨hempty, fun hends => ?_, hvisits, k.ends, ?_⟩
  · rw [k.ends.after]
    cases hlast : k.visits.getLast? with
    | none => exact hempty
    | some v =>
      refine (hvisits v (List.mem_of_getLast? hlast)).ends_empty fun haborted => ?_
      exact hends (k.ends.aborted_iff.2 ⟨v, hlast, haborted⟩)
  · obtain ⟨request, names, c⟩ := k
    intro e he
    cases request with
    | expression expression =>
      rw [result, Request.perform_expression] at he
      cases hresult : (⟨expression, names, c⟩ : Visit).result <;> rw [hresult] at he <;> cases he
      exact ⟨_, List.mem_singleton_self _, hresult⟩
    | field value =>
      rw [result, Request.perform_field] at he
      cases hresult : (evaluateField names value c).1 <;> rw [hresult] at he <;> cases he

end Call

/-- A request in a run: what has happened to the context since the request before it, and what is
asked for then. -/
structure Turn where
  between : Context → Context
  request : Request
  names : Bindings

/-- The calls of requests in a row. -/
def session : List Turn → Context → List Call
  | [], _ => []
  | t :: ts, c =>
    let k : Call := ⟨t.request, t.names, t.between c⟩
    k :: session ts k.after

/-- Evaluators are called in a row, and whatever happens to the context in between fills neither of
the slots. Then every call before which none has stopped without a cause begins with empty slots: it
hears all that is reported in it and nothing that was reported before, and unless it stops itself,
it leaves empty slots behind. -/
theorem signals_stay_apart (turns : List Turn) (c : Context) (hempty : c.drain = c)
    (hturns : ∀ t ∈ turns, ∀ c : Context, c.drain = c → (t.between c).drain = t.between c) :
    ∀ past k future, session turns c = past ++ k :: future → (∀ l ∈ past, ¬ l.Aborted) →
      k.Separate := by
  induction turns generalizing c with
  | nil =>
    intro past k future h
    simp [session] at h
  | cons t turns ih =>
    intro past k future h hpast
    have hfirst : (⟨t.request, t.names, t.between c⟩ : Call).Separate :=
      Call.separate (hturns t List.mem_cons_self c hempty)
    cases past with
    | nil =>
      obtain ⟨rfl, -⟩ := List.cons.inj h
      exact hfirst
    | cons l past =>
      obtain ⟨rfl, hrest⟩ := List.cons.inj h
      have hleft := hfirst.ends_empty (hpast _ List.mem_cons_self)
      exact ih _ hleft (fun t' ht' => hturns t' (List.mem_cons_of_mem _ ht')) past k future hrest
        fun l' hl' => hpast l' (List.mem_cons_of_mem _ hl')

/-- The call of an evaluator on a text. -/
def Call.ofText (text : String) (c : Context) : Call :=
  ⟨.expression { text }, .standard {}, c⟩

/-- Two texts that are evaluated one after the other. -/
def twice (first second : String) : List Turn :=
  [⟨id, .expression { text := first }, .standard {}⟩,
    ⟨id, .expression { text := second }, .standard {}⟩]

theorem session_twice (first second : String) (c : Context) :
    session (twice first second) c =
      [Call.ofText first c, Call.ofText second (Call.ofText first c).after] := rfl

/-- The error that a result is, if it is one. -/
def errorOf? {α : Type} : Except Error α → Option Error
  | .ok _ => none
  | .error e => some e

/-- A text that reports an error, returns a value and fails. -/
def failing : String :=
  "\x7b\x7b error('late') \x7d\x7d\x7b\x7b return(1) \x7d\x7d\x7b\x7b nothing() \x7d\x7d"

/-- Behind a text that fails, the next one hears nothing of what was reported in it. -/
theorem signals_stay_apart_failing :
    (errorOf? (Call.ofText failing pristine).result).isSome ∧
      (Call.ofText "fine" (Call.ofText failing pristine).after).Separate := by
  have hfails : (errorOf? (Call.ofText failing pristine).result).isSome ∧
      errorOf? (Call.ofText failing pristine).result ≠ some .aborted := by decide +kernel
  refine ⟨hfails.1, signals_stay_apart (twice failing "fine") pristine rfl ?_
    [Call.ofText failing pristine] _ [] (session_twice failing "fine" pristine) ?_⟩
  · simp [twice]
  · intro l hl haborted
    rw [List.mem_singleton] at hl
    rw [hl, Call.Aborted] at haborted
    exact hfails.2 (congrArg errorOf? haborted)

end Scaffold

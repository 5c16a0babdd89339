import Scaffold.Proofs.Generation.Order
import Scaffold.Proofs.Sight
import Scaffold.System.Machine

/-!
# Responses — which remote variables have got an answer

A response is stored on the declaration of its variable, and there alone. So what has been resolved
can be read off the document at any time of a run: a variable has a response if it is declared with
a request and its turn is over (`Progress`). Every deed of a run preserves that
(`Progress.perform`), so that the expressions of a request see the responses of the variables before
its own, and everything behind the remote variables sees all of them (`responses_in_order`).
-/

set_option autoImplicit false

namespace Scaffold

/-! ## Responses of a document -/

/-- A response is not none, whatever it says. -/
theorem Response.toValue_ne_none (response : Response) : response.toValue ≠ .none := nofun

/-- A request as it is declared. -/
def RemoteSpec.withoutResponse (spec : RemoteSpec) : RemoteSpec :=
  { spec with response := none }

namespace Document

/-- A document in which no remote variable has a response. -/
def withoutResponses (d : Document) : Document :=
  { d with remoteVars := d.remoteVars.map fun vars =>
      vars.map (Option.map RemoteSpec.withoutResponse) }

/-- No remote variable has a response. -/
def IsUnanswered (d : Document) : Prop := d.withoutResponses = d

/-- Expressions that see the document are told the responses to some remote variables, and none to
any other name. -/
def Answered (d : Document) (names : List String) : Prop :=
  ∀ c : Context, c.document = d → ∀ name,
    (Context.answer (.response name) c).1 ≠ .none ↔ name ∈ names

/-- Those of some names that are declared with a request. -/
def requestedAmong (d : Document) (names : List String) : List String :=
  names.filter fun name => (d.remoteSpec? name).isSome

theorem answered_of_forall {d : Document} {names : List String}
    (h : ∀ name, ((d.remoteSpec? name).bind (·.response)).isSome ↔ name ∈ names) :
    d.Answered names := by
  intro c hc name
  subst hc
  rw [← h name]
  change Expr.Value.ofOption Response.toValue (c.response? name) ≠ .none ↔
    (c.response? name).isSome
  cases c.response? name with
  | none => simp [Expr.Value.ofOption]
  | some response => simp [Expr.Value.ofOption, Response.toValue_ne_none]

theorem remoteSpec?_withoutResponses (d : Document) (name : String) :
    d.withoutResponses.remoteSpec? name =
      (d.remoteSpec? name).map RemoteSpec.withoutResponse := by
  unfold remoteSpec? withoutResponses
  cases d.remoteVars with
  | none => rfl
  | some vars =>
    simp only [Option.map_some, Option.bind_some, OrderedMap.get?_map]
    cases vars.get? name with
    | none => rfl
    | some spec => cases spec <;> rfl

theorem IsUnanswered.response_eq_none {d : Document} (h : d.IsUnanswered) {name : String}
    {spec : RemoteSpec} (hspec : d.remoteSpec? name = some spec) : spec.response = none := by
  have hsame := remoteSpec?_withoutResponses d name
  rw [h, hspec, Option.map_some] at hsame
  exact congrArg RemoteSpec.response (Option.some.inj hsame)

/-- Storing a response changes the request of its variable alone. -/
theorem remoteSpec?_setResponse (d : Document) (name : String) (response : Response)
    (n : String) :
    (d.setResponse name response).remoteSpec? n =
      if n = name then (d.remoteSpec? name).map ({ · with response := some response })
      else d.remoteSpec? n := by
  rw [setResponse]
  split
  next vars spec hvars hspec =>
    rw [hspec]
    simp only [remoteSpec?, hvars, Option.bind_some, OrderedMap.get?_set]
    split <;> rfl
  next hnone =>
    split
    next heq =>
      subst heq
      cases hspec : d.remoteSpec? n with
      | none => rfl
      | some spec =>
        obtain ⟨vars, hvars, -⟩ := Option.bind_eq_some_iff.1 hspec
        exact absurd hspec (hnone vars spec hvars)
    next => rfl

/-- Storing a response changes nothing but the response. -/
theorem withoutResponses_setResponse (d : Document) (name : String) (response : Response) :
    (d.setResponse name response).withoutResponses = d.withoutResponses := by
  rw [setResponse]
  split
  next vars spec hvars hspec =>
    obtain ⟨vars', hvars', hjoin⟩ := Option.bind_eq_some_iff.1 hspec
    obtain rfl : vars' = vars := Option.some.inj (hvars'.symm.trans hvars)
    have hget : (vars'.map (Option.map RemoteSpec.withoutResponse)).get? name =
        some (some spec.withoutResponse) := by
      rw [OrderedMap.get?_map, Option.join_eq_some_iff.1 hjoin]
      rfl
    have hmap : (vars'.set name (some { spec with response := some response })).map
        (Option.map RemoteSpec.withoutResponse) =
          vars'.map (Option.map RemoteSpec.withoutResponse) := by
      rw [OrderedMap.map_set]
      exact OrderedMap.set_of_get? hget
    simp only [withoutResponses, hvars, Option.map_some, hmap]
  next => rfl

end Document

namespace Generation

/-! ## What one deed does -/

section Responding

variable {σ : Type} {answer : (q : SystemCall) → σ → q.Answer × σ} {roots : Emission.Roots}
  {names : Bindings} {c c' : Context} {w w' : σ} {ds done : List Deed}
  {history : List Performed} {result : Except Error Unit} {d₀ d : Document}

theorem resolveRemoteVar_of_none {sourceRoot name : String}
    (h : c.document.remoteSpec? name = none) :
    resolveRemoteVar sourceRoot names name c =
      Work.report Phase.remoteVars.text
        ("$\x7b" ++ name ++ "\x7d: " ++ "empty declaration, skipped") c := by
  rw [resolveRemoteVar, Work.get_bind, h]

/-- Resolving a remote variable stores a response, or fails and stores nothing. -/
theorem resolveRemoteVar_yields {sourceRoot name : String} {spec : RemoteSpec}
    (h : c.document.remoteSpec? name = some spec) :
    (resolveRemoteVar sourceRoot names name c).Yields fun r =>
      match r.1 with
      | .ok _ => ∃ response, r.2.document = c.document.setResponse name response
      | .error _ => r.2.document = c.document := by
  rw [resolveRemoteVar, Work.get_bind, h]
  refine Work.yields_bind (R := fun c' => c'.document = c.document) rfl (fun _ c₁ h₁ => ?_)
    fun _ _ h => h
  have hresolve := Resolution.resolve_keeps_document sourceRoot name spec names c₁
  refine Work.yields_bind (R := fun c' => c'.document = c.document)
    (hresolve.mono fun _ heq => heq.trans h₁) (fun response c₂ h₂ => ?_) fun _ _ h => h
  refine Work.yields_bind (R := fun c' => c'.document = c.document)
    ((Work.keeps_report _ _ c₂).mono fun _ heq => heq.trans h₂) (fun _ c₃ h₃ => ?_)
    fun _ _ h => h
  exact ⟨response, congrArg (·.setResponse name response) h₃⟩

/-- Only requests change remote variables. -/
theorem perform_keeps_remoteVars {d : Deed} (h : ∀ name, d ≠ .request name) :
    Work.Keeps (fun c => c.document.remoteVars) (d.perform roots names) := by
  cases d with
  | resolve s key =>
    have hset (s : Section) (d : Document) (key : String) (field : Field) :
        (s.set d key field).remoteVars = d.remoteVars := by cases s <;> rfl
    exact (resolveField_keeps_of_set hset s names key).bind fun _ => Work.keeps_pure _
  | request name => exact absurd rfl (h name)
  | makeOutput | survey | emit =>
    exact (perform_evaluates
      (by simp [Deed.stage, Stage.rank])).keeps_document.ofDocument (·.remoteVars)
  | command hooks text =>
    refine (perform_evaluates ?_).keeps_document.ofDocument (·.remoteVars)
    cases hooks <;> simp [Deed.stage, Stage.rank]

/-! ## Progress -/

/-- How far the remote variables of a document have got when some deeds are done: they are declared
as at the beginning, and those with a request whose turn is over have a response. -/
structure Progress (d₀ : Document) (done : List Deed) (d : Document) : Prop where
  declared : d.withoutResponses.remoteVars = d₀.withoutResponses.remoteVars
  responses : ∀ name, ((d.remoteSpec? name).bind (·.response)).isSome ↔
    Deed.request name ∈ done ∧ (d₀.remoteSpec? name).isSome

theorem progress_nil (h : d.IsUnanswered) : Progress d [] d where
  declared := rfl
  responses := by
    intro name
    cases hspec : d.remoteSpec? name with
    | none => simp
    | some spec => simp [h.response_eq_none hspec]

theorem Progress.spec_eq (h : Progress d₀ done d) (name : String) :
    (d.remoteSpec? name).map RemoteSpec.withoutResponse =
      (d₀.remoteSpec? name).map RemoteSpec.withoutResponse := by
  rw [← Document.remoteSpec?_withoutResponses, ← Document.remoteSpec?_withoutResponses,
    Document.remoteSpec?, Document.remoteSpec?, h.declared]

theorem Progress.isSome_eq (h : Progress d₀ done d) (name : String) :
    (d.remoteSpec? name).isSome = (d₀.remoteSpec? name).isSome := by
  have hspec := congrArg Option.isSome (h.spec_eq name)
  rwa [Option.isSome_map, Option.isSome_map] at hspec

/-- A variable whose turn has not come is as it was declared. -/
theorem Progress.remoteSpec?_eq (h : Progress d₀ done d) (h₀ : d₀.IsUnanswered) {name : String}
    (hname : Deed.request name ∉ done) : d.remoteSpec? name = d₀.remoteSpec? name := by
  -- neither has a response, and apart from the response they are the same
  have hnone : ((d.remoteSpec? name).bind (·.response)).isSome ≠ true :=
    fun hsome => hname ((h.responses name).1 hsome).1
  have hspec := h.spec_eq name
  cases hd : d.remoteSpec? name with
  | none =>
    rw [hd] at hspec
    exact (Option.map_eq_none_iff.1 hspec.symm).symm
  | some spec =>
    cases hd₀ : d₀.remoteSpec? name with
    | none => simp [hd, hd₀] at hspec
    | some spec₀ =>
      have hbefore := h₀.response_eq_none hd₀
      have hnow : spec.response = none := by simpa [hd] using hnone
      have hsame : spec.withoutResponse = spec₀.withoutResponse := by simpa [hd, hd₀] using hspec
      have hspec' : spec.withoutResponse = spec := by rw [RemoteSpec.withoutResponse, ← hnow]
      have hspec₀ : spec₀.withoutResponse = spec₀ := by rw [RemoteSpec.withoutResponse, ← hbefore]
      rw [← hspec', ← hspec₀, hsame]

/-- Progress is a matter of the remote variables alone. -/
theorem Progress.congr {d' : Document} (h : Progress d₀ done d)
    (hvars : d'.remoteVars = d.remoteVars) : Progress d₀ done d' where
  declared := (congrArg (Option.map _) hvars).trans h.declared
  responses := by
    intro name
    have hsame : d'.remoteSpec? name = d.remoteSpec? name := by
      rw [Document.remoteSpec?, Document.remoteSpec?, hvars]
    rw [hsame]
    exact h.responses name

/-- A deed that resolves nothing is no progress. -/
theorem Progress.skip (h : Progress d₀ done d) {a : Deed}
    (ha : ∀ name, a = .request name → d.remoteSpec? name = none) :
    Progress d₀ (done ++ [a]) d where
  declared := h.declared
  responses := by
    intro name
    rw [h.responses name, List.mem_append, List.mem_singleton, ← h.isSome_eq name]
    constructor
    · exact fun ⟨hdone, hsome⟩ => ⟨.inl hdone, hsome⟩
    · rintro ⟨hdone | hlast, hsome⟩
      · exact ⟨hdone, hsome⟩
      · simp [ha name hlast.symm] at hsome

/-- A response that is stored is the progress of its variable. -/
theorem Progress.setResponse (h : Progress d₀ done d) {name : String} {spec : RemoteSpec}
    (hspec : d.remoteSpec? name = some spec) (response : Response) :
    Progress d₀ (done ++ [.request name]) (d.setResponse name response) where
  declared := (congrArg (·.remoteVars)
    (Document.withoutResponses_setResponse d name response)).trans h.declared
  responses := by
    intro n
    rw [Document.remoteSpec?_setResponse, List.mem_append, List.mem_singleton]
    by_cases hn : n = name
    · subst hn
      have hsome := h.isSome_eq n
      rw [hspec] at hsome
      simp [hspec, ← hsome]
    · rw [if_neg hn, h.responses n]
      simp [hn]

/-- Every deed of a run is followed by the progress that it stands for; one that fails makes
none. -/
theorem Progress.perform (h : Progress d₀ done c.document) (a : Deed) :
    (a.perform roots names c).Yields fun r =>
      match r.1 with
      | .ok _ => Progress d₀ (done ++ [a]) r.2.document
      | .error _ => Progress d₀ done r.2.document := by
  by_cases ha : ∃ name, a = .request name
  · obtain ⟨name, rfl⟩ := ha
    have hvar : (resolveRemoteVar roots.source names name c).Yields fun r =>
        match r.1 with
        | .ok _ => Progress d₀ (done ++ [.request name]) r.2.document
        | .error _ => Progress d₀ done r.2.document := by
      cases hspec : c.document.remoteSpec? name with
      | none =>
        rw [resolveRemoteVar_of_none hspec]
        refine fun _ => h.skip fun n hn => ?_
        rw [← Deed.request.inj hn]
        exact hspec
      | some spec =>
        refine (resolveRemoteVar_yields hspec).mono fun r hr => ?_
        obtain ⟨result, c'⟩ := r
        cases result with
        | ok u =>
          obtain ⟨response, hr⟩ := hr
          exact hr ▸ h.setResponse hspec response
        | error e => exact h.congr (congrArg (·.remoteVars) hr)
    refine Dialogue.Yields.bind hvar fun r hr => ?_
    obtain ⟨result, c'⟩ := r
    cases result <;> exact hr
  · have hother : ∀ name, a ≠ .request name := fun name heq => ha ⟨name, heq⟩
    refine (perform_keeps_remoteVars hother c).mono fun r hr => ?_
    obtain ⟨result, c'⟩ := r
    cases result with
    | ok more => exact (h.congr hr).skip fun name heq => absurd heq (hother name)
    | error e => exact h.congr hr

/-- When the variables in front are done, exactly those of them that are declared with a request
have a response. -/
theorem Progress.answered {front : List String} (h : Progress d₀ (front.map .request) d) :
    d.Answered (d₀.requestedAmong front) := by
  refine Document.answered_of_forall fun name => ?_
  rw [h.responses name, Document.requestedAmong, List.mem_filter]
  simp

/-! ## The remote variables in order -/

/-- What a remote variable finds when its turn comes behind those in front of it. -/
structure RequestTurn (roots : Emission.Roots) (names : Bindings) (d : Document)
    (front : List String) (name : String) (start : Context) : Prop where
  /-- Expressions are told the responses of the variables in front that are declared with a
  request, and no other response. -/
  answered : start.document.Answered (d.requestedAmong front)
  /-- It is as it was declared. -/
  declared : start.document.remoteSpec? name = d.remoteSpec? name
  /-- But for the responses, so is the whole document. -/
  unchanged : start.document.withoutResponses = d
  /-- One that is declared with a request is resolved as it was declared, and all expressions of
  the request see this very document. -/
  resolved : ∀ spec, d.remoteSpec? name = some spec →
    resolveRemoteVar roots.source names name start =
        (Resolution.resolve roots.source name spec names >>= fun response =>
          Work.report Phase.remoteVars.text
              ("$\x7b" ++ name ++ "\x7d: " ++ "result data => " ++ reported response.data) >>=
            fun _ => Work.modify (·.setResponse name response))
          (start.enter .remoteVars name spec.toValue) ∧
      (Resolution.resolve roots.source name spec names).SeesOnly start.document
        (start.enter .remoteVars name spec.toValue)
  /-- One that is not is reported, and that is all. -/
  skipped : d.remoteSpec? name = none →
    resolveRemoteVar roots.source names name start =
      Work.report Phase.remoteVars.text
        ("$\x7b" ++ name ++ "\x7d: " ++ "empty declaration, skipped") start

theorem requestTurn_of_progress {front : List String} {name : String} {start : Context}
    (h₀ : d₀.IsUnanswered) (h : Progress d₀ (front.map .request) start.document)
    (hunchanged : start.document.withoutResponses = d₀) (hname : name ∉ front) :
    RequestTurn roots names d₀ front name start := by
  have hspec : start.document.remoteSpec? name = d₀.remoteSpec? name := by
    refine h.remoteSpec?_eq h₀ fun hmem => ?_
    obtain ⟨n, hn, heq⟩ := List.mem_map.1 hmem
    exact hname (Deed.request.inj heq ▸ hn)
  refine
    { answered := h.answered
      declared := hspec
      unchanged := hunchanged
      resolved := fun spec hsome => ⟨?_, ?_⟩
      skipped := fun hnone => resolveRemoteVar_of_none (hspec.trans hnone) }
  · rw [resolveRemoteVar, Work.get_bind, hspec.trans hsome]
    rfl
  · exact (Resolution.resolve_evaluates (f := Context.afresh) (fun _ _ => rfl) roots.source name
      spec names).sees (start.enter .remoteVars name spec.toValue)

/-- What the phase of the remote variables is, against the document that it has begun with. -/
structure ResponsesInOrder (roots : Emission.Roots) (names : Bindings) (d : Document)
    (history : List Performed) (result : Except Error Unit) (d' : Document) : Prop where
  /-- The variables have their turns in the order of declaration. -/
  begun : ∀ before p after, before ++ p :: after = history →
    ∃ front name behind, remoteKeys d = front ++ name :: behind ∧
      before.map Performed.deed = front.map .request ∧ p.deed = .request name ∧
      RequestTurn roots names d front name p.start
  /-- When none fails, all of them have had it, and every one that is declared with a request has a
  response. -/
  complete : result = .ok () → history.map Performed.deed = (remoteKeys d).map .request ∧
    d'.Answered (d.requestedAmong (remoteKeys d))
  /-- When one fails, those in front of it have their responses, and nothing comes behind. -/
  failed : ∀ e, result = .error e → ∃ before p front name behind,
    history = before ++ [p] ∧ p.error = some e ∧ remoteKeys d = front ++ name :: behind ∧
      before.map Performed.deed = front.map .request ∧ p.deed = .request name ∧
      d'.Answered (d.requestedAmong front)
  /-- But for the responses, the document is what it was. -/
  unchanged : d'.withoutResponses = d

theorem mem_remoteKeys {name : String} {spec : RemoteSpec} (h : d.remoteSpec? name = some spec) :
    name ∈ remoteKeys d := by
  obtain ⟨vars, hvars, hjoin⟩ := Option.bind_eq_some_iff.1 h
  rw [remoteKeys, hvars]
  exact OrderedMap.mem_keys_of_get? (Option.join_eq_some_iff.1 hjoin)

theorem exists_request_of_stage {a : Deed} (h : a.stage = .remoteVars) :
    ∃ name, a = .request name := by
  cases a with
  | request name => exact ⟨name, rfl⟩
  | resolve s key => cases s <;> cases h
  | command hooks text => cases hooks <;> cases h
  | makeOutput | survey | emit => cases h

/-- Requests that are performed are those of the names from the first on. -/
theorem Performs.front_of_requests {keys : List String}
    (h : Performs answer roots names (keys.map .request) c w history result c' w')
    (hstage : ∀ p ∈ history, p.deed.stage = .remoteVars) :
    (result = .ok () → history.map Performed.deed = keys.map .request) ∧
      ∀ before p after, before ++ p :: after = history → ∃ front name behind,
        keys = front ++ name :: behind ∧ before.map Performed.deed = front.map .request ∧
          p.deed = .request name := by
  have hplanned : plannedOf history = history := by
    refine List.filter_eq_self.2 fun p hmem => ?_
    obtain ⟨name, hname⟩ := exists_request_of_stage (hstage p hmem)
    rw [hname]
    rfl
  have hall : (keys.map Deed.request).filter Deed.isPlanned = keys.map .request :=
    List.filter_eq_self.2 fun a hmem => by
      obtain ⟨name, -, rfl⟩ := List.mem_map.1 hmem
      rfl
  obtain ⟨hbegin, hcomplete⟩ := h.planned
  rw [hplanned, hall] at hbegin hcomplete
  refine ⟨hcomplete, fun before p after hsplit => ?_⟩
  obtain ⟨rest, hrest⟩ := hbegin
  rw [← hsplit, List.map_append, List.map_cons, List.append_assoc, List.cons_append] at hrest
  obtain ⟨front, behind, hkeys, hfront, hbehind⟩ := List.map_eq_append_iff.1 hrest.symm
  obtain ⟨name, behind, rfl, hname, -⟩ := List.map_eq_cons_iff.1 hbehind
  exact ⟨front, name, behind, hkeys, hfront.symm, hname.symm⟩

theorem Performs.responsesInOrder
    (h : Performs answer roots names ((remoteKeys c.document).map .request) c w history result c'
      w') (h₀ : c.document.IsUnanswered) :
    ResponsesInOrder roots names c.document history result c'.document := by
  have hrequests : ∀ a ∈ (remoteKeys c.document).map Deed.request, a.stage = .remoteVars := by
    intro a hmem
    obtain ⟨name, -, rfl⟩ := List.mem_map.1 hmem
    rfl
  obtain ⟨hprogress, hend⟩ := h.invariant (S := (· = .remoteVars)) (I := Progress c.document)
    (fun a _ _ _ hc => hc.perform a) hrequests [] (progress_nil h₀)
  have hkeeps : ∀ (a : Deed) (done : List Deed) (c₁ : Context), a.stage = .remoteVars →
      c₁.document.withoutResponses = c.document → (a.perform roots names c₁).Yields fun r =>
        match r.1 with
        | .ok _ => r.2.document.withoutResponses = c.document
        | .error _ => r.2.document.withoutResponses = c.document := by
    intro a _ c₁ hstage h₁
    obtain ⟨name, rfl⟩ := exists_request_of_stage hstage
    have hkept : Work.Keeps (fun c => c.document.withoutResponses)
        ((Deed.request name).perform roots names) :=
      (resolveRemoteVar_keeps Document.withoutResponses_setResponse _ names name).bind fun _ =>
        Work.keeps_pure _
    refine (hkept c₁).mono fun r hr => ?_
    obtain ⟨result, c₂⟩ := r
    cases result <;> exact hr.trans h₁
  obtain ⟨hunchanged, hsame⟩ := h.invariant (S := (· = .remoteVars))
    (I := fun _ d => d.withoutResponses = c.document) hkeeps hrequests [] h₀
  have hstage : ∀ p ∈ history, p.deed.stage = .remoteVars := by
    intro p hmem
    obtain ⟨before, after, hsplit⟩ := List.append_of_mem hmem
    exact (hprogress before p after hsplit.symm).1
  obtain ⟨hcomplete, hfront⟩ := h.front_of_requests hstage
  refine
    { begun := fun before p after hsplit => ?_
      complete := fun hok => ⟨hcomplete hok, ?_⟩
      failed := fun e herror => ?_
      unchanged := ?_ }
  · obtain ⟨front, name, behind, hkeys, hbefore, hname⟩ := hfront before p after hsplit
    have hturn := (hprogress before p after hsplit).2
    rw [List.nil_append, hbefore] at hturn
    have hnodup : (remoteKeys c.document).Nodup := by
      rw [remoteKeys]
      cases c.document.remoteVars with
      | none => exact List.nodup_nil
      | some vars => exact vars.nodup
    have hnew : name ∉ front := by
      rw [hkeys] at hnodup
      exact fun hmem => (List.nodup_append.1 hnodup).2.2 name hmem name List.mem_cons_self rfl
    exact ⟨front, name, behind, hkeys, hbefore, hname,
      requestTurn_of_progress h₀ hturn (hunchanged before p after hsplit).2 hnew⟩
  · subst hok
    have hall : Progress c.document ((remoteKeys c.document).map .request) c'.document := by
      rw [← hcomplete rfl]
      exact hend
    exact hall.answered
  · subst herror
    obtain ⟨before, p, hhistory, hp, hlast⟩ := hend
    obtain ⟨front, name, behind, hkeys, hbefore, hname⟩ := hfront before p [] hhistory.symm
    rw [List.nil_append, hbefore] at hlast
    exact ⟨before, p, front, name, behind, hhistory, hp, hkeys, hbefore, hname, hlast.answered⟩
  · cases result with
    | ok u => exact hsame
    | error e =>
      obtain ⟨-, -, -, -, hsame⟩ := hsame
      exact hsame

/-- Behind the remote variables, all of them that are declared with a request have a response, and
none of them changes any more. -/
theorem Performs.answered_behind
    (h : Performs answer roots names (schedule (outline c.document)) c w history result c' w')
    (h₀ : c.document.IsUnanswered) {p : Performed} (hmem : p ∈ history)
    (hrank : Stage.remoteVars.rank < p.deed.stage.rank) :
    p.start.document.Answered (c.document.requestedAmong (remoteKeys c.document)) := by
  obtain ⟨hprogress, -⟩ := h.invariant (S := fun _ => True) (I := Progress c.document)
    (fun a _ _ _ hc => hc.perform a) (fun _ _ => trivial) []
    (progress_nil h₀)
  obtain ⟨before, after, hsplit⟩ := List.append_of_mem hmem
  have hp := (hprogress before p after hsplit.symm).2
  rw [List.nil_append] at hp
  refine Document.answered_of_forall fun name => ?_
  rw [hp.responses name, Document.requestedAmong, List.mem_filter]
  refine and_congr_left fun hsome => ⟨fun _ => ?_, fun hkey => ?_⟩
  · obtain ⟨spec, hspec⟩ := Option.isSome_iff_exists.1 hsome
    exact mem_remoteKeys hspec
  · have hplan : Deed.request name ∈ schedule (outline c.document) := by
      refine List.mem_flatMap.2 ⟨.remoteVars, by decide, List.mem_map_of_mem hkey⟩
    obtain ⟨q, hq, hdeed, -⟩ := h.behind (staged_schedule _) hsplit.symm (.inl hplan) hrank
    exact hdeed ▸ List.mem_map_of_mem hq

/-- Remote variables that have no response yet are resolved one after the other, each in view of
the responses to those in front of it, whatever the network answers. In a run, everything behind
them sees all responses, since nothing changes the document any more. -/
theorem responses_in_order (roots : Emission.Roots)
    (answer : (q : SystemCall) → σ → q.Answer × σ) (c : Context) (w : σ)
    (hunanswered : c.document.IsUnanswered) :
    (∀ names, ∃ history,
      Performs answer roots names ((remoteKeys c.document).map .request) c w history
        ((resolveRemoteVars roots.source names c).run answer w).1.1
        ((resolveRemoteVars roots.source names c).run answer w).1.2
        ((resolveRemoteVars roots.source names c).run answer w).2 ∧
      (resolveRemoteVars roots.source names c).asked answer w =
        history.flatMap Performed.calls ∧
      ResponsesInOrder roots names c.document history
        ((resolveRemoteVars roots.source names c).run answer w).1.1
        ((resolveRemoteVars roots.source names c).run answer w).1.2.document) ∧
    ∃ history,
      Performs answer roots (.standard c.project) (schedule (outline c.document)) c w history
        ((run roots c).run answer w).1.1 ((run roots c).run answer w).1.2
        ((run roots c).run answer w).2 ∧
      (run roots c).asked answer w = history.flatMap Performed.calls ∧
      ∀ p ∈ history, p.deed.stage ∈ [.pre, .templates, .post] →
        p.start.document.Answered (c.document.requestedAmong (remoteKeys c.document)) ∧
          (p.deed.perform roots (.standard c.project)).SeesOnly p.start.document p.start ∧
          Work.Keeps Context.document (p.deed.perform roots (.standard c.project)) := by
  constructor
  · intro names
    have henacts : Enacts answer roots names (resolveRemoteVars roots.source names)
        ((remoteKeys c.document).map .request) c := enacts_resolveRemoteVars rfl
    obtain ⟨history, hperforms, hcalls⟩ := henacts w
    exact ⟨history, hperforms, hcalls, hperforms.responsesInOrder hunanswered⟩
  · have henacts : Enacts answer roots (.standard c.project) (run roots)
        (schedule (outline c.document)) c := enacts_run roots c
    obtain ⟨history, hperforms, hcalls⟩ := henacts w
    refine ⟨history, hperforms, hcalls, fun p hmem hstage => ?_⟩
    have hranks : ∀ stage ∈ [Stage.pre, .templates, .post],
        Stage.remoteVars.rank < stage.rank := by
      decide
    have hrank := hranks p.deed.stage hstage
    have hevaluates :
        Work.Evaluates Context.afresh (p.deed.perform roots (.standard c.project)) :=
      perform_evaluates hrank
    exact ⟨hperforms.answered_behind hunanswered hmem hrank, hevaluates.sees p.start,
      hevaluates.keeps_document⟩

end Responding

/-- A variable without a request, one with a request, and one whose request uses the response to
that. -/
def listAndItem : Context where
  document := {
    remoteVars := some ⟨[("note", none),
      ("list", some { type := "http", url := "a.b", responseParser := "text" }),
      ("item", some {
        type := "http", url := "a.b/\x7b\x7b remoteVarResponse('list').status \x7d\x7d" })],
      by decide⟩ }
  project := {}

/-- Surroundings in which every request succeeds. -/
def replying : Surroundings where
  network _ _ := .ok { status := 200, body := [120] }
  executor _ tree := ({}, tree)

/-- Two of three variables get a response. -/
theorem responses_in_order_listAndItem :
    ((resolveRemoteVars "." (.standard {}) listAndItem).run (Machine.answer replying)
        ⟨{}, []⟩).1.1 = .ok () ∧
      ((resolveRemoteVars "." (.standard {}) listAndItem).run (Machine.answer replying)
        ⟨{}, []⟩).1.2.document.Answered ["list", "item"] := by
  obtain ⟨hphase, -⟩ :=
    responses_in_order ⟨"out", "."⟩ (Machine.answer replying) listAndItem ⟨{}, []⟩ rfl
  obtain ⟨history, -, -, horder⟩ := hphase (.standard {})
  have hok : ((resolveRemoteVars "." (.standard {}) listAndItem).run (Machine.answer replying)
      ⟨{}, []⟩).1.1 = .ok () := by
    decide +kernel
  have hnames : listAndItem.document.requestedAmong (remoteKeys listAndItem.document) =
      ["list", "item"] := by
    decide
  exact ⟨hok, hnames ▸ (horder.complete hok).2⟩

end Generation

end Scaffold

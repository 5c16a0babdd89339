import Scaffold.Proofs.Evaluation.Rows
import Scaffold.Proofs.OrderedMap
import Scaffold.Remote.Resolution

/-!
# Acceptance — which replies become responses, and which ones

A reply is judged, its body is parsed, and an expression behind the parser has the last word. What
comes of the reply is said by the evaluations of the two expressions (`judging`, `refining`) and by
the run of the pipeline, and by nothing else (`accept_acceptance`): a reply that the judge does not
let pass comes to no stage, and each of the two expressions sees the response as far as it is made
when it is evaluated. `execute_acceptance` says the same of a request that is sent, for every way to
answer the calls of the work.
-/

set_option autoImplicit false

namespace Scaffold

namespace Resolution

open Scaffold.Expr (Value LibraryCall)

/-! ## Headers -/

/-- The values of the headers of a name, in order. -/
def headerValues (headers : List (String × Bytes)) (name : String) : List String :=
  (headers.filter (·.1 == name)).map fun header => Utf8.toStringLossy header.2

theorem replyHeaders_concat (headers : List (String × Bytes)) (name : String) (value : Bytes) :
    replyHeaders (headers ++ [(name, value)]) =
      (replyHeaders headers).set name
        (match (replyHeaders headers).get? name with
          | some before => before ++ ", " ++ Utf8.toStringLossy value
          | none => Utf8.toStringLossy value) := by
  rw [replyHeaders, List.foldl_append]
  rfl

/-- The names of headers stand in the order in which they came first. -/
theorem keys_replyHeaders (headers : List (String × Bytes)) :
    (replyHeaders headers).keys = (headers.map Prod.fst).eraseDups := by
  induction headers using List.reverseRecOn with
  | nil => rfl
  | append_singleton headers header ih =>
    obtain ⟨name, value⟩ := header
    rw [replyHeaders_concat, OrderedMap.keys_set, ih, List.map_append]
    exact (OrderedMap.eraseDups_concat _ name).symm

/-- The header of a name has all values that came under it, with commas between them. -/
theorem get?_replyHeaders (headers : List (String × Bytes)) (name : String) :
    (replyHeaders headers).get? name =
      if headerValues headers name = [] then none
      else some (", ".intercalate (headerValues headers name)) := by
  induction headers using List.reverseRecOn with
  | nil => rfl
  | append_singleton headers header ih =>
    obtain ⟨key, value⟩ := header
    rw [replyHeaders_concat, OrderedMap.get?_set]
    by_cases hname : name = key
    · subst hname
      have hvalues : headerValues (headers ++ [(name, value)]) name =
          headerValues headers name ++ [Utf8.toStringLossy value] := by
        simp [headerValues]
      have hsome : headerValues headers name ++ [Utf8.toStringLossy value] ≠ [] := by simp
      rw [if_pos rfl, hvalues, if_neg hsome]
      by_cases hnone : headerValues headers name = []
      · rw [if_pos hnone] at ih
        rw [ih, hnone, List.nil_append, String.intercalate_singleton]
      · rw [if_neg hnone] at ih
        rw [ih, String.intercalate_append_of_ne_nil hnone (List.cons_ne_nil _ _),
          String.intercalate_singleton]
    · have hvalues : headerValues (headers ++ [(key, value)]) name = headerValues headers name := by
        simp [headerValues, Ne.symm hname]
      rw [if_neg hname, ih, hvalues]

/-! ## What is evaluated -/

variable (name : String) (spec : RemoteSpec) (reply : Http.Reply) (names : Bindings) (c : Context)

/-- The evaluation of the judge, which sees the response with the raw body. -/
def judging : Visit :=
  ⟨{ text := spec.responseJudge }, names, c.setData (received reply).toValue⟩

/-- The judge lets a reply pass: it has a blank text, whatever the status is. Without a judge the
status is 200. -/
def Passes : Prop :=
  if Text.isBlankText spec.responseJudge then reply.status = 200
  else ∃ verdict, (judging spec reply names c).text = .ok verdict ∧ Text.isBlankText verdict

/-- The context behind the judge. -/
def judged : Context :=
  if Text.isBlankText spec.responseJudge then c else (judging spec reply names c).after

/-- The evaluation behind the parser, which sees the response with the parsed data. -/
def refining (data : Value) : Visit :=
  ⟨{ text := spec.postResponseParser }, names,
    (judged spec reply names c).setData ({ received reply with data } : Response).toValue⟩

/-- What is stored for parsed data: what the expression behind the parser returns, or else its text.
Without such an expression it is the data. -/
def Stores (data stored : Value) : Prop :=
  if Text.isBlankText spec.postResponseParser then stored = data
  else ∃ e, (refining spec reply names c data).result = .ok e ∧
    stored = e.returned.getD (.text e.text)

/-- The error of a reply that does not pass. -/
inductive Refuses : Error → Prop
  | status (hblank : Text.isBlankText spec.responseJudge = true) (h : reply.status ≠ 200) :
    Refuses (.remoteVar name (.status reply.status (Http.reason reply.status)))
  | failed (hjudge : Text.isBlankText spec.responseJudge = false) {e : Error}
      (h : (judging spec reply names c).result = .error e) (hcause : e ≠ .aborted) :
    Refuses (.remoteVar name (.judgeFailed e.message))
  /-- A judge that stops without a cause stops the whole run. -/
  | aborted (hjudge : Text.isBlankText spec.responseJudge = false)
      (h : (judging spec reply names c).Aborted) : Refuses .aborted
  | rejected (hjudge : Text.isBlankText spec.responseJudge = false) {verdict : String}
      (h : (judging spec reply names c).text = .ok verdict)
      (hverdict : Text.isBlankText verdict = false) :
    Refuses (.remoteVar name (.rejected (Text.trim verdict)))

/-! ## The judge -/

variable {name spec reply names c}

theorem judge_of_blank (h : Text.isBlankText spec.responseJudge = true) :
    judge name spec (received reply) names c =
      (if reply.status = 200 then .ok ()
        else .error (.remoteVar name (.status reply.status (Http.reason reply.status))), c) := by
  rw [judge, if_pos h]
  change (if reply.status = 200 then (return ()) else Step.fail _ : Step Unit) c = _
  split <;> rfl

theorem trimmed_judge :
    Prepared.trimmed spec.responseJudge names (c.setData (received reply).toValue) =
      ((judging spec reply names c).text.map Text.trim, (judging spec reply names c).after) := by
  refine (Step.bind_pure_apply (evaluateText spec.responseJudge names) Text.trim _).trans ?_
  rw [evaluateText_eq]
  rfl

/-- A judge is evaluated with the response as its data. -/
theorem judge_of_judge (h : Text.isBlankText spec.responseJudge = false) :
    judge name spec (received reply) names c =
      ((Step.mapError (judgeError name) (Prepared.trimmed spec.responseJudge names) >>=
        fun verdict =>
          if verdict.isEmpty then return ()
          else Step.fail (.remoteVar name (.rejected verdict))) : Step Unit)
        (c.setData (received reply).toValue) := by
  rw [judge, if_neg (Bool.eq_false_iff.1 h)]
  exact Step.bind_of_ok rfl

theorem judge_of_failure (h : Text.isBlankText spec.responseJudge = false) {e : Error}
    (hfailure : (judging spec reply names c).result = .error e) :
    judge name spec (received reply) names c =
      (.error (judgeError name e), (judging spec reply names c).after) := by
  rw [judge_of_judge h]
  refine Step.bind_of_error ?_
  rw [Step.mapError, trimmed_judge, Visit.text, hfailure]
  rfl

theorem judge_of_verdict (h : Text.isBlankText spec.responseJudge = false) {verdict : String}
    (hverdict : (judging spec reply names c).text = .ok verdict) :
    judge name spec (received reply) names c =
      (if Text.isBlankText verdict then .ok ()
        else .error (.remoteVar name (.rejected (Text.trim verdict))),
        (judging spec reply names c).after) := by
  have hfirst : Step.mapError (judgeError name) (Prepared.trimmed spec.responseJudge names)
      (c.setData (received reply).toValue) =
        (.ok (Text.trim verdict), (judging spec reply names c).after) := by
    rw [Step.mapError, trimmed_judge, hverdict]
    rfl
  rw [judge_of_judge h, Step.bind_of_ok hfirst, Text.isEmpty_trim]
  split <;> rfl

/-- The judge lets a reply pass, or else ends with an error that says why it does not. -/
theorem judge_cases (name : String) (spec : RemoteSpec) (reply : Http.Reply) (names : Bindings)
    (c : Context) :
    (Passes spec reply names c ∧
      judge name spec (received reply) names c = (.ok (), judged spec reply names c)) ∨
    (¬Passes spec reply names c ∧ ∃ e, Refuses name spec reply names c e ∧
      judge name spec (received reply) names c = (.error e, judged spec reply names c)) := by
  unfold Passes judged
  cases hjudge : Text.isBlankText spec.responseJudge with
  | true =>
    rw [judge_of_blank hjudge, if_pos rfl, if_pos rfl]
    by_cases hstatus : reply.status = 200
    · exact .inl ⟨hstatus, by rw [if_pos hstatus]⟩
    · exact .inr ⟨hstatus, _, .status hjudge hstatus, by rw [if_neg hstatus]⟩
  | false =>
    rw [if_neg Bool.false_ne_true, if_neg Bool.false_ne_true]
    cases hresult : (judging spec reply names c).result with
    | error e =>
      have htext : (judging spec reply names c).text = .error e := by rw [Visit.text, hresult]; rfl
      refine .inr ⟨?_, judgeError name e, ?_, judge_of_failure hjudge hresult⟩
      · rintro ⟨verdict, hverdict, -⟩
        rw [htext] at hverdict
        cases hverdict
      · by_cases hcause : e = .aborted
        · subst hcause
          exact .aborted hjudge hresult
        · have hworded : judgeError name e = .remoteVar name (.judgeFailed e.message) := by
            cases e <;> first | rfl | exact absurd rfl hcause
          rw [hworded]
          exact .failed hjudge hresult hcause
    | ok evaluated =>
      have htext : (judging spec reply names c).text = .ok evaluated.text := by
        rw [Visit.text, hresult]
        rfl
      have hjudged : judge name spec (received reply) names c = _ :=
        judge_of_verdict hjudge htext
      cases hblank : Text.isBlankText evaluated.text with
      | true =>
        rw [hblank, if_pos rfl] at hjudged
        exact .inl ⟨⟨_, htext, hblank⟩, hjudged⟩
      | false =>
        rw [hblank, if_neg Bool.false_ne_true] at hjudged
        refine .inr ⟨?_, _, .rejected hjudge htext hblank, hjudged⟩
        rintro ⟨verdict, hverdict, hpasses⟩
        obtain rfl : evaluated.text = verdict := Except.ok.inj (htext.symm.trans hverdict)
        rw [hblank] at hpasses
        cases hpasses

/-! ## What is stored -/

theorem refine_of_blank (h : Text.isBlankText spec.postResponseParser = true) (r : Response) :
    refine spec r names c = (.ok r, c) := by
  rw [refine, if_pos h]
  rfl

/-- The expression behind the parser is evaluated with the parsed response as its data. -/
theorem refine_of_post (h : Text.isBlankText spec.postResponseParser = false) (data : Value) :
    refine spec { received reply with data } names (judged spec reply names c) =
      ((refining spec reply names c data).result.map fun e =>
        { received reply with data := e.returned.getD (.text e.text) },
        (refining spec reply names c data).after) := by
  rw [refine, if_neg (Bool.eq_false_iff.1 h)]
  refine (Step.bind_of_ok rfl).trans ?_
  exact Step.bind_pure_apply (evaluate spec.postResponseParser names) _ _

theorem stores_iff_of_blank (h : Text.isBlankText spec.postResponseParser = true)
    {data stored : Value} : Stores spec reply names c data stored ↔ stored = data := by
  rw [Stores, if_pos h]

theorem stores_iff_of_post (h : Text.isBlankText spec.postResponseParser = false)
    {data stored : Value} :
    Stores spec reply names c data stored ↔
      ∃ e, (refining spec reply names c data).result = .ok e ∧
        stored = e.returned.getD (.text e.text) := by
  rw [Stores, if_neg (Bool.eq_false_iff.1 h)]

/-- A parsed response is stored exactly with the data that the expression behind the parser makes of
it. -/
theorem refine_ok_iff {data : Value} {r : Response} :
    (refine spec { received reply with data } names (judged spec reply names c)).1 = .ok r ↔
      ∃ stored, Stores spec reply names c data stored ∧
        r = ⟨reply.status, Http.reason reply.status, replyHeaders reply.headers, stored⟩ := by
  cases hpost : Text.isBlankText spec.postResponseParser with
  | true =>
    simp only [stores_iff_of_blank hpost, refine_of_blank hpost]
    constructor
    · exact fun h => ⟨data, rfl, (Except.ok.inj h).symm⟩
    · rintro ⟨stored, rfl, rfl⟩
      rfl
  | false =>
    simp only [stores_iff_of_post hpost, refine_of_post hpost]
    cases hresult : (refining spec reply names c data).result with
    | error e => exact ⟨nofun, fun ⟨_, ⟨_, he, _⟩, _⟩ => nomatch he⟩
    | ok e =>
      constructor
      · exact fun h => ⟨_, ⟨e, rfl, rfl⟩, (Except.ok.inj h).symm⟩
      · rintro ⟨stored, ⟨e', he, rfl⟩, rfl⟩
        cases he
        rfl

/-! ## Replies -/

theorem accept_eq :
    accept name spec reply names = judge name spec (received reply) names >>= fun _ =>
      parse name spec (received reply) reply.body >>= fun r => refine spec r names := rfl

/-- A reply that does not pass comes to no stage. -/
theorem accept_of_refused {e : Error} {c' : Context}
    (h : judge name spec (received reply) names c = (.error e, c')) :
    accept name spec reply names c = (.error e, c') := by
  rw [accept_eq]
  exact Step.bind_of_error h

theorem accept_of_unparsed {c' : Context}
    (h : judge name spec (received reply) names c = (.ok (), c')) {fault : Pipeline.Fault}
    (hrun : Pipeline.run spec.responseParser reply.body = .error fault) :
    accept name spec reply names c = (.error (.remoteVar name (.stage fault.message)), c') := by
  rw [accept_eq, Step.bind_of_ok h]
  refine Step.bind_of_error ?_
  rw [parse, hrun]
  rfl

theorem accept_of_parsed {c' : Context}
    (h : judge name spec (received reply) names c = (.ok (), c')) {data : Value}
    (hrun : Pipeline.run spec.responseParser reply.body = .ok data) :
    accept name spec reply names c = refine spec { received reply with data } names c' := by
  rw [accept_eq, Step.bind_of_ok h]
  refine Step.bind_of_ok ?_
  rw [parse, hrun]
  rfl

/-- All questions of an evaluation are asked while the data of the current item is this value. -/
def Beholds (v : Visit) (data : Value) : Prop :=
  ∀ template, v.expression.template? = some template →
    (Expr.render template v.names.entries).Meets Context.answer (·.data = data) v.before

theorem beholds_of_data {v : Visit} {data : Value} (h : v.before.data = data) : Beholds v data := by
  intro template _
  refine Dialogue.meets_of_invariant (fun q c' hdata => ?_) _ h
  exact (congrArg Context.data (answer_lasting q c') :).trans hdata

/-- What comes of a reply. -/
structure Acceptance (name : String) (spec : RemoteSpec) (reply : Http.Reply) (names : Bindings)
    (c : Context) (result : Except Error Response) : Prop where
  /-- There is a response exactly if the judge lets the reply pass, all stages of the parser succeed
  on the body, and the expression behind them does on what they give. -/
  ok_iff : ∀ r, result = .ok r ↔ Passes spec reply names c ∧
    ∃ data stored, Pipeline.run spec.responseParser reply.body = .ok data ∧
      Stores spec reply names c data stored ∧
      r = ⟨reply.status, Http.reason reply.status, replyHeaders reply.headers, stored⟩
  /-- What does not pass is refused, whatever stages there are. -/
  refused : ¬Passes spec reply names c →
    (∃ e, Refuses name spec reply names c e ∧ result = .error e) ∧
      ∀ parser post, (accept name { spec with responseParser := parser, postResponseParser := post }
        reply names c).1 = result
  unparsed : Passes spec reply names c → ∀ fault,
    Pipeline.run spec.responseParser reply.body = .error fault →
      result = .error (.remoteVar name (.stage fault.message))
  unrefined : Passes spec reply names c → ∀ data e,
    Pipeline.run spec.responseParser reply.body = .ok data →
      Text.isBlankText spec.postResponseParser = false →
        (refining spec reply names c data).result = .error e → result = .error e
  judge_beholds : Beholds (judging spec reply names c)
    (⟨reply.status, Http.reason reply.status, replyHeaders reply.headers, .bytes reply.body⟩ :
      Response).toValue
  refining_beholds : ∀ data, Beholds (refining spec reply names c data)
    (⟨reply.status, Http.reason reply.status, replyHeaders reply.headers, data⟩ :
      Response).toValue
  /-- What counts as returned is what the expression behind the parser has returned last. -/
  returned : c.drain = c → Passes spec reply names c → ∀ data calls e,
    (refining spec reply names c data).expression.Accounts names
      (refining spec reply names c data).before calls →
        (refining spec reply names c data).result = .ok e →
          e.returned = (calls.filterMap LibraryCall.value?).getLast?
  header_names : (replyHeaders reply.headers).keys = (reply.headers.map Prod.fst).eraseDups
  header_values : ∀ name, (replyHeaders reply.headers).get? name =
    if headerValues reply.headers name = [] then none
    else some (", ".intercalate (headerValues reply.headers name))

theorem drain_setData (hempty : c.drain = c) (data : Value) :
    (c.setData data).drain = c.setData data :=
  congrArg (·.setData data) hempty

/-- A judge that lets a reply pass leaves empty slots, also if it has returned a value. -/
theorem drain_judged (hempty : c.drain = c) (hpasses : Passes spec reply names c) :
    (judged spec reply names c).drain = judged spec reply names c := by
  unfold judged
  split
  · exact hempty
  next hjudge =>
    rw [Passes, if_neg hjudge] at hpasses
    obtain ⟨verdict, hverdict, -⟩ := hpasses
    refine (Visit.separate (drain_setData hempty _)).ends_empty fun haborted => ?_
    rw [Visit.text, haborted] at hverdict
    cases hverdict

theorem accept_acceptance (name : String) (spec : RemoteSpec) (reply : Http.Reply)
    (names : Bindings) (c : Context) :
    Acceptance name spec reply names c (accept name spec reply names c).1 where
  ok_iff r := by
    rcases judge_cases name spec reply names c with ⟨hpasses, hjudge⟩ | ⟨hrefused, e, -, hjudge⟩
    · cases hrun : Pipeline.run spec.responseParser reply.body with
      | error fault =>
        rw [accept_of_unparsed hjudge hrun]
        exact ⟨nofun, fun ⟨_, _, _, hdata, _⟩ => nomatch hdata⟩
      | ok data =>
        rw [accept_of_parsed hjudge hrun, refine_ok_iff]
        constructor
        · exact fun ⟨stored, hstored, hr⟩ => ⟨hpasses, data, stored, rfl, hstored, hr⟩
        · rintro ⟨-, data', stored, hdata, hstored, hr⟩
          cases hdata
          exact ⟨stored, hstored, hr⟩
    · rw [accept_of_refused hjudge]
      exact ⟨nofun, fun h => absurd h.1 hrefused⟩
  refused hrefused := by
    rcases judge_cases name spec reply names c with ⟨hpasses, -⟩ | ⟨-, e, he, hjudge⟩
    · exact absurd hpasses hrefused
    · refine ⟨⟨e, he, by rw [accept_of_refused hjudge]⟩, fun parser post => ?_⟩
      have hsame : accept name { spec with
          responseParser := parser, postResponseParser := post } reply names c = _ :=
        accept_of_refused hjudge
      rw [hsame, accept_of_refused hjudge]
  unparsed hpasses fault hrun := by
    rcases judge_cases name spec reply names c with ⟨-, hjudge⟩ | ⟨hrefused, -⟩
    · rw [accept_of_unparsed hjudge hrun]
    · exact absurd hpasses hrefused
  unrefined hpasses data e hrun hpost hresult := by
    rcases judge_cases name spec reply names c with ⟨-, hjudge⟩ | ⟨hrefused, -⟩
    · rw [accept_of_parsed hjudge hrun, refine_of_post hpost, hresult]
      rfl
    · exact absurd hpasses hrefused
  judge_beholds := beholds_of_data rfl
  refining_beholds data := beholds_of_data rfl
  returned hempty hpasses data calls e haccounts hresult := by
    have hslots := drain_setData (drain_judged hempty hpasses)
      (Response.toValue { received reply with data })
    exact (Visit.separate hslots).returned calls e haccounts hresult
  header_names := keys_replyHeaders reply.headers
  header_values := get?_replyHeaders reply.headers

/-! ## Requests -/

/-- Sends a prepared request, up to the reply. -/
def exchange (name : String) (p : Prepared) : Work Http.Reply := do
  if !isToken p.method then fail name (.invalidMethod p.method)
  else
    let body ← readBody name p.body
    match request p body with
    | .error reason => fail name (.network reason)
    | .ok request => send name request

/-- A request is sent, and the reply to it is taken. -/
theorem execute_eq (name : String) (spec : RemoteSpec) (p : Prepared) (names : Bindings) :
    execute name spec p names = exchange name p >>= fun reply =>
      Work.ofStep (accept name spec reply names) := by
  unfold execute exchange
  split
  · rfl
  · rw [Work.bind_assoc]
    refine congrArg (readBody name p.body >>= ·) (funext fun body => ?_)
    cases request p body <;> rfl

/-- Work for a remote variable that evaluates nothing: it leaves the context alone, and its error is
one of the variable. -/
def Plain {α : Type} (name : String) (x : Work α) : Prop :=
  ∀ c, (x c).Yields fun r => r.2 = c ∧ ErrorIn (fun e => ∃ fault, e = .remoteVar name fault) r.1

theorem Plain.bind {α β : Type} {x : Work α} {f : α → Work β} (hx : Plain name x)
    (hf : ∀ a, Plain name (f a)) : Plain name (x >>= f) := by
  intro c
  refine Dialogue.Yields.bind (hx c) fun r hr => ?_
  obtain ⟨result, c'⟩ := r
  obtain ⟨rfl, herror⟩ := hr
  cases result with
  | ok a => exact hf a _
  | error e => exact ⟨rfl, herror⟩

theorem plain_pure {α : Type} (a : α) : Plain name (pure a : Work α) := fun _ => ⟨rfl, trivial⟩

theorem plain_fail {α : Type} (fault : RemoteFault) : Plain name (fail name fault : Work α) :=
  fun _ => ⟨rfl, fault, rfl⟩

theorem plain_readFiles (files : Pairs) : Plain name (readFiles name files) := by
  induction files with
  | nil => exact plain_pure _
  | cons file files ih =>
    refine Plain.bind (fun c content => ?_) fun _ => ih.bind fun _ => plain_pure _
    cases content with
    | ok content => exact ⟨rfl, trivial⟩
    | error fault => exact ⟨rfl, _, rfl⟩

theorem plain_readBody (body : PreparedBody) : Plain name (readBody name body) := by
  cases body with
  | none | raw | form => exact plain_pure _
  | multipart files fields => exact (plain_readFiles files).bind fun _ => plain_pure _

theorem plain_send (request : Http.Request) : Plain name (send name request) := by
  intro c reply
  cases reply with
  | ok reply => exact ⟨rfl, trivial⟩
  | error reason => exact ⟨rfl, _, rfl⟩

theorem plain_exchange (name : String) (p : Prepared) : Plain name (exchange name p) := by
  unfold exchange
  split
  · exact plain_fail _
  · refine (plain_readBody p.body).bind fun body => ?_
    split
    · exact plain_fail _
    · exact plain_send _

section Running

variable {σ : Type} {answer : (q : SystemCall) → σ → q.Answer × σ} {s s' : σ}

/-- A reply that is sent for is the one that the network gives. -/
theorem send_received {request : Http.Request} {c' : Context} {reply : Http.Reply}
    (h : (send name request c).run answer s = ((.ok reply, c'), s')) :
    answer (.exchange request) s = (.ok reply, s') := by
  have hsent (f : Except String Http.Reply → System (Except Error Http.Reply)) :
      (System.exchange request >>= f).run answer s =
        (f (answer (.exchange request) s).1).run answer (answer (.exchange request) s).2 := rfl
  rw [send, Work.run_ofSystem, hsent] at h
  cases hanswer : answer (.exchange request) s with
  | mk result s₁ =>
    rw [hanswer] at h
    cases result with
    | error reason => cases h
    | ok reply' =>
      cases h
      rfl

/-- The reply to a prepared request is one that the network gives to a request. -/
theorem exchange_received {p : Prepared} {c' : Context} {reply : Http.Reply}
    (h : (exchange name p c).run answer s = ((.ok reply, c'), s')) :
    ∃ request s₀, answer (.exchange request) s₀ = (.ok reply, s') := by
  unfold exchange at h
  split at h
  · cases h
  · cases hbody : (readBody name p.body c).run answer s with
    | mk r s₀ =>
      obtain ⟨result, c₀⟩ := r
      cases result with
      | error e =>
        rw [Work.run_bind_of_error hbody] at h
        cases h
      | ok body =>
        rw [Work.run_bind_of_ok hbody] at h
        cases hrequest : request p body with
        | error reason =>
          rw [hrequest] at h
          cases h
        | ok built =>
          rw [hrequest] at h
          exact ⟨built, s₀, send_received h⟩

/-- However the calls are answered: a prepared request fails as a fault of its variable before there
is a reply, or else what comes of it is what comes of the reply that the network gives. -/
theorem execute_acceptance (answer : (q : SystemCall) → σ → q.Answer × σ) (name : String)
    (spec : RemoteSpec) (p : Prepared) (names : Bindings) (c : Context) (s : σ) :
    match (exchange name p c).run answer s with
    | ((.ok reply, c'), s') =>
      c' = c ∧ (∃ request s₀, answer (.exchange request) s₀ = (.ok reply, s')) ∧
        ∃ result c'', (execute name spec p names c).run answer s = ((result, c''), s') ∧
          Acceptance name spec reply names c result
    | ((.error e, c'), s') =>
      (execute name spec p names c).run answer s = ((.error e, c'), s') ∧
        ∃ fault, e = .remoteVar name fault := by
  cases hexchange : (exchange name p c).run answer s with
  | mk r s' =>
    obtain ⟨result, c'⟩ := r
    obtain ⟨hsame, herror⟩ := (plain_exchange name p c).of_run_eq hexchange
    obtain rfl : c' = c := hsame
    cases result with
    | error e =>
      refine ⟨?_, herror⟩
      rw [execute_eq, Work.run_bind_of_error hexchange]
    | ok reply =>
      have hrun : (execute name spec p names c').run answer s =
          (accept name spec reply names c', s') := by
        rw [execute_eq, Work.run_bind_of_ok hexchange]
        rfl
      exact ⟨rfl, exchange_received hexchange, _, _, hrun,
        accept_acceptance name spec reply names c'⟩

end Running

end Resolution

end Scaffold

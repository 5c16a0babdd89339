import Scaffold.Proofs.Failure
import Scaffold.Proofs.Generation.Order
import Scaffold.Proofs.Sight

/-!
# Items — every expression of a run is evaluated for the entry that it belongs to

A deed is about one entry (`Deed.item?`), and attends to it: most deeds enter their entry before they
evaluate anything (`perform_attends`). A combination of a template does not; it relies on what the
survey of the template has entered and on the combinations in front of it to leave that alone
(`item_of_entailed`), which is the invariant that a performance keeps (`Performs.attends`). So an
error that a run ends in names the entry of the deed that has failed (`run_attends`).
-/

set_option autoImplicit false

namespace Scaffold

namespace Generation

/-- The entry that a deed is about, as phase and name: the key of a field, the name of a remote
variable, the path of a template, and for a command the phase. -/
def Deed.item? : Deed → Option (Phase × String)
  | .resolve s key => some (s.phase, key)
  | .request name => some (.remoteVars, name)
  | .makeOutput => none
  | .command hooks _ => some (hooks.phase, hooks.phase.text)
  | .survey template _ | .emit template _ _ => some (.templates, template)

section Deeds

variable {roots : Emission.Roots} {names : Bindings}

/-! ## Deeds attend to their entries -/

theorem resolveField_attends (s : Section) (key : String) (c : Context) :
    (resolveField s names key).AttendsTo (some (s.phase, key)) c := by
  refine Work.AttendsTo.get_bind ?_
  split
  next => exact Work.attendsTo_pure _ _
  next declared _ =>
    refine Work.AttendsTo.modify_bind (.bind (.ofStep ?_) fun resolved c₁ _ => ?_)
    · exact (evaluateField_evaluates names declared).attends (c.enter s.phase key _)
    · exact .bind (Work.attendsTo_report _ _ _) fun _ c₂ _ => Work.attendsTo_modify _ _

theorem resolveRemoteVar_attends (sourceRoot name : String) (c : Context) :
    (resolveRemoteVar sourceRoot names name).AttendsTo (some (.remoteVars, name)) c := by
  refine Work.AttendsTo.get_bind ?_
  split
  next => exact Work.attendsTo_report _ _ _
  next spec _ =>
    refine Work.AttendsTo.modify_bind (.bind ?_ fun response c₁ _ => ?_)
    · exact (Resolution.resolve_evaluates (fun _ _ => rfl) sourceRoot name spec names).attends
        (c.enter .remoteVars name _)
    · exact .bind (Work.attendsTo_report _ _ _) fun _ c₂ _ => Work.attendsTo_modify _ _

theorem runCommand_attends (phase : Phase) (output : String) (envs : List (String × String))
    (text : String) (c : Context) :
    (runCommand phase output envs names text).AttendsTo (some (phase, phase.text)) c := by
  refine Work.AttendsTo.modify_bind (.bind (.ofStep ?_) fun command c₁ _ => ?_)
  · exact (Prepared.trimmed_evaluates text names).attends (c.enter phase phase.text _)
  · split
    · exact Work.attendsTo_pure _ _
    · exact Work.AttendsTo.get_bind (.ofSystem (perform_yields (fun _ => trivial) _) _)

/-- The combinations of a template whose entry was entered. -/
def combinations (names : Bindings) (template range : String) : Work (List Bindings) :=
  if range.isEmpty then return [names]
  else do
    let sources ← Work.ofStep (Emission.rangeSources template range names)
    match Range.emptyLevel? sources 0 with
    | some n => Work.fail (.range (.empty n))
    | none => return Range.rows sources 0 names

/-- What is not ignored is entered, and then its combinations are found out. -/
theorem survey_of_not_ignored {template : String} {spec : FileSpec} (h : spec.ignore = false) :
    survey names template spec = (do
      Work.modify fun c => (c.enter .templates template spec.toValue).reset
      combinations names template (Text.trim spec.range)) := by
  rw [survey, h, if_neg Bool.false_ne_true]
  rfl

theorem combinations_evaluates (template range : String) :
    Work.Evaluates Context.item (combinations names template range) := by
  rw [combinations]
  split
  · exact Work.evaluates_pure _
  · refine .bind (.ofStep (rangeSources_evaluates (fun _ => rfl) template range names))
      fun sources => ?_
    split
    · exact Work.evaluates_fail trivial
    · exact Work.evaluates_pure _

theorem survey_attends (template : String) (spec : FileSpec) (c : Context) :
    (survey names template spec).AttendsTo (some (.templates, template)) c := by
  cases h : spec.ignore with
  | true =>
    rw [survey, h, if_pos rfl]
    exact .bind (.ofSystem (Emission.done_yields _ _) _) fun _ _ _ => Work.attendsTo_pure _ _
  | false =>
    rw [survey_of_not_ignored h]
    exact Work.AttendsTo.modify_bind ((combinations_evaluates template _).attends
      (c.enter .templates template spec.toValue).reset)

/-- A survey that finds combinations leaves the entry of its template behind. -/
theorem survey_item (template : String) (spec : FileSpec) (c : Context) :
    (survey names template spec c).Yields fun r =>
      ∀ rows, r.1 = .ok rows → rows = [] ∨ r.2.item = (.templates, template) := by
  cases h : spec.ignore with
  | true =>
    rw [survey, h, if_pos rfl]
    refine (Work.yields_map (Work.ofSystem (Emission.done template "ignore"))
      (fun _ => ([] : List Bindings)) c).mono fun r hr rows hrows => ?_
    obtain ⟨-, hnone⟩ := hr rows hrows
    exact .inl hnone.symm
  | false =>
    rw [survey_of_not_ignored h]
    generalize Text.trim spec.range = range
    have hentered : (Work.modify (fun c => (c.enter .templates template spec.toValue).reset)
        c).Yields fun r => r.2.item = (.templates, template) := rfl
    refine Work.yields_bind (R := fun c' => c'.item = (.templates, template)) hentered
      (fun _ c₁ h₁ => ?_) fun _ _ _ _ hrows => by cases hrows
    have hkeeps : Work.Keeps Context.item (combinations names template range) :=
      (combinations_evaluates template range).keeps fun _ => rfl
    exact (hkeeps c₁).mono fun r hr _ _ => .inr (hr.trans h₁)

/-- A deed attends to its entry. One that was not planned has to find it entered. -/
theorem perform_attends (d : Deed) (c : Context)
    (h : d.isPlanned = false → d.item? = some c.item) :
    (d.perform roots names).AttendsTo d.item? c := by
  have hpure {item : Option (Phase × String)} (c' : Context) :
      (pure [] : Work (List Deed)).AttendsTo item c' := Work.attendsTo_pure _ c'
  cases d with
  | resolve s key => exact .bind (resolveField_attends s key c) fun _ c' _ => hpure c'
  | request name =>
    exact .bind (resolveRemoteVar_attends roots.source name c) fun _ c' _ => hpure c'
  | makeOutput =>
    refine .bind (.ofSystem (Dialogue.yields_bind fun made => ?_) c) fun _ c' _ => hpure c'
    cases made <;> trivial
  | command hooks text =>
    refine Work.AttendsTo.get_bind (.bind ?_ fun _ c' _ => hpure c')
    exact runCommand_attends hooks.phase roots.output (commandEnvs c.document) text c
  | survey template spec =>
    exact .bind (survey_attends template spec c) fun rows c' _ => Work.attendsTo_pure _ c'
  | emit template spec row =>
    rw [h rfl]
    refine .bind (Work.Evaluates.attends ?_ c) fun _ c' _ => hpure c'
    exact (Emission.emit_evaluates roots template spec row).mono fun _ _ =>
      congrArg Context.item

/-! ## Combinations find their entry entered -/

/-- The entry of the deeds that a deed entails is the current one behind it. -/
theorem perform_item (d : Deed) (c : Context) :
    (d.perform roots names c).Yields fun r =>
      ∀ more, r.1 = .ok more → ∀ d' ∈ more, d'.item? = some r.2.item := by
  have hnone {α : Type} (x : Work α) : ((x >>= fun _ => pure []) c : System _).Yields fun r =>
      ∀ more, r.1 = .ok more → ∀ d' ∈ more, Deed.item? d' = some r.2.item := by
    refine Work.yields_bind (R := fun _ => True) (Dialogue.yields_of_forall (fun _ => trivial) _)
      (fun _ _ _ more hmore => ?_) fun _ _ _ _ hmore => by cases hmore
    cases hmore
    exact nofun
  cases d with
  | resolve s key => exact hnone (resolveField s names key)
  | request name => exact hnone (resolveRemoteVar roots.source names name)
  | makeOutput => exact hnone (makeOutput roots.output)
  | command hooks text =>
    exact hnone (runCommand hooks.phase roots.output (commandEnvs c.document) names text)
  | emit template spec row => exact hnone (Emission.emit roots template spec row)
  | survey template spec =>
    refine (survey_item template spec c).bind fun r hr => ?_
    obtain ⟨result, c'⟩ := r
    cases result with
    | error e => exact nofun
    | ok rows =>
      intro more hmore d' hmem
      cases hmore
      obtain ⟨row, hrow, rfl⟩ := List.mem_map.1 hmem
      rcases hr rows rfl with rfl | hitem
      · cases hrow
      · exact congrArg some hitem.symm

section Performance

variable {σ : Type} {answer : (q : SystemCall) → σ → q.Answer × σ} {c c' : Context} {w w' : σ}
  {history : List Performed} {result : Except Error Unit}

/-- A combination leaves the current entry alone. -/
theorem item_of_emit {d : Deed} {more : List Deed} (hd : d.isPlanned = false)
    (h : (d.perform roots names c).run answer w = ((.ok more, c'), w')) : c'.item = c.item := by
  cases d with
  | emit template spec row =>
    have hkeeps : Work.Keeps Context.item (Emission.emit roots template spec row) :=
      ((Emission.emit_evaluates roots template spec row).mono fun _ _ =>
        congrArg Context.item).keeps fun _ => rfl
    exact ((hkeeps.bind fun _ => Work.keeps_pure _) c).of_run_eq h
  | _ => cases hd

/-- Every deed of a performance attends to its entry. Those that are pending and were not planned
find it entered. -/
theorem Performs.attends {more plan : List Deed}
    (h : Performs answer roots names (more ++ plan) c w history result c' w')
    (hmore : ∀ d ∈ more, d.isPlanned = false ∧ d.item? = some c.item)
    (hplan : ∀ d ∈ plan, d.isPlanned = true) :
    ∀ p ∈ history, (p.deed.perform roots names).AttendsTo p.deed.item? p.start := by
  have hfirst {d : Deed} {ds : List Deed} {c : Context} {more plan : List Deed}
      (hds : more ++ plan = d :: ds)
      (hmore : ∀ d ∈ more, d.isPlanned = false ∧ d.item? = some c.item)
      (hplan : ∀ d ∈ plan, d.isPlanned = true) :
      (d.perform roots names).AttendsTo d.item? c := by
    refine perform_attends d c fun hnot => ?_
    rcases List.append_eq_cons_iff.1 hds with ⟨rfl, rfl⟩ | ⟨more, rfl, rfl⟩
    · rw [hplan d List.mem_cons_self] at hnot
      cases hnot
    · exact (hmore d List.mem_cons_self).2
  generalize hds : more ++ plan = ds at h
  induction h generalizing more plan with
  | finished => exact fun p hmem => absurd hmem List.not_mem_nil
  | @failed d ds c c' w w' e h =>
    intro p hmem
    obtain rfl := List.mem_singleton.1 hmem
    change (d.perform roots names).AttendsTo d.item? c
    exact hfirst hds hmore hplan
  | @next d ds entails c c' c'' w w' w'' history result h rest ih =>
    intro p hmem
    rcases List.mem_cons.1 hmem with rfl | hmem
    · change (d.perform roots names).AttendsTo d.item? c
      exact hfirst hds hmore hplan
    · obtain ⟨hentails, hnone⟩ := entailed h
      have hitem := (perform_item d c).of_run_eq h entails rfl
      rcases List.append_eq_cons_iff.1 hds with ⟨rfl, rfl⟩ | ⟨more, rfl, rfl⟩
      · exact ih (fun d' hd' => ⟨(hentails d' hd').2, hitem d' hd'⟩)
          (fun d' hd' => hplan d' (List.mem_cons_of_mem d hd')) rfl p hmem
      · obtain ⟨hd, -⟩ := hmore d List.mem_cons_self
        have hpending : more ++ plan = entails ++ (more ++ plan) := by
          rw [hnone hd, List.nil_append]
        refine ih (fun d' hd' => ?_) hplan hpending p hmem
        obtain ⟨hd', hsame⟩ := hmore d' (List.mem_cons_of_mem d hd')
        exact ⟨hd', hsame.trans (congrArg some (item_of_emit hd h).symm)⟩

/-- What a performance fails by is what its last deed has failed by. -/
theorem Performs.failed_last {ds : List Deed} {e : Error}
    (h : Performs answer roots names ds c w history (.error e) c' w') :
    ∃ p, history.getLast? = some p ∧ p.error = some e ∧
      ∃ w₀ c₁ w₁, (p.deed.perform roots names p.start).run answer w₀ = ((.error e, c₁), w₁) := by
  generalize hresult : (.error e : Except Error Unit) = result at h
  induction h with
  | finished => cases hresult
  | @failed d ds c c' w w' e' h =>
    cases hresult
    exact ⟨_, rfl, rfl, w, c', w', h⟩
  | @next d ds more c c' c'' w w' w'' history result h rest ih =>
    obtain ⟨p, hlast, hp⟩ := ih hresult
    cases history with
    | nil => cases hlast
    | cons q history =>
      exact ⟨p, List.getLast?_cons_cons.trans hlast, hp⟩

/-- Only the deed of a remote variable fails by its error. -/
theorem eq_request_of_error {d : Deed} {name : String} {fault : RemoteFault}
    (h : (d.perform roots names c).run answer w = ((.error (.remoteVar name fault), c'), w')) :
    d = .request name := by
  have hends := (perform_throws d c).of_run_eq h
  cases d with
  | request name' =>
    obtain ⟨spec, -, hsame, -⟩ := hends
    rw [hsame]
  | command hooks text =>
    rcases hends with hends | ⟨_, hends⟩
    · exact hends.elim
    · cases hends
  | makeOutput =>
    obtain ⟨_, hends⟩ := hends
    cases hends
  | _ => exact hends.elim

/-- In a run, every expression is evaluated for the entry of the deed that evaluates it, whatever
the calls are answered: the key of a field, the name of a remote variable, for its request, judge and
parser alike, the path of a template, for its range and for everything of every combination, and the
phase of a command. The error of an expression that a run ends in names the entry of the deed that
has failed, which is the last one, and the error of a remote variable names the one that this deed
resolves. -/
theorem run_attends (answer : (q : SystemCall) → σ → q.Answer × σ) (roots : Emission.Roots)
    (c : Context) (w : σ) : ∃ history,
      Performs answer roots (.standard c.project) (schedule (outline c.document)) c w history
        ((run roots c).run answer w).1.1 ((run roots c).run answer w).1.2
        ((run roots c).run answer w).2 ∧
      (run roots c).asked answer w = history.flatMap Performed.calls ∧
      (∀ p ∈ history,
        (p.deed.perform roots (.standard c.project)).AttendsTo p.deed.item? p.start) ∧
      ∀ e, ((run roots c).run answer w).1.1 = .error e →
        ∃ p, history.getLast? = some p ∧ p.error = some e ∧
          (∀ name reason, e = .expression name reason → ∃ phase, p.deed.item? = some (phase, name)) ∧
          ∀ name fault, e = .remoteVar name fault → p.deed = .request name := by
  have henacts : Enacts answer roots (.standard c.project) (run roots)
      (schedule (outline c.document)) c := enacts_run roots c
  obtain ⟨history, hperforms, hcalls⟩ := henacts w
  have hpending : Performs answer roots (.standard c.project)
      ([] ++ schedule (outline c.document)) c w history _ _ _ := hperforms
  have hattends := hpending.attends nofun fun _ => isPlanned_of_mem_schedule
  refine ⟨history, hperforms, hcalls, hattends, fun e he => ?_⟩
  rw [he] at hperforms
  obtain ⟨p, hlast, herror, w₀, c₁, w₁, hrun⟩ := hperforms.failed_last
  refine ⟨p, hlast, herror, ?_, ?_⟩
  · rintro name reason rfl
    have hnames := (hattends p (List.mem_of_getLast? hlast)).names.of_run_eq hrun
    obtain ⟨item, hitem, rfl⟩ := Option.map_eq_some_iff.1 (show _ = some name from hnames)
    exact ⟨item.1, hitem⟩
  · rintro name fault rfl
    exact eq_request_of_error hrun

end Performance

end Deeds

end Generation

end Scaffold

import Scaffold.Proofs.Generation.Performance

/-!
# Order — what happens in a run, and in which order

A run performs the schedule of its document, so that all that is true of a schedule that is
performed is true of every run, whatever its calls are answered (`run_in_order`): what was planned
is performed in its order, nothing happens behind the first error, which is the one returned, and
every deed finds all deeds of the stages before its own done. The invariant of the induction is that
the pending deeds go from stage to stage; the deeds that a template entails do not break it, since
they are of its stage.
-/

set_option autoImplicit false

namespace Scaffold

namespace Generation

/-! ## The order of a run -/

/-- What of a history was planned. -/
def plannedOf (history : List Performed) : List Performed :=
  history.filter fun p => p.deed.isPlanned

/-- What a planned part of a history comes to, each deed with those that it entails behind it. -/
def expanded (history : List Performed) : List Deed :=
  (plannedOf history).flatMap fun p => p.deed :: p.entails

theorem plannedOf_cons_of_isPlanned {p : Performed} (h : p.deed.isPlanned = true)
    (history : List Performed) : plannedOf (p :: history) = p :: plannedOf history :=
  List.filter_cons_of_pos h

theorem plannedOf_cons_of_not_isPlanned {p : Performed} (h : p.deed.isPlanned = false)
    (history : List Performed) : plannedOf (p :: history) = plannedOf history :=
  List.filter_cons_of_neg (by rw [h]; exact Bool.false_ne_true)

section Order

variable {σ : Type} {answer : (q : SystemCall) → σ → q.Answer × σ} {roots : Emission.Roots}
  {names : Bindings} {ds : List Deed} {c c' : Context} {w w' : σ} {history : List Performed}
  {result : Except Error Unit}

/-- Only what is planned entails anything, and that is of its own stage and was not planned. -/
theorem entailed {d : Deed} {more : List Deed}
    (h : (d.perform roots names c).run answer w = ((.ok more, c'), w')) :
    (∀ d' ∈ more, d'.stage = d.stage ∧ d'.isPlanned = false) ∧
      (d.isPlanned = false → more = []) := by
  have hresult : ((d.perform roots names c).run answer w).1.1 = .ok more := congrArg (·.1.1) h
  have hnone (x : Work Unit) (hx : d.perform roots names c = (x >>= fun _ => pure []) c) :
      more = [] := by
    rw [hx] at hresult
    obtain ⟨-, hmore⟩ := (Work.yields_map x (fun _ => ([] : List Deed)) c).run w more hresult
    exact hmore.symm
  cases d with
  | survey template spec =>
    obtain ⟨rows, hmore⟩ := (Work.yields_map (survey names template spec)
      (fun rows => rows.map (Deed.emit template spec)) c).run w more hresult
    refine ⟨fun d' hmem => ?_, nofun⟩
    rw [← hmore] at hmem
    obtain ⟨row, -, rfl⟩ := List.mem_map.1 hmem
    exact ⟨rfl, rfl⟩
  | resolve s key =>
    rw [hnone (resolveField s names key) rfl]
    exact ⟨nofun, nofun⟩
  | request name =>
    rw [hnone (resolveRemoteVar roots.source names name) rfl]
    exact ⟨nofun, nofun⟩
  | makeOutput =>
    rw [hnone (makeOutput roots.output) rfl]
    exact ⟨nofun, nofun⟩
  | command hooks text =>
    rw [hnone (runCommand hooks.phase roots.output (commandEnvs c.document) names text) rfl]
    exact ⟨nofun, nofun⟩
  | emit template spec row =>
    rw [hnone (Emission.emit roots template spec row) rfl]
    exact ⟨nofun, fun _ => rfl⟩

theorem filter_append_of_entailed {more ds : List Deed}
    (h : ∀ d' ∈ more, d'.isPlanned = false) :
    (more ++ ds).filter Deed.isPlanned = ds.filter Deed.isPlanned := by
  have hmore : more.filter Deed.isPlanned = [] :=
    List.filter_eq_nil_iff.2 fun d' hmem => by rw [h d' hmem]; exact Bool.false_ne_true
  rw [List.filter_append, hmore, List.nil_append]

/-- What was planned is performed in its order, and all of it when nothing fails. -/
theorem Performs.planned (h : Performs answer roots names ds c w history result c' w') :
    (plannedOf history).map Performed.deed <+: ds.filter Deed.isPlanned ∧
      (result = .ok () → (plannedOf history).map Performed.deed = ds.filter Deed.isPlanned) := by
  induction h with
  | finished => exact ⟨List.prefix_rfl, fun _ => rfl⟩
  | @failed d ds c c' w w' e h =>
    refine ⟨?_, nofun⟩
    cases hd : d.isPlanned with
    | true =>
      rw [plannedOf_cons_of_isPlanned hd, List.filter_cons_of_pos hd]
      exact (List.prefix_cons_inj d).2 List.nil_prefix
    | false =>
      rw [plannedOf_cons_of_not_isPlanned hd]
      exact List.nil_prefix
  | @next d ds more c c' c'' w w' w'' history result h rest ih =>
    rw [filter_append_of_entailed fun d' hmem => ((entailed h).1 d' hmem).2] at ih
    cases hd : d.isPlanned with
    | true =>
      rw [plannedOf_cons_of_isPlanned hd, List.filter_cons_of_pos hd]
      exact ⟨(List.prefix_cons_inj d).2 ih.1, fun hok => congrArg (d :: ·) (ih.2 hok)⟩
    | false =>
      rw [plannedOf_cons_of_not_isPlanned hd,
        List.filter_cons_of_neg (by rw [hd]; exact Bool.false_ne_true)]
      exact ih

/-- What a deed entails is performed behind it. The deeds that are pending are the rest of what was
entailed last, and then what is planned. -/
theorem Performs.expanded {more plan : List Deed}
    (h : Performs answer roots names (more ++ plan) c w history result c' w')
    (hmore : ∀ d ∈ more, d.isPlanned = false) (hplan : ∀ d ∈ plan, d.isPlanned = true) :
    history.map Performed.deed <+: more ++ expanded history ∧
      (result = .ok () → history.map Performed.deed = more ++ expanded history) := by
  generalize hds : more ++ plan = ds at h
  induction h generalizing more plan with
  | finished =>
    obtain ⟨rfl, rfl⟩ := List.append_eq_nil_iff.1 hds
    exact ⟨List.prefix_rfl, fun _ => rfl⟩
  | @failed d ds c c' w w' e h =>
    refine ⟨?_, nofun⟩
    rcases List.append_eq_cons_iff.1 hds with ⟨rfl, rfl⟩ | ⟨more, rfl, rfl⟩
    · rw [Generation.expanded, plannedOf_cons_of_isPlanned (hplan d List.mem_cons_self)]
      exact List.prefix_rfl
    · exact (List.prefix_cons_inj d).2 List.nil_prefix
  | @next d ds entails c c' c'' w w' w'' history result h rest ih =>
    obtain ⟨hentails, hnone⟩ := entailed h
    rcases List.append_eq_cons_iff.1 hds with ⟨rfl, rfl⟩ | ⟨more, rfl, rfl⟩
    · rw [Generation.expanded, plannedOf_cons_of_isPlanned (hplan d List.mem_cons_self)]
      have hrest := ih (fun d' hmem => (hentails d' hmem).2)
        (fun d' hmem => hplan d' (List.mem_cons_of_mem d hmem)) rfl
      exact ⟨(List.prefix_cons_inj d).2 hrest.1, fun hok => congrArg (d :: ·) (hrest.2 hok)⟩
    · have hd := hmore d List.mem_cons_self
      rw [Generation.expanded, plannedOf_cons_of_not_isPlanned hd]
      have hrest := ih (fun d' hmem => hmore d' (List.mem_cons_of_mem d hmem)) hplan
        (by rw [hnone hd, List.nil_append])
      exact ⟨(List.prefix_cons_inj d).2 hrest.1, fun hok => congrArg (d :: ·) (hrest.2 hok)⟩

/-- The error of the last deed, if it failed, is what all comes to. -/
theorem Performs.result_eq (h : Performs answer roots names ds c w history result c' w') :
    result =
      match history.getLast?.bind Performed.error with
      | some e => .error e
      | none => .ok () := by
  induction h with
  | finished => rfl
  | failed h => rfl
  | @next d ds more c c' c'' w w' w'' history result h rest ih =>
    cases history with
    | nil => exact ih
    | cons p history =>
      rw [List.getLast?_cons_cons]
      exact ih

/-- Only the last deed can have failed. -/
theorem Performs.succeeded (h : Performs answer roots names ds c w history result c' w') :
    ∀ p ∈ history.dropLast, p.error = none := by
  induction h with
  | finished => exact fun p hmem => absurd hmem List.not_mem_nil
  | failed h =>
    rw [List.dropLast_singleton]
    exact fun p hmem => absurd hmem List.not_mem_nil
  | @next d ds more c c' c'' w w' w'' history result h rest ih =>
    cases history with
    | nil =>
      rw [List.dropLast_singleton]
      exact fun p hmem => absurd hmem List.not_mem_nil
    | cons p history =>
      rw [List.dropLast_cons_cons]
      intro q hmem
      rcases List.mem_cons.1 hmem with hq | hmem
      · rw [hq]
        rfl
      · exact ih q hmem

theorem Staged.append_of_entailed {d : Deed} {ds more : List Deed} (hstaged : Staged (d :: ds))
    (hmore : ∀ d' ∈ more, d'.stage = d.stage) : Staged (more ++ ds) := by
  obtain ⟨hfirst, hrest⟩ := List.pairwise_cons.1 hstaged
  refine List.pairwise_append.2 ⟨staged_of_forall hmore, hrest, fun a ha b hb => ?_⟩
  rw [hmore a ha]
  exact hfirst b hb

/-- No pending deed is of a stage before that of the first one. -/
theorem Staged.rank_head_le {d : Deed} {ds : List Deed} (hstaged : Staged (d :: ds)) :
    ∀ d' ∈ d :: ds, d.stage.rank ≤ d'.stage.rank := by
  intro d' hmem
  rcases List.mem_cons.1 hmem with rfl | hmem
  · exact Nat.le_refl _
  · exact (List.pairwise_cons.1 hstaged).1 d' hmem

/-- A deed is begun when all that is pending, of a stage before its own, is done. -/
theorem Performs.behind (h : Performs answer roots names ds c w history result c' w')
    (hstaged : Staged ds) {before after : List Performed} {p : Performed}
    (hsplit : before ++ p :: after = history) {d : Deed}
    (hd : d ∈ ds ∨ ∃ q ∈ before, d ∈ q.entails) (hrank : d.stage.rank < p.deed.stage.rank) :
    ∃ q ∈ before, q.deed = d ∧ q.error = none := by
  have hfirst {d₀ : Deed} {ds : List Deed} (hstaged : Staged (d₀ :: ds))
      (hd : d ∈ d₀ :: ds ∨ ∃ q ∈ ([] : List Performed), d ∈ q.entails) :
      ¬ d.stage.rank < d₀.stage.rank := by
    rcases hd with hd | ⟨q, hmem, -⟩
    · exact Nat.not_lt.2 (hstaged.rank_head_le d hd)
    · cases hmem
  induction h generalizing before with
  | finished => exact absurd hsplit (List.append_ne_nil_of_right_ne_nil _ (List.cons_ne_nil _ _))
  | @failed d₀ ds c c' w w' e h =>
    cases before with
    | nil =>
      obtain ⟨rfl, -⟩ := List.cons.inj hsplit
      exact absurd hrank (hfirst hstaged hd)
    | cons p₀ before =>
      have hrest := (List.cons.inj hsplit).2
      exact absurd hrest (List.append_ne_nil_of_right_ne_nil _ (List.cons_ne_nil _ _))
  | @next d₀ ds more c c' c'' w w' w'' history result h rest ih =>
    cases before with
    | nil =>
      obtain ⟨rfl, -⟩ := List.cons.inj hsplit
      exact absurd hrank (hfirst hstaged hd)
    | cons p₀ before =>
      obtain ⟨rfl, hrest⟩ := List.cons.inj hsplit
      have hpending : d = d₀ ∨ d ∈ more ++ ds ∨ ∃ q ∈ before, d ∈ q.entails := by
        rcases hd with hd | ⟨q, hmem, hd⟩
        · exact (List.mem_cons.1 hd).imp_right fun hd => .inl (List.mem_append_right more hd)
        · rcases List.mem_cons.1 hmem with rfl | hmem
          · exact .inr (.inl (List.mem_append_left ds hd))
          · exact .inr (.inr ⟨q, hmem, hd⟩)
      rcases hpending with rfl | hpending
      · exact ⟨_, List.mem_cons_self, rfl, rfl⟩
      · have hstaged' := hstaged.append_of_entailed fun d' hmem => ((entailed h).1 d' hmem).1
        obtain ⟨q, hmem, hq⟩ := ih hstaged' hrest hpending
        exact ⟨q, List.mem_cons_of_mem _ hmem, hq⟩

/-- What every deed of some stages preserves holds whenever one of them is begun, and at the end. It
may speak of the deeds that are done; one that fails is not. -/
theorem Performs.invariant {S : Stage → Prop} {I : List Deed → Document → Prop}
    (hstep : ∀ (d : Deed) (done : List Deed) (c : Context), S d.stage → I done c.document →
      (d.perform roots names c).Yields fun r =>
        match r.1 with
        | .ok _ => I (done ++ [d]) r.2.document
        | .error _ => I done r.2.document)
    (h : Performs answer roots names ds c w history result c' w') (hds : ∀ d ∈ ds, S d.stage)
    (done : List Deed) (hc : I done c.document) :
    (∀ (before : List Performed) (p : Performed) (after : List Performed),
      before ++ p :: after = history →
        S p.deed.stage ∧ I (done ++ before.map Performed.deed) p.start.document) ∧
    match result with
    | .ok _ => I (done ++ history.map Performed.deed) c'.document
    | .error e => ∃ (before : List Performed) (p : Performed), history = before ++ [p] ∧
        p.error = some e ∧ I (done ++ before.map Performed.deed) c'.document := by
  induction h generalizing done with
  | finished c w =>
    refine ⟨fun before p after hsplit => ?_, ?_⟩
    · exact absurd hsplit (List.append_ne_nil_of_right_ne_nil _ (List.cons_ne_nil _ _))
    · rw [List.map_nil, List.append_nil]
      exact hc
  | @failed d ds c c' w w' e h =>
    have hd := hds d List.mem_cons_self
    have hend : I done c'.document := (hstep d done c hd hc).of_run_eq h
    refine ⟨fun before p after hsplit => ?_, [], _, rfl, rfl, ?_⟩
    · cases before with
      | nil =>
        obtain ⟨rfl, -⟩ := List.cons.inj hsplit
        rw [List.map_nil, List.append_nil]
        exact ⟨hd, hc⟩
      | cons p₀ before =>
        exact absurd (List.cons.inj hsplit).2
          (List.append_ne_nil_of_right_ne_nil _ (List.cons_ne_nil _ _))
    · rw [List.map_nil, List.append_nil]
      exact hend
  | @next d ds more c c' c'' w w' w'' history result h rest ih =>
    have hd := hds d List.mem_cons_self
    have hdone : I (done ++ [d]) c'.document := (hstep d done c hd hc).of_run_eq h
    -- the deeds that were entailed are of the stage of the one that entailed them
    have hpending : ∀ d' ∈ more ++ ds, S d'.stage := by
      intro d' hmem
      rcases List.mem_append.1 hmem with hmem | hmem
      · rw [((entailed h).1 d' hmem).1]
        exact hd
      · exact hds d' (List.mem_cons_of_mem d hmem)
    have hcons (before : List Performed) :
        done ++ (d.begun answer roots names c w more none :: before).map Performed.deed =
          (done ++ [d]) ++ before.map Performed.deed :=
      List.append_cons done d (before.map Performed.deed)
    obtain ⟨hstarts, hend⟩ := ih hpending (done ++ [d]) hdone
    refine ⟨fun before p after hsplit => ?_, ?_⟩
    · cases before with
      | nil =>
        obtain ⟨rfl, -⟩ := List.cons.inj hsplit
        rw [List.map_nil, List.append_nil]
        exact ⟨hd, hc⟩
      | cons p₀ before =>
        obtain ⟨rfl, htail⟩ := List.cons.inj hsplit
        rw [hcons]
        exact hstarts before p after htail
    · cases result with
      | ok u =>
        dsimp only
        rw [hcons]
        exact hend
      | error e =>
        obtain ⟨before, p, rfl, herror, hlast⟩ := hend
        refine ⟨_ :: before, p, rfl, herror, ?_⟩
        rw [hcons]
        exact hlast

/-- Each deed calls for nothing but what it is there for, and runs its own commands. -/
theorem Performs.conforms (h : Performs answer roots names ds c w history result c' w') :
    ∀ p ∈ history, (∀ call ∈ p.calls, call.effect ∈ p.deed.effects p.start.document) ∧
      p.calls.filterMap SystemCall.command? = p.deed.commands roots names p.start := by
  induction h with
  | finished => exact fun p hmem => absurd hmem List.not_mem_nil
  | @failed d ds c c' w w' e h =>
    intro p hmem
    rw [List.mem_singleton.1 hmem]
    exact ⟨(perform_calls d c).forall_asked w, commands_of_perform d c w⟩
  | @next d ds more c c' c'' w w' w'' history result h rest ih =>
    intro p hmem
    rcases List.mem_cons.1 hmem with hp | hmem
    · rw [hp]
      exact ⟨(perform_calls d c).forall_asked w, commands_of_perform d c w⟩
    · exact ih p hmem

/-- Nothing is made and no command is run before the stage of the output directory. -/
theorem Deed.output_le_of_effect {d : Deed} {document : Document} {effect : Effect}
    (h : effect ∈ d.effects document) (heffect : effect = .creation ∨ effect = .command) :
    Stage.output.rank ≤ d.stage.rank := by
  have hreport (hmem : effect ∈ [Effect.report]) : False := by
    obtain rfl := List.mem_singleton.1 hmem
    exact absurd heffect (by decide)
  cases d with
  | resolve s key => exact (hreport h).elim
  | request name =>
    have hmem : effect ∈ [Effect.inquiry, Effect.report] := by
      rw [Deed.effects] at h
      split at h
      · exact h
      · exact List.mem_cons_of_mem _ h
    rcases heffect with rfl | rfl
    · exact absurd hmem (by decide)
    · exact absurd hmem (by decide)
  | makeOutput => exact Nat.le_refl _
  | command hooks text =>
    cases hooks with
    | pre => exact (show 3 ≤ 4 by decide)
    | post => exact (show 3 ≤ 6 by decide)
  | survey template spec => exact (show 3 ≤ 5 by decide)
  | emit template spec row => exact (show 3 ≤ 5 by decide)

/-- What the order of a run is: a history of deeds against a plan, with the result of the run. -/
structure InOrder (roots : Emission.Roots) (names : Bindings) (plan : List Deed)
    (history : List Performed) (result : Except Error Unit) : Prop where
  /-- What was planned is performed in its order, as far as the run gets. -/
  planned : (plannedOf history).map Performed.deed <+: plan
  /-- What a deed entails follows it at once, as far as the run gets. -/
  expanded : history.map Performed.deed <+: Generation.expanded history
  /-- A run that succeeds has performed all of it. -/
  complete : result = .ok () → (plannedOf history).map Performed.deed = plan ∧
    history.map Performed.deed = Generation.expanded history
  /-- The error of the last deed, if it failed, is the result. -/
  result_eq : result =
    match history.getLast?.bind Performed.error with
    | some e => .error e
    | none => .ok ()
  /-- Only the last deed can have failed. -/
  succeeded : ∀ p ∈ history.dropLast, p.error = none
  /-- Before a deed is begun, all deeds of the stages before its own, planned or entailed, are
  done. -/
  behind : ∀ before p after, before ++ p :: after = history →
    ∀ d, (d ∈ plan ∨ ∃ q ∈ before, d ∈ q.entails) → d.stage.rank < p.deed.stage.rank →
      ∃ q ∈ before, q.deed = d ∧ q.error = none
  /-- Each deed calls for nothing but what it is there for. -/
  effects : ∀ p ∈ history, ∀ call ∈ p.calls, call.effect ∈ p.deed.effects p.start.document
  /-- Each deed runs its own commands. -/
  commands : ∀ p ∈ history,
    p.calls.filterMap SystemCall.command? = p.deed.commands roots names p.start
  /-- Before anything is made or a command is run, all envs, variables and remote variables have
  been resolved. -/
  resolved : ∀ before p after, before ++ p :: after = history →
    (∃ call ∈ p.calls, call.effect = .creation ∨ call.effect = .command) →
    ∀ d ∈ plan, d.stage ∈ [.envs, .vars, .remoteVars] → ∃ q ∈ before, q.deed = d ∧ q.error = none

/-- Deeds that are performed by stages, all of them planned, are performed in order. -/
theorem Performs.inOrder (h : Performs answer roots names ds c w history result c' w')
    (hstaged : Staged ds) (hplanned : ∀ d ∈ ds, d.isPlanned = true) :
    InOrder roots names ds history result := by
  have hfilter : ds.filter Deed.isPlanned = ds := List.filter_eq_self.2 hplanned
  obtain ⟨hplan, hcomplete⟩ := h.planned
  rw [hfilter] at hplan hcomplete
  have hpending : Performs answer roots names ([] ++ ds) c w history result c' w' := h
  have hexpanded := hpending.expanded nofun hplanned
  refine
    { planned := hplan
      expanded := hexpanded.1
      complete := fun hok => ⟨hcomplete hok, hexpanded.2 hok⟩
      result_eq := h.result_eq
      succeeded := h.succeeded
      behind := fun _ _ _ hsplit _ hd hrank => h.behind hstaged hsplit hd hrank
      effects := fun p hmem => (h.conforms p hmem).1
      commands := fun p hmem => (h.conforms p hmem).2
      resolved := fun before p after hsplit hcall d hd hstage => ?_ }
  obtain ⟨call, hmem, heffect⟩ := hcall
  have hp : p ∈ history := hsplit ▸ List.mem_append_right before List.mem_cons_self
  have houtput := Deed.output_le_of_effect ((h.conforms p hp).1 call hmem) heffect
  have hbefore : ∀ stage ∈ [Stage.envs, .vars, .remoteVars], stage.rank < Stage.output.rank := by
    decide
  exact h.behind hstaged hsplit (.inl hd) (Nat.lt_of_lt_of_le (hbefore _ hstage) houtput)

end Order

end Generation

end Scaffold

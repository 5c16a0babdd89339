import Scaffold.Proofs.Generation.Templates

/-!
# Schedule — the deeds of a run

What a run does is a row of deeds, each of which resolves one declaration, makes the output
directory, runs one command or handles one combination of a template. Which ones there are is a
matter of the outline of the document, that is, of its keys, templates and commands
(`schedule`); only how many combinations a template has is found out when its turn comes
(`survey`). No deed changes the outline (`perform_keeps`), and each has its own effects
(`perform_calls`).
-/

set_option autoImplicit false

namespace Scaffold

namespace Generation

/-! ## The outline of a document -/

/-- The keys of a section. -/
def Section.keys (s : Section) (d : Document) : List String :=
  ((s.fields d).map (·.keys)).getD []

/-- The names of the remote variables. -/
def remoteKeys (d : Document) : List String :=
  (d.remoteVars.map (·.keys)).getD []

/-- The commands before or after the templates. -/
inductive Hooks
  | pre
  | post
  deriving DecidableEq, Repr

/-- The phase that runs the commands. -/
def Hooks.phase : Hooks → Phase
  | .pre => .executesPre
  | .post => .executesPost

/-- What of a document decides the course of a run. -/
structure Outline where
  envs : List String
  vars : List String
  remoteVars : List String
  pre : List String
  templates : List (String × FileSpec)
  post : List String

/-- The outline of a document. -/
def outline (d : Document) : Outline where
  envs := Section.envs.keys d
  vars := Section.vars.keys d
  remoteVars := remoteKeys d
  pre := d.preCommands
  templates := d.templates.entries
  post := d.postCommands

/-- Storing what a declared field resolves to leaves the keys as they are. -/
theorem Section.keys_set {s : Section} {d : Document} {key : String} {declared : Field}
    (h : (s.fields d).bind (·.get? key) = some declared) (field : Field) :
    s.keys (s.set d key field) = s.keys d := by
  obtain ⟨m, hm, hget⟩ := Option.bind_eq_some_iff.1 h
  have hset : s.fields (s.set d key field) = some (m.set key field) := by
    cases s with
    | envs => exact congrArg (Option.map (·.set key field)) hm
    | vars => exact congrArg (Option.map (·.set key field)) hm
  rw [Section.keys, Section.keys, hset, hm]
  exact OrderedMap.keys_set_of_get? hget field

theorem outline_set {s : Section} {d : Document} {key : String} {declared : Field}
    (h : (s.fields d).bind (·.get? key) = some declared) (field : Field) :
    outline (s.set d key field) = outline d := by
  cases s with
  | envs => exact congrArg (fun keys => { outline d with envs := keys }) (Section.keys_set h field)
  | vars => exact congrArg (fun keys => { outline d with vars := keys }) (Section.keys_set h field)

/-- Storing a response leaves the outline as it is. -/
theorem outline_setResponse (d : Document) (name : String) (response : Response) :
    outline (d.setResponse name response) = outline d := by
  rw [Document.setResponse]
  split
  next vars spec hvars hspec =>
    obtain ⟨vars', hvars', hjoin⟩ := Option.bind_eq_some_iff.1 hspec
    obtain rfl : vars' = vars := Option.some.inj (hvars'.symm.trans hvars)
    have hkeys : (vars'.set name (some { spec with response := some response })).keys =
        vars'.keys := OrderedMap.keys_set_of_get? (Option.join_eq_some_iff.1 hjoin) _
    have hremote : remoteKeys d = vars'.keys := by
      rw [remoteKeys, hvars]
      rfl
    exact congrArg (fun keys => { outline d with remoteVars := keys }) (hkeys.trans hremote.symm)
  next => rfl

/-! ## Deeds -/

/-- The stages of a run. -/
inductive Stage
  | envs
  | vars
  | remoteVars
  | output
  | pre
  | templates
  | post
  deriving DecidableEq, Repr

/-- The stages in their order. -/
def Stage.all : List Stage := [.envs, .vars, .remoteVars, .output, .pre, .templates, .post]

/-- The place of a stage in a run. -/
def Stage.rank : Stage → Nat
  | .envs => 0
  | .vars => 1
  | .remoteVars => 2
  | .output => 3
  | .pre => 4
  | .templates => 5
  | .post => 6

/-- One deed of a run. -/
inductive Deed
  /-- Resolves the field of a key. -/
  | resolve (s : Section) (key : String)
  /-- Resolves a remote variable. -/
  | request (name : String)
  /-- Makes the output directory. -/
  | makeOutput
  /-- Runs a command. -/
  | command (hooks : Hooks) (text : String)
  /-- Finds out the combinations of a template. -/
  | survey (template : String) (spec : FileSpec)
  /-- Plans and applies one combination of a template. -/
  | emit (template : String) (spec : FileSpec) (row : Bindings)

namespace Deed

/-- The stage that a deed belongs to. -/
def stage : Deed → Stage
  | .resolve .envs _ => .envs
  | .resolve .vars _ => .vars
  | .request _ => .remoteVars
  | .makeOutput => .output
  | .command .pre _ => .pre
  | .command .post _ => .post
  | .survey _ _ | .emit _ _ _ => .templates

/-- The deed follows from the document alone. -/
def isPlanned : Deed → Bool
  | .emit _ _ _ => false
  | _ => true

end Deed

/-- The deeds of a stage that follow from a document, in the order of declaration. -/
def planned (o : Outline) : Stage → List Deed
  | .envs => o.envs.map (.resolve .envs)
  | .vars => o.vars.map (.resolve .vars)
  | .remoteVars => o.remoteVars.map .request
  | .output => [.makeOutput]
  | .pre => o.pre.map (.command .pre)
  | .templates => o.templates.map fun entry => .survey entry.1 entry.2
  | .post => o.post.map (.command .post)

/-- The deeds that follow from a document, in the order of a run. -/
def schedule (o : Outline) : List Deed :=
  Stage.all.flatMap (planned o)

theorem mem_planned {o : Outline} {stage : Stage} {d : Deed} (h : d ∈ planned o stage) :
    d.stage = stage ∧ d.isPlanned = true := by
  cases stage with
  | output =>
    rw [List.mem_singleton.1 h]
    exact ⟨rfl, rfl⟩
  | envs | vars | remoteVars | pre | templates | post =>
    obtain ⟨a, -, rfl⟩ := List.mem_map.1 h
    exact ⟨rfl, rfl⟩

/-- The stages of deeds do not fall. -/
def Staged (deeds : List Deed) : Prop :=
  deeds.Pairwise fun a b => a.stage.rank ≤ b.stage.rank

theorem staged_of_forall {deeds : List Deed} {stage : Stage} (h : ∀ d ∈ deeds, d.stage = stage) :
    Staged deeds := by
  induction deeds with
  | nil => exact List.Pairwise.nil
  | cons d deeds ih =>
    refine List.pairwise_cons.2 ⟨fun d' hd' => ?_, ?_⟩
    · have hsame : d.stage = d'.stage :=
        (h d List.mem_cons_self).trans (h d' (List.mem_cons_of_mem d hd')).symm
      exact Nat.le_of_eq (congrArg Stage.rank hsame)
    · exact ih fun d' hd' => h d' (List.mem_cons_of_mem d hd')

/-- A schedule goes from stage to stage. -/
theorem staged_schedule (o : Outline) : Staged (schedule o) := by
  have hstage (stage : Stage) : Staged (planned o stage) :=
    staged_of_forall fun d hd => (mem_planned hd).1
  refine List.pairwise_flatMap.2 ⟨fun stage _ => hstage stage, ?_⟩
  have hall : Stage.all.Pairwise fun a b => a.rank ≤ b.rank := by decide
  refine hall.imp fun {s t} hst a ha b hb => ?_
  rw [(mem_planned ha).1, (mem_planned hb).1]
  exact hst

/-- A schedule is made of what follows from the document. -/
theorem isPlanned_of_mem_schedule {o : Outline} {d : Deed} (h : d ∈ schedule o) :
    d.isPlanned = true := by
  obtain ⟨stage, -, hd⟩ := List.mem_flatMap.1 h
  exact (mem_planned hd).2

/-! ## Performing deeds -/

section Performing

variable (roots : Emission.Roots) (names : Bindings)

/-- Performs a deed. What comes of it are the deeds that have to be performed next. -/
def Deed.perform : Deed → Work (List Deed)
  | .resolve s key => do
    resolveField s names key
    return []
  | .request name => do
    resolveRemoteVar roots.source names name
    return []
  | .makeOutput => do
    Generation.makeOutput roots.output
    return []
  | .command hooks text => do
    let envs := commandEnvs (← Work.get).document
    runCommand hooks.phase roots.output envs names text
    return []
  | .survey template spec => do
    let rows ← Generation.survey names template spec
    return rows.map (.emit template spec)
  | .emit template spec row => do
    Emission.emit roots template spec row
    return []

/-- The effects that a deed can have. A remote variable without a request is only reported. -/
def Deed.effects (d : Document) : Deed → List Effect
  | .resolve _ _ | .survey _ _ => [.report]
  | .request name => if (d.remoteSpec? name).isSome then [.inquiry, .report] else [.report]
  | .makeOutput => [.creation]
  | .command _ _ => [.command, .report]
  | .emit _ _ _ => [.creation, .report]

/-- The commands that a deed runs: what a command text evaluates to, unless that is blank. -/
def Deed.commands (c : Context) : Deed → List Hook.Command
  | .command hooks text =>
    match (Prepared.trimmed text names (c.enter hooks.phase hooks.phase.text (.text text))).1 with
    | .ok line =>
      if line.isEmpty then []
      else [⟨hooks.phase.text, c.document.shell.effective, line, commandEnvs c.document,
        roots.output⟩]
    | .error _ => []
  | _ => []

variable {roots names}

/-! ## What deeds leave alone -/

theorem resolveField_of_none {s : Section} {key : String} {c : Context}
    (h : (s.fields c.document).bind (·.get? key) = none) :
    resolveField s names key c = (pure () : Work Unit) c := by
  rw [resolveField, Work.get_bind, h]

theorem resolveField_of_some {s : Section} {key : String} {c : Context} {declared : Field}
    (h : (s.fields c.document).bind (·.get? key) = some declared) :
    resolveField s names key c = (do
      Work.modify (·.enter s.phase key (.ofField declared))
      let resolved ← Work.ofStep (evaluateField names declared)
      Work.report s.phase.text ("$\x7b" ++ key ++ "\x7d: " ++ resolved.show)
      Work.modify fun c => { c with document := s.set c.document key resolved } : Work Unit) c := by
  rw [resolveField, Work.get_bind, h]

/-- Resolving a field changes its value and none of the keys. -/
theorem resolveField_keeps (s : Section) (names : Bindings) (key : String) :
    Work.Keeps (fun c => outline c.document) (resolveField s names key) := by
  intro c
  cases h : (s.fields c.document).bind (·.get? key) with
  | none =>
    rw [resolveField_of_none h]
    exact rfl
  | some declared =>
    rw [resolveField_of_some h]
    have hsame : ∀ c' : Context, c'.document = c.document →
        outline c'.document = outline c.document := fun _ => congrArg outline
    have hevaluated : Work.Keeps Context.document (Work.ofStep (evaluateField names declared)) :=
      Work.keeps_ofStep (evaluateField_keeps_document names declared)
    refine Work.yields_bind (R := fun c' => c'.document = c.document) rfl (fun _ c₁ h₁ => ?_)
      fun _ => hsame
    refine Work.yields_bind (R := fun c' => c'.document = c.document)
      ((hevaluated c₁).mono fun _ heq => heq.trans h₁) (fun resolved c₂ h₂ => ?_) fun _ => hsame
    refine Work.yields_bind (R := fun c' => c'.document = c.document)
      ((Work.keeps_report _ _ c₂).mono fun _ heq => heq.trans h₂) (fun _ c₃ h₃ => ?_) fun _ => hsame
    change outline (s.set c₃.document key resolved) = outline c.document
    rw [h₃]
    exact outline_set h resolved

/-- What no value of a field changes, no field changes. -/
theorem resolveField_keeps_of_set {τ : Type} {g : Document → τ}
    (hg : ∀ (s : Section) d key field, g (s.set d key field) = g d) (s : Section)
    (names : Bindings) (key : String) :
    Work.Keeps (fun c => g c.document) (resolveField s names key) := by
  refine Work.keeps_get.bind fun c => ?_
  split
  next => exact Work.keeps_pure _
  next declared _ =>
    refine Work.Keeps.bind (Work.keeps_modify fun _ => rfl) fun _ => ?_
    have hevaluated := Work.keeps_ofStep (evaluateField_keeps_document names declared)
    refine (hevaluated.ofDocument g).bind fun resolved => ?_
    exact (Work.keeps_report _ _).bind fun _ =>
      Work.keeps_modify fun c => hg s c.document key resolved

/-- What no response changes, no request changes. -/
theorem resolveRemoteVar_keeps {τ : Type} {g : Document → τ}
    (hg : ∀ d name response, g (Document.setResponse d name response) = g d) (sourceRoot : String)
    (names : Bindings) (name : String) :
    Work.Keeps (fun c => g c.document) (resolveRemoteVar sourceRoot names name) := by
  refine Work.keeps_get.bind fun c => ?_
  split
  · exact Work.keeps_report _ _
  · refine Work.Keeps.bind (Work.keeps_modify fun _ => rfl) fun _ => ?_
    refine Work.Keeps.bind ((Resolution.resolve_keeps_document sourceRoot name _
      names).ofDocument g) fun response => ?_
    refine (Work.keeps_report _ _).bind fun _ => ?_
    exact Work.keeps_modify fun c => hg c.document name response

/-- A command fails as what has run it says. -/
theorem perform_yields {E : Error → Prop} (hhook : ∀ fault, E (.hook fault))
    (command : Hook.Command) : (Generation.perform command).Yields (ErrorIn E) := by
  refine Dialogue.yields_bind fun outcome => Dialogue.yields_bind fun _ => ?_
  cases outcome.fault with
  | none => trivial
  | some fault => exact hhook fault

/-- The output directory is not made because of a file or directory. -/
theorem makeOutput_yields {E : Error → Prop} (hio : ∀ reason, E (.io reason)) (output : String)
    (c : Context) : (makeOutput output c).Yields fun r => ErrorIn E r.1 := by
  refine Dialogue.Yields.bind (R := ErrorIn E) ?_ fun _ hr => hr
  refine Dialogue.yields_bind fun made => ?_
  cases made with
  | ok _ => trivial
  | error fault => exact hio _

theorem makeOutput_evaluates (output : String) :
    Work.Evaluates Context.afresh (makeOutput output) := by
  refine .ofSystem (Dialogue.yields_bind fun made => ?_)
  cases made <;> trivial

theorem runCommand_evaluates (phase : Phase) (output : String) (envs : List (String × String))
    (names : Bindings) (text : String) :
    Work.Evaluates Context.afresh (runCommand phase output envs names text) := by
  refine .bind (Work.evaluates_modify (fun _ _ => rfl) fun _ => rfl) fun _ => ?_
  refine .bind (.ofStep (Prepared.trimmed_evaluates text names)) fun command => ?_
  split
  · exact Work.evaluates_pure _
  · exact .bind .get fun _ => .ofSystem (perform_yields (fun _ => trivial) _)

/-- A command text that cannot be evaluated is not run. -/
theorem runCommand_of_error {phase : Phase} {output : String} {envs : List (String × String)}
    {text : String} {c c' : Context} {e : Error}
    (h : Prepared.trimmed text names (c.enter phase phase.text (.text text)) = (.error e, c')) :
    runCommand phase output envs names text c = .done (.error e, c') :=
  Work.ofStep_bind_of_error h _

/-- A command text is run as what it evaluates to, unless that is blank. -/
theorem runCommand_of_ok {phase : Phase} {output : String} {envs : List (String × String)}
    {text : String} {c c' : Context} {line : String}
    (h : Prepared.trimmed text names (c.enter phase phase.text (.text text)) = (.ok line, c')) :
    runCommand phase output envs names text c =
      if line.isEmpty then .done (.ok (), c')
      else Work.ofSystem (perform ⟨phase.text, c.document.shell.effective, line, envs, output⟩)
        c' := by
  have hdocument : c'.document = c.document := by
    have hkept := (Prepared.trimmed_evaluates (f := Context.afresh) text names).keeps_document
      (c.enter phase phase.text (.text text))
    rw [h] at hkept
    exact hkept
  refine (Work.ofStep_bind_of_ok h _).trans ?_
  rw [← hdocument]
  cases line.isEmpty <;> rfl

/-- Behind the remote variables, deeds are made of evaluations and calls. -/
theorem perform_evaluates {d : Deed} (h : Stage.remoteVars.rank < d.stage.rank) :
    Work.Evaluates Context.afresh (d.perform roots names) := by
  cases d with
  | resolve s key => cases s <;> simp [Deed.stage, Stage.rank] at h
  | request name => simp [Deed.stage] at h
  | makeOutput =>
    exact .bind (makeOutput_evaluates roots.output) fun _ => Work.evaluates_pure _
  | command hooks text =>
    exact .bind .get fun _ => (runCommand_evaluates _ _ _ names text).bind
      fun _ => Work.evaluates_pure _
  | survey template spec =>
    exact (survey_evaluates names template spec).bind fun _ => Work.evaluates_pure _
  | emit template spec row =>
    exact (emit_evaluates_afresh roots template spec row).bind fun _ => Work.evaluates_pure _

/-- No deed changes the outline of the document. -/
theorem perform_keeps (d : Deed) :
    Work.Keeps (fun c => outline c.document) (d.perform roots names) := by
  cases d with
  | resolve s key => exact (resolveField_keeps s names key).bind fun _ => Work.keeps_pure _
  | request name =>
    exact (resolveRemoteVar_keeps outline_setResponse _ names name).bind fun _ =>
      Work.keeps_pure _
  | makeOutput | survey | emit =>
    exact (perform_evaluates (by simp [Deed.stage, Stage.rank])).keeps_document.ofDocument outline
  | command hooks text =>
    refine (perform_evaluates ?_).keeps_document.ofDocument outline
    cases hooks <;> simp [Deed.stage, Stage.rank]

/-- What neither a value of a field nor a response changes, no deed changes. -/
theorem perform_keeps_of_set {τ : Type} {g : Document → τ}
    (hset : ∀ (s : Section) d key field, g (s.set d key field) = g d)
    (hresponse : ∀ d name response, g (Document.setResponse d name response) = g d) (d : Deed) :
    Work.Keeps (fun c => g c.document) (d.perform roots names) := by
  cases d with
  | resolve s key =>
    exact (resolveField_keeps_of_set hset s names key).bind fun _ => Work.keeps_pure _
  | request name =>
    exact (resolveRemoteVar_keeps hresponse _ names name).bind fun _ => Work.keeps_pure _
  | makeOutput | survey | emit =>
    exact (perform_evaluates (by simp [Deed.stage, Stage.rank])).keeps_document.ofDocument g
  | command hooks text =>
    refine (perform_evaluates ?_).keeps_document.ofDocument g
    cases hooks <;> simp [Deed.stage, Stage.rank]

/-! ## What deeds call -/

theorem calls_report_of_mem {effects : List Effect} (block message : String)
    (h : Effect.report ∈ effects) : Work.Calls (Only effects) (Work.report block message) :=
  Work.calls_report block message fun _ => h

theorem resolveField_calls (s : Section) (names : Bindings) (key : String) :
    Work.Calls (Only [.report]) (resolveField s names key) := by
  refine Work.calls_get.bind fun c => ?_
  split
  · exact Work.calls_pure _
  · refine (Work.calls_modify _).bind fun _ => (Work.calls_ofStep _).bind fun resolved => ?_
    exact (calls_report_of_mem _ _ List.mem_cons_self).bind fun _ => Work.calls_modify _

theorem resolveRemoteVar_calls (sourceRoot : String) (names : Bindings) (name : String)
    (c : Context) :
    (resolveRemoteVar sourceRoot names name c).Asks
      (Only (Deed.effects c.document (.request name))) := by
  rw [resolveRemoteVar, Work.get_bind, Deed.effects]
  cases h : c.document.remoteSpec? name with
  | none => exact calls_report_of_mem _ _ List.mem_cons_self c
  | some spec =>
    have hresolve (c' : Context) := (Resolution.resolve_calls sourceRoot name spec names c').mono
      fun call (hcall : Only [.inquiry] call) =>
        (List.mem_cons.2 (.inl (List.mem_singleton.1 hcall)) : Only [.inquiry, .report] call)
    refine Work.Calls.bind (Work.calls_modify _) (fun _ => ?_) c
    refine Work.Calls.bind hresolve fun response => ?_
    exact (calls_report_of_mem _ _ (List.mem_cons_of_mem _ List.mem_cons_self)).bind fun _ =>
      Work.calls_modify _

theorem asks_perform (command : Hook.Command) :
    (perform command).Asks (Only [.command, .report]) := by
  refine Dialogue.Asks.bind (System.asks_call List.mem_cons_self) fun outcome => ?_
  refine Dialogue.Asks.bind
    (System.asks_reportAll _ (List.mem_cons_of_mem _ List.mem_cons_self)) fun _ => ?_
  split <;> trivial

theorem runCommand_calls (phase : Phase) (output : String) (envs : List (String × String))
    (names : Bindings) (text : String) :
    Work.Calls (Only [.command, .report]) (runCommand phase output envs names text) := by
  refine (Work.calls_modify _).bind fun _ => (Work.calls_ofStep _).bind fun command => ?_
  split
  · exact Work.calls_pure _
  · exact Work.calls_get.bind fun _ => Work.calls_ofSystem (asks_perform _)

/-- A deed calls for nothing but what it is there for. -/
theorem perform_calls (d : Deed) (c : Context) :
    (d.perform roots names c).Asks (Only (d.effects c.document)) := by
  cases d with
  | resolve s key =>
    exact Work.Calls.bind (resolveField_calls s names key) (fun _ => Work.calls_pure _) c
  | request name =>
    refine Dialogue.Asks.bind (resolveRemoteVar_calls roots.source names name c) fun r => ?_
    obtain ⟨result, c'⟩ := r
    cases result <;> trivial
  | makeOutput =>
    have hmake : Work.Calls (Only [.creation]) (Generation.makeOutput roots.output) :=
      Work.calls_ofSystem (Dialogue.Asks.bind
        (System.asks_makeDirectories _ List.mem_cons_self) fun made => by split <;> trivial)
    exact Work.Calls.bind hmake (fun _ => Work.calls_pure _) c
  | command hooks text =>
    exact Work.Calls.bind Work.calls_get (fun _ =>
      (runCommand_calls _ _ _ names text).bind fun _ => Work.calls_pure _) c
  | survey template spec =>
    exact Work.Calls.bind (survey_calls names template spec) (fun _ => Work.calls_pure _) c
  | emit template spec row =>
    exact Work.Calls.bind (Emission.emit_calls roots template spec row)
      (fun _ => Work.calls_pure _) c

section Commands

variable {σ : Type} {answer : (q : SystemCall) → σ → q.Answer × σ}

theorem commands_reportAll (entries : List Log.Entry) (w : σ) :
    ((System.reportAll entries).asked answer w).filterMap SystemCall.command? = [] :=
  filterMap_command?_eq_nil
    ((System.asks_reportAll entries (List.mem_singleton_self Effect.report)).forall_asked w)
    (by decide)

/-- What came of a command is reported without another one. -/
theorem commands_ofOutcome (outcome : Hook.Outcome) (block : String) (w : σ) :
    ((do
      System.reportAll (outcome.entries block)
      match outcome.fault with
      | none => return .ok ()
      | some fault => return .error (.hook fault) : System (Except Error Unit)).asked answer
        w).filterMap SystemCall.command? = [] := by
  refine (congrArg _ (Dialogue.asked_bind _ _ w)).trans ?_
  rw [List.filterMap_append, commands_reportAll]
  cases outcome.fault <;> rfl

/-- A command is run once. -/
theorem commands_perform (command : Hook.Command) (w : σ) :
    ((perform command).asked answer w).filterMap SystemCall.command? = [command] :=
  congrArg (command :: ·) (commands_ofOutcome _ command.block _)

theorem commands_runCommand (hooks : Hooks) (envs : List (String × String)) (text : String)
    (c : Context) (w : σ) :
    ((runCommand hooks.phase roots.output envs names text c).asked answer w).filterMap
        SystemCall.command? =
      match (Prepared.trimmed text names
        (c.enter hooks.phase hooks.phase.text (.text text))).1 with
      | .ok line =>
        if line.isEmpty then []
        else [⟨hooks.phase.text, c.document.shell.effective, line, envs, roots.output⟩]
      | .error _ => [] := by
  cases h : Prepared.trimmed text names (c.enter hooks.phase hooks.phase.text (.text text)) with
  | mk result c' =>
    cases result with
    | error e =>
      rw [runCommand_of_error h]
      rfl
    | ok line =>
      rw [runCommand_of_ok h]
      dsimp only
      split
      · rfl
      · exact (congrArg _ (Work.asked_ofSystem _ c' w)).trans (commands_perform _ w)

/-- A deed runs the commands that are its own. -/
theorem commands_of_perform (d : Deed) (c : Context) (w : σ) :
    ((d.perform roots names c).asked answer w).filterMap SystemCall.command? =
      d.commands roots names c := by
  have hnone : Effect.command ∉ d.effects c.document →
      ((d.perform roots names c).asked answer w).filterMap SystemCall.command? = [] :=
    filterMap_command?_eq_nil ((perform_calls d c).forall_asked w)
  cases d with
  | command hooks text =>
    exact (congrArg _ (Work.asked_bind_pure _ _ c w)).trans
      (commands_runCommand hooks (commandEnvs c.document) text c w)
  | request name =>
    refine hnone ?_
    rw [Deed.effects]
    split <;> decide
  | resolve s key => exact hnone (show Effect.command ∉ [.report] by decide)
  | makeOutput => exact hnone (show Effect.command ∉ [.creation] by decide)
  | survey template spec => exact hnone (show Effect.command ∉ [.report] by decide)
  | emit template spec row => exact hnone (show Effect.command ∉ [.creation, .report] by decide)

end Commands

end Performing

end Generation

end Scaffold

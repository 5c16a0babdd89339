import Scaffold.Proofs.Generation.Schedule

/-!
# Performance — a run performs its schedule

Pending deeds are performed one after the other, each with those that it entails right behind it,
until one fails (`Performs`). Some work `Enacts` deeds if it comes to what they come to and calls
what they call, in their order. Each phase enacts the deeds of its stage, and so a run enacts the
schedule of its document (`enacts_run`), whatever its calls are answered.
-/

set_option autoImplicit false

namespace Scaffold

namespace Generation

/-! ## Performing a schedule -/

/-- A deed that was performed. -/
structure Performed where
  deed : Deed
  /-- The context in which it was begun. -/
  start : Context
  calls : List SystemCall
  /-- The deeds that have to be performed next on account of it. -/
  entails : List Deed
  error : Option Error

section Performance

variable {σ : Type} (answer : (q : SystemCall) → σ → q.Answer × σ) (roots : Emission.Roots)
  (names : Bindings)

/-- A deed as it is performed from a context on, with what comes of it. -/
def Deed.begun (d : Deed) (c : Context) (w : σ) (entails : List Deed) (error : Option Error) :
    Performed where
  deed := d
  start := c
  calls := (d.perform roots names c).asked answer w
  entails := entails
  error := error

/-- Pending deeds are performed in a context and a world: from the first on, each with those that
it entails right behind it, until one fails or none is left. -/
inductive Performs :
    List Deed → Context → σ → List Performed → Except Error Unit → Context → σ → Prop
  | finished (c : Context) (w : σ) : Performs [] c w [] (.ok ()) c w
  | failed {d : Deed} {ds : List Deed} {c c' : Context} {w w' : σ} {e : Error}
      (h : (d.perform roots names c).run answer w = ((.error e, c'), w')) :
      Performs (d :: ds) c w [d.begun answer roots names c w [] (some e)] (.error e) c' w'
  | next {d : Deed} {ds more : List Deed} {c c' c'' : Context} {w w' w'' : σ}
      {history : List Performed} {result : Except Error Unit}
      (h : (d.perform roots names c).run answer w = ((.ok more, c'), w'))
      (rest : Performs (more ++ ds) c' w' history result c'' w'') :
      Performs (d :: ds) c w (d.begun answer roots names c w more none :: history) result c'' w''

variable {answer roots names}

theorem Performs.append_of_ok {ds₁ ds₂ : List Deed} {c c' c'' : Context} {w w' w'' : σ}
    {history₁ history₂ : List Performed} {result : Except Error Unit}
    (h₁ : Performs answer roots names ds₁ c w history₁ (.ok ()) c' w')
    (h₂ : Performs answer roots names ds₂ c' w' history₂ result c'' w'') :
    Performs answer roots names (ds₁ ++ ds₂) c w (history₁ ++ history₂) result c'' w'' := by
  generalize hok : (.ok () : Except Error Unit) = result₁ at h₁
  induction h₁ with
  | finished c w => exact h₂
  | failed h => cases hok
  | next h rest ih =>
    have hrest := ih h₂ hok
    rw [List.append_assoc] at hrest
    exact .next h hrest

theorem Performs.append_of_error {ds₁ : List Deed} (ds₂ : List Deed) {c c' : Context} {w w' : σ}
    {history : List Performed} {e : Error}
    (h₁ : Performs answer roots names ds₁ c w history (.error e) c' w') :
    Performs answer roots names (ds₁ ++ ds₂) c w history (.error e) c' w' := by
  generalize herror : (.error e : Except Error Unit) = result₁ at h₁ ⊢
  induction h₁ with
  | finished c w => cases herror
  | failed h => exact .failed h
  | next h rest ih =>
    have hrest := ih herror
    rw [List.append_assoc] at hrest
    exact .next h hrest

/-! ## Work that performs deeds -/

/-- What some work does from a context on is what pending deeds come to. -/
def Enacts (answer : (q : SystemCall) → σ → q.Answer × σ) (roots : Emission.Roots)
    (names : Bindings) (x : Work Unit) (ds : List Deed) (c : Context) : Prop :=
  ∀ w, ∃ history,
    Performs answer roots names ds c w history ((x c).run answer w).1.1
      ((x c).run answer w).1.2 ((x c).run answer w).2 ∧
    (x c).asked answer w = history.flatMap Performed.calls

theorem enacts_pure (c : Context) : Enacts answer roots names (pure ()) [] c :=
  fun w => ⟨[], .finished c w, rfl⟩

theorem Enacts.congr {x y : Work Unit} {ds : List Deed} {c : Context}
    (h : Enacts answer roots names y ds c) (hxy : x c = y c) :
    Enacts answer roots names x ds c := by
  intro w
  rw [hxy]
  exact h w

/-- Work in a row performs deeds in a row. What follows may rely on what the work before has left
alone. -/
theorem Enacts.bind {τ : Type} {f : Context → τ} {x y : Work Unit} {ds₁ ds₂ : List Deed}
    {c : Context} (hx : Enacts answer roots names x ds₁ c) (hkeeps : Work.Keeps f x)
    (hy : ∀ c', f c' = f c → Enacts answer roots names y ds₂ c') :
    Enacts answer roots names (x >>= fun _ => y) (ds₁ ++ ds₂) c := by
  intro w
  obtain ⟨history₁, hperforms, hcalls⟩ := hx w
  have hkept : f ((x c).run answer w).1.2 = f c := (hkeeps c).run w
  cases hrun : (x c).run answer w with
  | mk r w' =>
    obtain ⟨result, c'⟩ := r
    rw [hrun] at hperforms hkept
    cases result with
    | error e =>
      rw [Work.run_bind_of_error hrun, Work.asked_bind_of_error hrun]
      exact ⟨history₁, hperforms.append_of_error ds₂, hcalls⟩
    | ok u =>
      rw [Work.run_bind_of_ok hrun, Work.asked_bind_of_ok hrun]
      obtain ⟨history₂, hrest, hmore⟩ := hy c' hkept w'
      refine ⟨history₁ ++ history₂, hperforms.append_of_ok hrest, ?_⟩
      rw [List.flatMap_append, ← hcalls, ← hmore]

/-- One piece of work for each element performs one deed for each. -/
theorem enacts_forEach {τ α : Type} {f : Context → τ} {x : α → Work Unit} {d : α → Deed} {t : τ}
    (hkeeps : ∀ a, Work.Keeps f (x a))
    (h : ∀ a c, f c = t → Enacts answer roots names (x a) [d a] c) (as : List α) (c : Context)
    (hc : f c = t) : Enacts answer roots names (forEach x as) (as.map d) c := by
  induction as generalizing c with
  | nil => exact enacts_pure c
  | cons a as ih => exact (h a c hc).bind (hkeeps a) fun c' hc' => ih c' (hc'.trans hc)

/-- Work that is a deed, apart from its result. -/
theorem enacts_singleton {x : Work Unit} {d : Deed} {c : Context}
    (h : d.perform roots names c = (x >>= fun _ => pure []) c) :
    Enacts answer roots names x [d] c := by
  intro w
  have hasked : (d.perform roots names c).asked answer w = (x c).asked answer w := by
    rw [h]
    exact Work.asked_bind_pure x [] c w
  cases hrun : (x c).run answer w with
  | mk r w' =>
    obtain ⟨result, c'⟩ := r
    cases result with
    | error e =>
      have hperform : (d.perform roots names c).run answer w = ((.error e, c'), w') := by
        rw [h]
        exact Work.run_bind_of_error hrun _
      exact ⟨_, .failed hperform, by rw [← hasked]; exact (List.append_nil _).symm⟩
    | ok u =>
      have hperform : (d.perform roots names c).run answer w = ((.ok [], c'), w') := by
        rw [h]
        exact Work.run_bind_of_ok hrun _
      exact ⟨_, .next hperform (.finished c' w'), by rw [← hasked]; exact (List.append_nil _).symm⟩

/-- A template is surveyed and emitted. -/
theorem enacts_template (template : String) (spec : FileSpec) (c : Context) :
    Enacts answer roots names
      (survey names template spec >>= forEach (Emission.emit roots template spec))
      [.survey template spec] c := by
  have hemit (rows : List Bindings) (c : Context) : Enacts answer roots names
      (forEach (Emission.emit roots template spec) rows) (rows.map (.emit template spec)) c :=
    enacts_forEach (fun row => (Emission.emit_evaluates roots template spec row).keeps_document)
      (fun _ _ _ => enacts_singleton rfl) rows c rfl
  intro w
  cases hrun : (survey names template spec c).run answer w with
  | mk r w' =>
    obtain ⟨result, c'⟩ := r
    cases result with
    | error e =>
      rw [Work.run_bind_of_error hrun, Work.asked_bind_of_error hrun]
      refine ⟨_, .failed (Work.run_bind_of_error hrun _), ?_⟩
      exact (Work.asked_bind_of_error hrun _).symm.trans (List.append_nil _).symm
    | ok rows =>
      rw [Work.run_bind_of_ok hrun, Work.asked_bind_of_ok hrun]
      obtain ⟨history, hperforms, hcalls⟩ := hemit rows c' w'
      rw [← List.append_nil (rows.map _)] at hperforms
      refine ⟨_, .next (Work.run_bind_of_ok hrun _) hperforms, ?_⟩
      rw [List.flatMap_cons, hcalls]
      refine congrArg (· ++ _) ?_
      exact ((Work.asked_bind_of_ok hrun _).trans (List.append_nil _)).symm

/-! ## A run -/

variable {o : Outline} {c : Context}

theorem enacts_resolveFields (s : Section) (c : Context) :
    Enacts answer roots names (resolveFields s names) ((s.keys c.document).map (.resolve s)) c :=
  (enacts_forEach (x := resolveField s names) (d := .resolve s) (fun _ => Work.keeps_unit _)
    (fun _ _ _ => enacts_singleton rfl) _ c rfl).congr rfl

theorem enacts_envs (ho : outline c.document = o) :
    Enacts answer roots names (resolveFields .envs names) (planned o .envs) c :=
  ho ▸ enacts_resolveFields .envs c

theorem enacts_vars (ho : outline c.document = o) :
    Enacts answer roots names (resolveFields .vars names) (planned o .vars) c :=
  ho ▸ enacts_resolveFields .vars c

theorem enacts_resolveRemoteVars (ho : outline c.document = o) :
    Enacts answer roots names (resolveRemoteVars roots.source names) (planned o .remoteVars) c := by
  subst ho
  exact (enacts_forEach (x := resolveRemoteVar roots.source names) (d := .request)
    (fun _ => Work.keeps_unit _) (fun _ _ _ => enacts_singleton rfl) _ c rfl).congr rfl

/-- All commands of a phase run with the envs that the first one finds. -/
theorem enacts_runCommands (hooks : Hooks) (commands : Document → List String) (c : Context) :
    Enacts answer roots names (runCommands hooks.phase roots.output names commands)
      ((commands c.document).map (.command hooks)) c := by
  refine (enacts_forEach (f := Context.document) (t := c.document)
    (x := runCommand hooks.phase roots.output (commandEnvs c.document) names)
    (fun text => (runCommand_evaluates _ _ _ names text).keeps_document)
    (fun text c' hc' => enacts_singleton ?_) _ c rfl).congr rfl
  rw [← hc']
  rfl

theorem enacts_pre (ho : outline c.document = o) :
    Enacts answer roots names
      (runCommands .executesPre roots.output names Document.preCommands) (planned o .pre) c :=
  ho ▸ enacts_runCommands .pre Document.preCommands c

theorem enacts_post (ho : outline c.document = o) :
    Enacts answer roots names
      (runCommands .executesPost roots.output names Document.postCommands) (planned o .post) c :=
  ho ▸ enacts_runCommands .post Document.postCommands c

theorem enacts_emitTemplates (hfree : Range.IsFree 0 names) (ho : outline c.document = o) :
    Enacts answer roots names (emitTemplates roots names) (planned o .templates) c := by
  subst ho
  refine (enacts_forEach
    (x := fun entry => survey names entry.1 entry.2 >>=
      forEach (Emission.emit roots entry.1 entry.2)) (fun _ => Work.keeps_unit _)
    (fun entry c' _ => enacts_template entry.1 entry.2 c') _ c rfl).congr ?_
  exact congrFun (emitEntries_eq hfree c.document.templates.entries) c

theorem resolveFields_keeps (s : Section) (names : Bindings) :
    Work.Keeps (fun c => outline c.document) (resolveFields s names) :=
  Work.keeps_get.bind fun _ => forEach_keeps (resolveField_keeps s names) _

theorem resolveRemoteVars_keeps (sourceRoot : String) (names : Bindings) :
    Work.Keeps (fun c => outline c.document) (resolveRemoteVars sourceRoot names) :=
  Work.keeps_get.bind fun _ =>
    forEach_keeps (resolveRemoteVar_keeps outline_setResponse sourceRoot names) _

theorem runCommands_keeps (phase : Phase) (output : String) (names : Bindings)
    (commands : Document → List String) :
    Work.Keeps (fun c => outline c.document) (runCommands phase output names commands) :=
  Work.keeps_get.bind fun _ =>
    forEach_keeps (fun text =>
      (runCommand_evaluates phase output _ names text).keeps_document.ofDocument outline) _

theorem emitTemplates_keeps (hfree : Range.IsFree 0 names) :
    Work.Keeps (fun c => outline c.document) (emitTemplates roots names) := by
  refine Work.keeps_get.bind fun c => ?_
  rw [emitEntries_eq hfree]
  refine forEach_keeps (fun entry => Work.Keeps.ofDocument ?_ outline) _
  exact (survey_evaluates names entry.1 entry.2).keeps_document.bind fun _ =>
    forEach_keeps (fun row => (Emission.emit_evaluates roots entry.1 entry.2 row).keeps_document) _

/-- A run performs the schedule of its document. -/
theorem enacts_run (roots : Emission.Roots) (c : Context) :
    Enacts answer roots (.standard c.project) (run roots) (schedule (outline c.document)) c := by
  generalize ho : outline c.document = o
  have hfree := Range.isFree_standard c.project
  generalize hnames : Bindings.standard c.project = names at hfree
  have hresolve : Enacts answer roots names (resolve roots names)
      (planned o .envs ++ (planned o .vars ++ planned o .remoteVars)) c := by
    refine (enacts_envs ho).bind (resolveFields_keeps .envs names) fun c₁ h₁ => ?_
    refine (enacts_vars (h₁.trans ho)).bind (resolveFields_keeps .vars names) fun c₂ h₂ => ?_
    exact enacts_resolveRemoteVars (h₂.trans (h₁.trans ho))
  have hkeeps : Work.Keeps (fun c => outline c.document) (resolve roots names) :=
    (resolveFields_keeps .envs names).bind fun _ => (resolveFields_keeps .vars names).bind fun _ =>
      resolveRemoteVars_keeps roots.source names
  have hrest : ∀ c₁, outline c₁.document = outline c.document → Enacts answer roots names
      (makeOutput roots.output >>= fun _ =>
        runCommands .executesPre roots.output names Document.preCommands >>= fun _ =>
        emitTemplates roots names >>= fun _ =>
        runCommands .executesPost roots.output names Document.postCommands)
      (planned o .output ++ (planned o .pre ++ (planned o .templates ++ planned o .post))) c₁ := by
    intro c₁ h₁
    have houtput : Enacts answer roots names (makeOutput roots.output) (planned o .output) c₁ :=
      enacts_singleton rfl
    refine houtput.bind (f := fun c => outline c.document) (Work.keeps_ofSystem _) fun c₂ h₂ => ?_
    have ho₂ := h₂.trans (h₁.trans ho)
    refine (enacts_pre ho₂).bind (runCommands_keeps _ _ names _) fun c₃ h₃ => ?_
    refine (enacts_emitTemplates hfree (h₃.trans ho₂)).bind (emitTemplates_keeps hfree)
      fun c₄ h₄ => ?_
    exact enacts_post (h₄.trans (h₃.trans ho₂))
  have hall := hresolve.bind hkeeps hrest
  have hschedule : schedule o = (planned o .envs ++ (planned o .vars ++ planned o .remoteVars)) ++
      (planned o .output ++ (planned o .pre ++ (planned o .templates ++ planned o .post))) := by
    simp only [schedule, Stage.all, List.flatMap_cons, List.flatMap_nil, List.append_nil,
      List.append_assoc]
  rw [hschedule]
  refine hall.congr ?_
  subst hnames
  rfl

end Performance

end Generation

end Scaffold

import Scaffold.Launch
import Scaffold.Proofs.Emission.Splicing
import Scaffold.Proofs.Generation.Schedule
import Scaffold.Proofs.Import.Acts

/-!
# Launch — what a run has done by the time it may fail

A run prepares before it delivers: the output directory is checked, the project is read, the
document is loaded with its imports, and envs, vars and remote variables are resolved (`prepare`).
Only what follows makes directories, writes files or runs commands (`deliver`). A run that does not
get through its preparation has therefore only looked around (`Harmless`), whatever it has met: its
files are as they were.
-/

set_option autoImplicit false

namespace Scaffold

/-! ## Calls that do no harm -/

/-- The call leaves files and directories as they are, and runs no command. -/
def Harmless : SystemCall → Prop
  | .makeDirectory _ | .write _ _ | .copy _ _ | .execute _ => False
  | .kind _ | .read _ | .canonical _ | .exchange _ | .report _ => True

/-- Questions do no harm, and neither does the report. -/
theorem harmless_of_only {call : SystemCall} (h : Only [.inquiry, .report] call) :
    Harmless call := by
  cases call with
  | makeDirectory | write | copy | execute => simp [Only, SystemCall.effect] at h
  | kind | read | canonical | exchange | report => trivial

/-- On a machine, calls that do no harm leave the tree as it is. -/
theorem Machine.tree_answer (surroundings : Surroundings) {call : SystemCall} (h : Harmless call)
    (m : Machine) : (answer surroundings call m).2.tree = m.tree := by
  cases call with
  | makeDirectory | write | copy | execute => exact h.elim
  | kind | read | canonical | exchange | report => rfl

/-- What no harmless call changes, harmless calls in a row do not change. -/
theorem Dialogue.keeps_of_harmless {α σ τ : Type} {answer : (q : SystemCall) → σ → q.Answer × σ}
    {f : σ → τ} (hanswer : ∀ call, Harmless call → ∀ s, f (answer call s).2 = f s)
    (x : System α) (s : σ) (h : ∀ call ∈ x.asked answer s, Harmless call) :
    f (x.run answer s).2 = f s := by
  rw [Dialogue.run_snd]
  generalize x.asked answer s = calls at h
  induction calls generalizing s with
  | nil => rfl
  | cons call calls ih =>
    have hrest := ih (answer call s).2 fun call' hmem => h call' (List.mem_cons_of_mem call hmem)
    exact hrest.trans (hanswer call (h call List.mem_cons_self) s)

/-! ## Loading -/

namespace Loader

theorem fetchFile_harmless (path : String) : (fetchFile path).Asks Harmless := by
  refine Dialogue.Asks.bind (System.asks_call trivial) fun found => ?_
  split
  · refine Dialogue.Asks.bind (System.asks_call trivial) fun content => ?_
    split <;> trivial
  · trivial

theorem fetchWeb_harmless (address : String) : (fetchWeb address).Asks Harmless := by
  rw [fetchWeb]
  split
  · trivial
  · dsimp only
    split
    · trivial
    · refine Dialogue.Asks.bind (System.asks_call trivial) fun reply => ?_
      split
      · trivial
      · split <;> trivial

/-- Whatever is loaded from wherever, it is only looked at. -/
theorem load_harmless (source : Source) (room : Nat) :
    (everywhere.load source room).Asks Harmless := by
  have hact (a : Act) : (everywhere.act a).Asks Harmless := by
    cases a with
    | call chain source => trivial
    | identity source =>
      cases source with
      | file path => exact Dialogue.Asks.bind (System.asks_call trivial) fun _ => trivial
      | web address => trivial
    | fetch source =>
      cases source with
      | file path => exact fetchFile_harmless path
      | web address => exact fetchWeb_harmless address
  rw [load_eq_lead, map_eq_pure_bind]
  exact Dialogue.Asks.bind (Dialogue.asks_lead hact _) fun _ => trivial

end Loader

/-! ## Resolving -/

namespace Generation

theorem forEach_calls {α : Type} {P : SystemCall → Prop} {f : α → Work Unit}
    (h : ∀ a, Work.Calls P (f a)) (as : List α) : Work.Calls P (forEach f as) := by
  induction as with
  | nil => exact Work.calls_pure _
  | cons a as ih => exact (h a).bind fun _ => ih

theorem resolveFields_harmless (s : Section) (names : Bindings) :
    Work.Calls Harmless (resolveFields s names) := by
  refine Work.calls_get.bind fun c => forEach_calls (fun key c' => ?_) _
  exact (resolveField_calls s names key c').mono fun call hcall =>
    harmless_of_only (List.mem_cons_of_mem _ hcall)

theorem resolveRemoteVars_harmless (sourceRoot : String) (names : Bindings) :
    Work.Calls Harmless (resolveRemoteVars sourceRoot names) := by
  refine Work.calls_get.bind fun c => forEach_calls (fun name c' => ?_) _
  refine (resolveRemoteVar_calls sourceRoot names name c').mono fun call hcall =>
    harmless_of_only ?_
  rw [Deed.effects] at hcall
  split at hcall
  · exact hcall
  · exact List.mem_cons_of_mem _ hcall

/-- Envs, vars and remote variables are resolved without harm. -/
theorem resolve_harmless (roots : Emission.Roots) (names : Bindings) :
    Work.Calls Harmless (resolve roots names) :=
  (resolveFields_harmless .envs names).bind fun _ =>
    (resolveFields_harmless .vars names).bind fun _ =>
      resolveRemoteVars_harmless roots.source names

/-- What a run does once everything is resolved. -/
def deliver (roots : Emission.Roots) (names : Bindings) : Work Unit := do
  makeOutput roots.output
  runCommands .executesPre roots.output names Document.preCommands
  emitTemplates roots names
  runCommands .executesPost roots.output names Document.postCommands

theorem run_eq (roots : Emission.Roots) (c : Context) :
    run roots c = (resolve roots (.standard c.project) >>= fun _ =>
      deliver roots (.standard c.project)) c := rfl

end Generation

/-! ## Preparing -/

namespace Launch

open Calendar (Clock)
open CommandLine (Options)

/-- The directories of a run. -/
def rootsOf (o : Options) : Emission.Roots := ⟨outputOf o, sourceRootOf o⟩

/-- All that a run does before it makes the output directory: it checks that directory, reads the
project, loads the document with its imports, and resolves envs, vars and remote variables. -/
def prepare (o : Options) (environment : List (String × String)) (clock : Clock) :
    System (Except Error (Project × Context)) := do
  match ← checkOutput o with
  | .error e => return .error e
  | .ok () =>
    match projectOf o with
    | .error e => return .error e
    | .ok project =>
      match ← Loader.everywhere.load (Source.ofText o.template) with
      | .error e => return .error e
      | .ok document => do
        let resolved ← Generation.resolve (rootsOf o) (.standard project)
          { document, project, environment, clock }
        return resolved.1.map fun _ => (project, resolved.2)

/-- What a run does once it is prepared. -/
def deliver (o : Options) : Except Error (Project × Context) → System (Except Error Unit)
  | .error e => return .error e
  | .ok (project, c) => Prod.fst <$> Generation.deliver (rootsOf o) (.standard project) c

/-- A run prepares, and then delivers. -/
theorem run_eq (o : Options) (environment : List (String × String)) (clock : Clock) :
    run o environment clock = prepare o environment clock >>= deliver o := by
  rw [run, prepare, bind_assoc]
  refine bind_congr fun checked => ?_
  cases checked with
  | error e => rfl
  | ok _ =>
    cases projectOf o with
    | error e => rfl
    | ok project =>
      dsimp only
      rw [generate, bind_assoc]
      refine bind_congr fun loaded => ?_
      cases loaded with
      | error e => rfl
      | ok document =>
        dsimp only
        rw [Generation.run_eq, bind_assoc]
        refine (bind_assoc _ _ _).trans (bind_congr ?_)
        rintro ⟨e | _, c⟩
        · rfl
        · exact (map_eq_pure_bind _ _).symm

/-- To prepare is to look around, whatever there is to see. -/
theorem prepare_harmless (o : Options) (environment : List (String × String)) (clock : Clock) :
    (prepare o environment clock).Asks Harmless := by
  have hcheck : (checkOutput o).Asks Harmless := by
    refine Dialogue.Asks.bind (System.asks_call trivial) fun found => ?_
    split <;> trivial
  refine hcheck.bind fun checked => ?_
  split
  · trivial
  split
  · trivial
  refine Dialogue.Asks.bind (Loader.load_harmless _ _) fun loaded => ?_
  split
  · trivial
  · exact Dialogue.Asks.bind (Generation.resolve_harmless _ _ _) fun _ => trivial

section Running

variable {σ : Type} {answer : (q : SystemCall) → σ → q.Answer × σ} {o : Options} {s : σ}
  (environment : List (String × String)) (clock : Clock)

/-- A run that does not get through its preparation ends there. -/
theorem run_of_prepare_error {environment : List (String × String)} {clock : Clock} {e : Error}
    (h : ((prepare o environment clock).run answer s).1 = .error e) :
    ((run o environment clock).run answer s).1 = .error e ∧
      (run o environment clock).asked answer s = (prepare o environment clock).asked answer s := by
  rw [run_eq]
  constructor
  · refine (congrArg Prod.fst (Dialogue.run_bind answer _ (deliver o) s)).trans ?_
    rw [h]
    rfl
  · refine (Dialogue.asked_bind _ (deliver o) s).trans ?_
    rw [h]
    exact List.append_nil _

/-- Where something is in the place of the output directory, and nothing asks to write into it, a
run ends with the first look. -/
theorem run_of_output_exists (hexists : (answer (.kind (outputOf o)) s).1.isSome = true)
    (hforce : o.force = false) :
    ((run o environment clock).run answer s).1 = .error (.outputDirectoryExists (outputOf o)) ∧
      (run o environment clock).asked answer s = [.kind (outputOf o)] := by
  have hrefused : ((answer (.kind (outputOf o)) s).1.isSome && !o.force) = true := by
    rw [hexists, hforce]
    rfl
  have hcheck : (checkOutput o).run answer s =
      (.error (.outputDirectoryExists (outputOf o)), (answer (.kind (outputOf o)) s).2) := by
    change Dialogue.run answer (ite _ _ _) _ = _
    rw [if_pos hrefused]
    rfl
  have hasked : (checkOutput o).asked answer s = [.kind (outputOf o)] := by
    change _ :: Dialogue.asked answer (ite _ _ _) _ = _
    rw [if_pos hrefused]
    rfl
  constructor
  · refine (congrArg Prod.fst (Dialogue.run_bind answer (checkOutput o) _ s)).trans ?_
    rw [hcheck]
    rfl
  · refine (Dialogue.asked_bind (checkOutput o) _ s).trans ?_
    rw [hcheck, hasked]
    rfl

end Running

/-- A run that is refused its output directory has looked at that directory and done nothing else;
a run that fails anywhere in its preparation has sent requests and read files at most: every call
that it has made is harmless, and the disk, that is whatever no harmless call changes, is as it
was. -/
theorem failed_preparation_is_harmless {σ τ : Type} (answer : (q : SystemCall) → σ → q.Answer × σ)
    (disk : σ → τ)
    (hdisk : ∀ call, Harmless call → ∀ s, disk (answer call s).2 = disk s) (o : Options)
    (environment : List (String × String)) (clock : Clock) (s : σ) :
    ((answer (.kind (outputOf o)) s).1.isSome = true → o.force = false →
      ((run o environment clock).run answer s).1 = .error (.outputDirectoryExists (outputOf o)) ∧
      (run o environment clock).asked answer s = [.kind (outputOf o)] ∧
      disk ((run o environment clock).run answer s).2 = disk s) ∧
    (∀ e, ((prepare o environment clock).run answer s).1 = .error e →
      ((run o environment clock).run answer s).1 = .error e ∧
      (run o environment clock).asked answer s = (prepare o environment clock).asked answer s ∧
      (∀ call ∈ (run o environment clock).asked answer s, Harmless call) ∧
      disk ((run o environment clock).run answer s).2 = disk s) := by
  constructor
  · intro hexists hforce
    obtain ⟨hresult, hasked⟩ :=
      run_of_output_exists environment clock hexists hforce
    refine ⟨hresult, hasked, Dialogue.keeps_of_harmless hdisk _ s ?_⟩
    rw [hasked]
    intro call hmem
    rw [List.mem_singleton.1 hmem]
    trivial
  · intro e he
    obtain ⟨hresult, hasked⟩ := run_of_prepare_error he
    have hcalls : ∀ call ∈ (run o environment clock).asked answer s, Harmless call := by
      rw [hasked]
      exact (prepare_harmless o environment clock).forall_asked s
    exact ⟨hresult, hasked, hcalls, Dialogue.keeps_of_harmless hdisk _ s hcalls⟩

/-- A command line that names its output directory. -/
def intoOut : Options where
  template := "t.yml"
  outputDir := some "out"
  projectInfo := none
  force := false
  verbose := false
  quiet := false

/-- A machine on which there is a document with a var that has no value. -/
def unresolvable (others : List (Place × Entry)) : Machine where
  tree := { entries :=
    (["t.yml"], .file (Utf8.ofString "vars:\n  a: x\n  b: '\x7b\x7b a + \x7d\x7d'\n")) :: others }

/-- Where the output directory is taken, nothing but that is found out; where it is not, the var
is met, and the files stay as they are. -/
theorem failed_preparation_is_harmless_unresolvable :
    (((run intoOut [] 0).run (Machine.answer Emission.idle)
        (unresolvable [(["out"], .directory)])).1 = .error (.outputDirectoryExists "out") ∧
      (run intoOut [] 0).asked (Machine.answer Emission.idle)
        (unresolvable [(["out"], .directory)]) = [.kind "out"]) ∧
    ∃ e : Error, ((run intoOut [] 0).run (Machine.answer Emission.idle) (unresolvable [])).1 =
        .error e ∧
      ((run intoOut [] 0).run (Machine.answer Emission.idle) (unresolvable [])).2.tree =
        (unresolvable []).tree := by
  have hdisk : ∀ call, Harmless call → ∀ m : Machine,
      (Machine.answer Emission.idle call m).2.tree = m.tree :=
    fun call h m => Machine.tree_answer Emission.idle h m
  have hexists : (Machine.answer Emission.idle (.kind (outputOf intoOut))
      (unresolvable [(["out"], .directory)])).1.isSome = true := by decide +kernel
  obtain ⟨hresult, hasked, -⟩ := (failed_preparation_is_harmless (Machine.answer Emission.idle)
    Machine.tree hdisk intoOut [] 0 (unresolvable [(["out"], .directory)])).1 hexists rfl
  refine ⟨⟨hresult, hasked⟩, ?_⟩
  cases hprepare : ((prepare intoOut [] 0).run (Machine.answer Emission.idle)
      (unresolvable [])).1 with
  | ok prepared =>
    have hfails : ((prepare intoOut [] 0).run (Machine.answer Emission.idle)
      (unresolvable [])).1.toBool = false := by decide +kernel
    rw [hprepare] at hfails
    cases hfails
  | error e =>
    obtain ⟨hfailed, -, -, htree⟩ := (failed_preparation_is_harmless
      (Machine.answer Emission.idle) Machine.tree hdisk intoOut [] 0 (unresolvable [])).2 e hprepare
    exact ⟨e, hfailed, htree⟩

end Launch

end Scaffold

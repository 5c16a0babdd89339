import Scaffold.Emission
import Scaffold.Proofs.Evaluation
import Scaffold.Remote.Resolution

/-!
# Work — what work calls, and what it leaves alone

Work is judged by two bounds that hold however its calls are answered: what it can call at most
(`Calls`), and which part of the context it leaves alone (`Keeps`). Both go through a sequence of
work, so that they are shown for the work of a run part by part. Most of that work is made of
evaluations and calls (`Evaluates`), and for that reason leaves the document alone.
-/

set_option autoImplicit false

namespace Scaffold

/-! ## Classes of calls -/

/-- What calls are for. -/
inductive Effect
  /-- An entry of the report. -/
  | report
  /-- A question about files that are used, or to the network. -/
  | inquiry
  /-- What makes directories and files, and the question whether that is needed. -/
  | creation
  /-- A command. -/
  | command
  deriving DecidableEq, Repr

/-- What a call is for. -/
def SystemCall.effect : SystemCall → Effect
  | .report _ => .report
  | .read _ | .canonical _ | .exchange _ => .inquiry
  | .kind _ | .makeDirectory _ | .write _ _ | .copy _ _ => .creation
  | .execute _ => .command

/-- The command that a call runs. -/
def SystemCall.command? : SystemCall → Option Hook.Command
  | .execute command => some command
  | _ => none

/-- Only calls for certain purposes. -/
def Only (effects : List Effect) (call : SystemCall) : Prop := call.effect ∈ effects

/-- Calls that are not for commands run none. -/
theorem filterMap_command?_eq_nil {effects : List Effect} {calls : List SystemCall}
    (h : ∀ call ∈ calls, Only effects call) (heffects : Effect.command ∉ effects) :
    calls.filterMap SystemCall.command? = [] := by
  refine List.filterMap_eq_nil_iff.2 fun call hmem => ?_
  have hcall := h call hmem
  cases call with
  | execute command => exact absurd hcall heffects
  | _ => rfl

namespace System

theorem asks_call {P : SystemCall → Prop} {c : SystemCall} (h : P c) : (call c).Asks P :=
  ⟨h, fun _ => trivial⟩

variable {effects : List Effect}

theorem asks_reportAll (entries : List Log.Entry) (h : Effect.report ∈ effects) :
    (reportAll entries).Asks (Only effects) := by
  induction entries with
  | nil => trivial
  | cons entry entries ih => exact Dialogue.Asks.bind (asks_call h) fun _ => ih

theorem asks_makeChain (paths : List String) (h : Effect.creation ∈ effects) :
    (makeChain paths).Asks (Only effects) := by
  have hunless (path : String) (fault : FileFault) :
      (unlessDirectory path fault).Asks (Only effects) := by
    refine Dialogue.Asks.bind (asks_call h) fun found => ?_
    split <;> trivial
  induction paths with
  | nil => trivial
  | cons path paths ih =>
    rw [makeChain]
    split
    · trivial
    · refine Dialogue.Asks.bind (asks_call h) fun made => ?_
      split
      · trivial
      · refine Dialogue.Asks.bind ih fun above => ?_
        split
        · trivial
        · refine Dialogue.Asks.bind (asks_call h) fun again => ?_
          split
          · trivial
          · exact hunless _ _
      · exact hunless _ _

theorem asks_makeDirectories (path : String) (h : Effect.creation ∈ effects) :
    (makeDirectories path).Asks (Only effects) :=
  asks_makeChain _ h

theorem asks_makeParents (path : String) (h : Effect.creation ∈ effects) :
    (makeParents path).Asks (Only effects) := by
  rw [makeParents]
  split
  · trivial
  · refine Dialogue.Asks.bind (asks_makeDirectories _ h) fun made => ?_
    split <;> trivial

end System

/-! ## Bounds of work -/

namespace Work

variable {α β τ : Type} {P : SystemCall → Prop} {f : Context → τ}

/-- The work calls at most what satisfies the predicate. -/
def Calls (P : SystemCall → Prop) (x : Work α) : Prop :=
  ∀ c, (x c).Asks P

/-- The work leaves a part of the context alone. -/
def Keeps (f : Context → τ) (x : Work α) : Prop :=
  ∀ c, (x c).Yields fun r => f r.2 = f c

theorem get_bind (g : Context → Work α) (c : Context) : (Work.get >>= g) c = g c c := rfl

theorem bind_assoc {γ : Type} (x : Work α) (g : α → Work β) (k : β → Work γ) :
    (x >>= g) >>= k = x >>= fun a => g a >>= k := by
  funext c
  refine (Dialogue.bind_assoc _ _ _).trans (Dialogue.bind_congr rfl fun r => ?_)
  obtain ⟨result, c'⟩ := r
  cases result <;> rfl

theorem ofStep_bind_of_ok {x : Step α} {c c' : Context} {a : α} (h : x c = (.ok a, c'))
    (g : α → Work β) : (Work.ofStep x >>= g) c = g a c' := by
  change Work.bind (Work.ofStep x) g c = _
  rw [Work.bind, Work.ofStep, h]
  rfl

theorem ofStep_bind_of_error {x : Step α} {c c' : Context} {e : Error}
    (h : x c = (.error e, c')) (g : α → Work β) :
    (Work.ofStep x >>= g) c = .done (.error e, c') := by
  change Work.bind (Work.ofStep x) g c = _
  rw [Work.bind, Work.ofStep, h]
  rfl

section Running

variable {σ : Type} {answer : (q : SystemCall) → σ → q.Answer × σ} {x : Work α} {c c' : Context}
  {s s' : σ}

theorem run_bind_of_ok {a : α} (h : (x c).run answer s = ((.ok a, c'), s')) (g : α → Work β) :
    ((x >>= g) c).run answer s = (g a c').run answer s' := by
  refine (Dialogue.run_bind answer (x c) _ s).trans ?_
  rw [h]

theorem run_bind_of_error {e : Error} (h : (x c).run answer s = ((.error e, c'), s'))
    (g : α → Work β) : ((x >>= g) c).run answer s = ((.error e, c'), s') := by
  refine (Dialogue.run_bind answer (x c) _ s).trans ?_
  rw [h]
  rfl

theorem asked_bind_of_ok {a : α} (h : (x c).run answer s = ((.ok a, c'), s')) (g : α → Work β) :
    ((x >>= g) c).asked answer s = (x c).asked answer s ++ (g a c').asked answer s' := by
  refine (Dialogue.asked_bind (x c) _ s).trans ?_
  rw [h]

theorem asked_bind_of_error {e : Error} (h : (x c).run answer s = ((.error e, c'), s'))
    (g : α → Work β) : ((x >>= g) c).asked answer s = (x c).asked answer s := by
  refine (Dialogue.asked_bind (x c) _ s).trans ?_
  rw [h]
  exact List.append_nil _

end Running

theorem asked_ofSystem {σ : Type} {answer : (q : SystemCall) → σ → q.Answer × σ}
    (x : System (Except Error α)) (c : Context) (s : σ) :
    (Work.ofSystem x c).asked answer s = x.asked answer s :=
  (Dialogue.asked_bind _ _ s).trans (List.append_nil _)

/-- A call leaves the context alone. -/
theorem run_ofSystem {σ : Type} {answer : (q : SystemCall) → σ → q.Answer × σ}
    (x : System (Except Error α)) (c : Context) (s : σ) :
    (Work.ofSystem x c).run answer s = (((x.run answer s).1, c), (x.run answer s).2) :=
  Dialogue.run_bind answer x _ s

/-- Replacing the result of work is no call. -/
theorem asked_bind_pure {σ : Type} {answer : (q : SystemCall) → σ → q.Answer × σ} (x : Work α)
    (b : β) (c : Context) (s : σ) :
    ((x >>= fun _ => pure b) c).asked answer s = (x c).asked answer s := by
  refine (Dialogue.asked_bind _ _ s).trans ?_
  obtain ⟨result, c'⟩ := ((x c).run answer s).1
  cases result <;> exact List.append_nil _

theorem calls_pure (a : α) : Calls P (pure a : Work α) := fun _ => trivial

theorem calls_fail (e : Error) : Calls P (Work.fail e : Work α) := fun _ => trivial

theorem calls_get : Calls P Work.get := fun _ => trivial

theorem calls_modify (g : Context → Context) : Calls P (Work.modify g) := fun _ => trivial

theorem calls_ofStep (x : Step α) : Calls P (Work.ofStep x) := fun _ => trivial

theorem calls_ofSystem {x : System (Except Error α)} (h : x.Asks P) :
    Calls P (Work.ofSystem x) :=
  fun _ => h.bind fun _ => trivial

theorem calls_report (block message : String) (h : ∀ entry, P (.report entry)) :
    Calls P (Work.report block message) :=
  calls_ofSystem (Dialogue.Asks.bind (System.asks_call (h _)) fun _ => trivial)

theorem Calls.bind {x : Work α} {g : α → Work β} (hx : Calls P x) (hg : ∀ a, Calls P (g a)) :
    Calls P (x >>= g) := by
  intro c
  refine (hx c).bind fun r => ?_
  obtain ⟨result, c'⟩ := r
  cases result with
  | ok a => exact hg a c'
  | error e => trivial

theorem Calls.settle {x : Work α} (hx : Calls P x) (g : Context → Context) :
    Calls P (Work.settle x g) :=
  fun c => (hx c).bind fun _ => trivial

/-- What is true of every context behind some work can be used for what follows. -/
theorem yields_bind {x : Work α} {g : α → Work β} {c : Context} {R : Context → Prop}
    {S : Except Error β × Context → Prop} (hx : (x c).Yields fun r => R r.2)
    (hok : ∀ a c', R c' → (g a c').Yields S) (herror : ∀ e c', R c' → S (.error e, c')) :
    ((x >>= g) c).Yields S := by
  refine hx.bind fun r hr => ?_
  obtain ⟨result, c'⟩ := r
  cases result with
  | ok a => exact hok a c' hr
  | error e => exact herror e c' hr

/-- Work that ends in a pure step ends in what that step makes of a result. -/
theorem yields_map (x : Work α) (g : α → β) (c : Context) :
    ((x >>= fun a => pure (g a)) c).Yields fun r => ∀ b, r.1 = .ok b → ∃ a, g a = b := by
  refine yields_bind (R := fun _ => True) (Dialogue.yields_of_forall (fun _ => trivial) _)
    (fun a c' _ b hb => ?_) fun e c' _ b hb => nomatch hb
  exact ⟨a, Except.ok.inj hb⟩

theorem keeps_pure (a : α) : Keeps f (pure a : Work α) := fun _ => rfl

theorem keeps_get : Keeps f Work.get := fun _ => rfl

theorem keeps_modify {g : Context → Context} (h : ∀ c, f (g c) = f c) :
    Keeps f (Work.modify g) := h

theorem keeps_ofStep {x : Step α} (h : Step.Keeps f x) : Keeps f (Work.ofStep x) := h

theorem keeps_ofSystem (x : System (Except Error α)) : Keeps f (Work.ofSystem x) := by
  intro c
  exact Dialogue.yields_bind fun _ => rfl

/-- There is always nothing that is left alone. -/
theorem keeps_unit (x : Work α) : Keeps (fun _ => ()) x :=
  fun c => Dialogue.yields_of_forall (fun _ => rfl) (x c)

theorem Keeps.bind {x : Work α} {g : α → Work β} (hx : Keeps f x) (hg : ∀ a, Keeps f (g a)) :
    Keeps f (x >>= g) := by
  intro c
  refine yields_bind (R := fun c' => f c' = f c) (hx c) (fun a c' hr => ?_) fun _ _ hr => hr
  exact (hg a c').mono fun _ h => h.trans hr

theorem Keeps.settle {x : Work α} (hx : Keeps f x) {g : Context → Context}
    (hg : ∀ c, f (g c) = f c) : Keeps f (Work.settle x g) :=
  fun c => (hx c).bind fun r hr => (hg r.2).trans hr

/-- What leaves the document alone leaves every part of it alone. -/
theorem Keeps.ofDocument {x : Work α} (h : Keeps Context.document x) (g : Document → τ) :
    Keeps (fun c => g c.document) x :=
  fun c => (h c).mono fun _ => congrArg g

theorem keeps_report (block message : String) : Keeps f (Work.report block message) :=
  keeps_ofSystem _

/-- The work is made of evaluations and calls. All else that it does, looking at the context apart,
has nothing to do with the document, and leaves a part of the context alone. -/
inductive Evaluates (f : Context → τ) : {α : Type} → Work α → Prop
  | ofStep {α : Type} {x : Step α} (h : x.Evaluates f) : Evaluates f (Work.ofStep x)
  | ofSystem {α : Type} {x : System (Except Error α)}
      (hmute : x.Yields (ErrorIn Error.NotOfExpression)) : Evaluates f (Work.ofSystem x)
  | get : Evaluates f Work.get
  | bind {α β : Type} {x : Work α} {g : α → Work β} (hx : Evaluates f x)
      (hg : ∀ a, Evaluates f (g a)) : Evaluates f (x >>= g)
  | settle {α : Type} {x : Work α} {g : Context → Context} (hx : Evaluates f x)
      (hblind : (Step.modify g).Blind) (hkeeps : ∀ c, f (g c) = f c) :
      Evaluates f (Work.settle x g)

theorem evaluates_pure (a : α) : Evaluates f (pure a : Work α) := .ofStep (Step.evaluates_pure a)

theorem evaluates_fail {e : Error} (h : e.NotOfExpression) : Evaluates f (Work.fail e : Work α) :=
  .ofStep (Step.evaluates_fail h)

theorem evaluates_modify {g : Context → Context} (hblind : (Step.modify g).Blind)
    (hkeeps : ∀ c, f (g c) = f c) : Evaluates f (Work.modify g) :=
  .ofStep (.modify hblind hkeeps)

/-- What leaves more alone leaves less alone. -/
theorem Evaluates.mono {υ : Type} {g : Context → υ} (hgf : ∀ c c', f c = f c' → g c = g c')
    {x : Work α} (h : Evaluates f x) : Evaluates g x := by
  induction h with
  | ofStep h => exact .ofStep (h.mono hgf)
  | ofSystem hmute => exact .ofSystem hmute
  | get => exact .get
  | bind _ _ ihx ihg => exact .bind ihx ihg
  | settle _ hblind hkeeps ih => exact .settle ih hblind fun c => hgf _ _ (hkeeps c)

/-- What neither the evaluations nor anything else of the work can change, the work leaves alone. -/
theorem Evaluates.keeps_of_blind {υ : Type} {g : Context → υ} (hg : ∀ c, g c.lasting = g c)
    (hblind : ∀ {β : Type} {y : Step β}, y.Blind → Step.Keeps f y → Step.Keeps g y) {x : Work α}
    (h : Evaluates f x) : Keeps g x := by
  induction h with
  | ofStep h => exact keeps_ofStep (h.keeps_of_blind hg hblind)
  | ofSystem => exact keeps_ofSystem _
  | get => exact keeps_get
  | bind _ _ ihx ihg => exact ihx.bind ihg
  | settle _ h hkeeps ih => exact ih.settle (hblind h hkeeps)

theorem Evaluates.keeps (hf : ∀ c, f c.lasting = f c) {x : Work α} (h : Evaluates f x) :
    Keeps f x :=
  h.keeps_of_blind hf fun _ hkeeps => hkeeps

theorem Evaluates.keeps_document {x : Work α} (h : Evaluates f x) : Keeps Context.document x :=
  h.keeps_of_blind (fun _ => rfl) fun hblind _ c =>
    congrArg (·.2.document) (hblind c c.document)

end Work

open Work (Calls Keeps)

/-! ## Remote variables -/

namespace Resolution

variable {τ : Type} {f : Context → τ}

theorem readFiles_calls (name : String) (files : Pairs) :
    Calls (Only [.inquiry]) (readFiles name files) := by
  induction files with
  | nil => exact Work.calls_pure _
  | cons file files ih =>
    refine Work.Calls.bind (Work.calls_ofSystem ?_) fun _ => ih.bind fun _ => Work.calls_pure _
    refine Dialogue.Asks.bind (System.asks_call List.mem_cons_self) fun content => ?_
    split <;> trivial

theorem readFiles_evaluates (name : String) (files : Pairs) :
    Work.Evaluates f (readFiles name files) := by
  induction files with
  | nil => exact Work.evaluates_pure _
  | cons file files ih =>
    refine Work.Evaluates.bind (.ofSystem fun content => ?_) fun _ =>
      ih.bind fun _ => Work.evaluates_pure _
    cases content <;> trivial

theorem readBody_calls (name : String) (body : PreparedBody) :
    Calls (Only [.inquiry]) (readBody name body) := by
  cases body with
  | none | raw | form => exact Work.calls_pure _
  | multipart files fields => exact (readFiles_calls name files).bind fun _ => Work.calls_pure _

theorem readBody_evaluates (name : String) (body : PreparedBody) :
    Work.Evaluates f (readBody name body) := by
  cases body with
  | none | raw | form => exact Work.evaluates_pure _
  | multipart files fields =>
    exact (readFiles_evaluates name files).bind fun _ => Work.evaluates_pure _

theorem send_calls (name : String) (request : Http.Request) :
    Calls (Only [.inquiry]) (send name request) := by
  refine Work.calls_ofSystem ?_
  refine Dialogue.Asks.bind (System.asks_call List.mem_cons_self) fun reply => ?_
  split <;> trivial

/-- A remote variable reads files and sends a request, and that is all. -/
theorem resolve_calls (sourceRoot name : String) (spec : RemoteSpec) (names : Bindings) :
    Calls (Only [.inquiry]) (resolve sourceRoot name spec names) := by
  refine (Work.calls_ofStep _).bind fun p => ?_
  rw [execute]
  split
  · exact Work.calls_fail _
  · refine (readBody_calls name _).bind fun body => ?_
    split
    · exact Work.calls_fail _
    · exact (send_calls name _).bind fun _ => Work.calls_ofStep _

/-- A remote variable is resolved by evaluations and calls. -/
theorem resolve_evaluates (hdata : ∀ c data, f (Context.setData c data) = f c)
    (sourceRoot name : String) (spec : RemoteSpec) (names : Bindings) :
    Work.Evaluates f (resolve sourceRoot name spec names) := by
  refine Work.Evaluates.bind (.ofStep (Prepared.ofSpec_evaluates hdata _ _ _ _)) fun p => ?_
  rw [execute]
  split
  · exact Work.evaluates_fail trivial
  · refine (readBody_evaluates name _).bind fun body => ?_
    split
    · exact Work.evaluates_fail trivial
    · refine Work.Evaluates.bind (.ofSystem fun reply => ?_) fun _ =>
        .ofStep (accept_evaluates hdata _ _ _ _)
      cases reply <;> trivial

theorem resolve_keeps_document (sourceRoot name : String) (spec : RemoteSpec) (names : Bindings) :
    Keeps Context.document (resolve sourceRoot name spec names) :=
  (resolve_evaluates (f := Context.afresh) (fun _ _ => rfl) sourceRoot name spec
    names).keeps_document

end Resolution

/-! ## Operations -/

namespace Emission

theorem planSegments_evaluates (names : Bindings) (segments : List String) (path : String) :
    Step.Evaluates Context.lasting (planSegments names segments path) := by
  induction segments generalizing path with
  | nil => exact Step.evaluates_pure _
  | cons segment segments ih => exact (evaluateText_evaluates segment names).bind fun _ => ih _

theorem planPath_evaluates (roots : Roots) (template : String) (names : Bindings) :
    Step.Evaluates Context.lasting (planPath roots template names) :=
  (evaluateText_evaluates template names).bind fun _ =>
    (planSegments_evaluates names _ _).bind fun _ => Step.evaluates_pure _

/-- Takes the blocks that are queued, for a content. -/
def takeBlocks (e : Evaluated) : Step (Bytes × List Bytes) := fun c =>
  (.ok (Utf8.ofString e.text, c.writes), { c with writes := [] })

/-- A content is evaluated, and then the blocks that it has queued are taken. -/
theorem planContent_eq (content : String) (names : Bindings) :
    planContent content names = evaluateContent content names >>= takeBlocks := by
  funext c
  change _ = Step.bind (evaluateContent content names) takeBlocks c
  rw [planContent, Step.bind]
  obtain ⟨result, c'⟩ := evaluateContent content names c
  cases result <;> rfl

theorem planContent_evaluates (content : String) (names : Bindings) :
    Step.Evaluates Context.lasting (planContent content names) := by
  rw [planContent_eq]
  exact (evaluateContent_evaluates content names).bind fun _ =>
    .quiet ⟨fun _ _ _ _ => rfl, fun _ => trivial⟩ fun _ => rfl

/-- Planning changes nothing but the slots. -/
theorem plan_evaluates (roots : Roots) (template : String) (spec : FileSpec) (names : Bindings) :
    Step.Evaluates Context.lasting (plan roots template spec names) := by
  refine (planPath_evaluates roots template names).bind fun target => ?_
  split
  · exact Step.evaluates_pure _
  · split
    · split
      · exact Step.evaluates_fail trivial
      · exact (planContent_evaluates _ names).bind fun _ => Step.evaluates_pure _
    · exact (evaluateText_evaluates _ names).bind fun _ => Step.evaluates_pure _

theorem asks_done (template what : String) : (done template what).Asks (Only [.report]) :=
  Dialogue.Asks.bind (System.asks_call List.mem_cons_self) fun _ => trivial

theorem asks_below {target : String} {next : System (Except Error Unit)}
    (h : next.Asks (Only [.creation, .report])) :
    (below target next).Asks (Only [.creation, .report]) := by
  refine Dialogue.Asks.bind (System.asks_makeParents target (by decide)) fun made => ?_
  split
  · trivial
  · exact h

/-- An operation makes directories and files and reports it. -/
theorem asks_apply (template : String) (operation : Operation) :
    (apply template operation).Asks (Only [.creation, .report]) := by
  have hdone (what : String) : (done template what).Asks (Only [.creation, .report]) :=
    (asks_done template what).mono fun _ h => List.mem_cons_of_mem _ h
  cases operation with
  | createDirectory target =>
    refine Dialogue.Asks.bind (System.asks_makeDirectories target (by decide)) fun made => ?_
    split
    · trivial
    · exact hdone _
  | copy source target =>
    refine asks_below (Dialogue.Asks.bind (System.asks_call List.mem_cons_self) fun copied => ?_)
    split
    · trivial
    · exact hdone _
  | write target content blocks =>
    refine asks_below (Dialogue.Asks.bind (System.asks_call List.mem_cons_self) fun written => ?_)
    split
    · trivial
    · trivial
    · exact hdone _

/-- Values that cannot be walked are refused by an error of the range. -/
theorem ofValuesFrom_errorIn {E : Error → Prop} (hrange : ∀ fault, E (.range fault))
    (values : List Expr.Value) (position : Nat) :
    ErrorIn E (RangeSource.ofValuesFrom position values) := by
  induction values generalizing position with
  | nil => trivial
  | cons v vs ih =>
    rw [RangeSource.ofValuesFrom]
    split
    · have hrest := ih (position + 1)
      cases hresult : RangeSource.ofValuesFrom (position + 1) vs with
      | ok sources => trivial
      | error e =>
        rw [hresult] at hrest
        exact hrest
    · exact hrange _

theorem done_yields {E : Error → Prop} (template what : String) :
    (done template what).Yields (ErrorIn E) :=
  fun _ => trivial

theorem below_yields {E : Error → Prop} (hfile : ∀ path reason, E (.fileWrite path reason))
    {target : String} {next : System (Except Error Unit)} (h : next.Yields (ErrorIn E)) :
    (below target next).Yields (ErrorIn E) := by
  refine Dialogue.yields_bind fun made => ?_
  split
  · exact hfile _ _
  · exact h

/-- An operation fails by a file or directory that cannot be written, and by nothing else. -/
theorem apply_yields {E : Error → Prop} (hfile : ∀ path reason, E (.fileWrite path reason))
    (template : String) (operation : Operation) :
    (apply template operation).Yields (ErrorIn E) := by
  cases operation with
  | createDirectory target =>
    refine Dialogue.yields_bind fun made => ?_
    split
    · exact hfile _ _
    · exact done_yields _ _
  | copy source target =>
    refine below_yields hfile fun copied => ?_
    cases copied with
    | error fault => exact hfile _ _
    | ok _ => exact done_yields _ _
  | write target content blocks =>
    refine below_yields hfile fun written => ?_
    cases written with
    | error fault => exact hfile _ _
    | ok _ =>
      dsimp only
      generalize (Splice.splice content blocks).fault = fault
      cases fault with
      | some fault => exact hfile _ _
      | none => exact done_yields _ _

theorem emit_calls (roots : Roots) (template : String) (spec : FileSpec) (names : Bindings) :
    Calls (Only [.creation, .report]) (emit roots template spec names) :=
  Work.Calls.settle ((Work.calls_ofStep _).bind fun _ =>
    Work.calls_ofSystem (asks_apply template _)) _

/-- A combination changes nothing but the slots. -/
theorem emit_evaluates (roots : Roots) (template : String) (spec : FileSpec) (names : Bindings) :
    Work.Evaluates Context.lasting (emit roots template spec names) := by
  refine .settle (.bind (.ofStep (plan_evaluates roots template spec names)) fun operation => ?_)
    (fun _ _ => rfl) fun _ => rfl
  exact .ofSystem (apply_yields (fun _ _ => trivial) template operation)

end Emission

end Scaffold

import Scaffold.Proofs.Evaluation
import Scaffold.Proofs.Expr.Composition

/-!
# Frame — what an evaluation leaves alone, and what it leaves behind

An expression is evaluated in the context of a run, and everything that it calls gets hold of that
context. Still, whatever the expression is and whatever comes of it, no more than the four slots can
be different afterwards, and the clock, which has been looked at as often as calls have asked for the
time. Two of the slots hold exactly what the calls have left there: the queue has grown by the blocks
of the calls of `writeBytes` that went through, and the sources of the range are those of the last
call of `pathRange` that did (`evaluate_changes`). A call of `pathRange` is refused
where the text has given `this` to something else than the run, and then it leaves nothing
(`refused_call_keeps_range`).
-/

set_option autoImplicit false

/-!
## Accounts — the calls of a whole evaluation

An account of a computation is a row of calls of the library between which the computation only
looks at the run (`Accounts`). What the calls leave there one after the other is all that the
computation leaves (`Accounts.run_snd`). Whatever is composed has an account, whatever it is
evaluated in and whatever comes of it (`Run.Composed.accountable`), and so has every evaluation of a
template (`exists_accounts`).
-/

namespace Scaffold.Expr

/-- The calls that a computation makes when it is led from a context on, in their order. Between
the calls it only looks at the run. -/
inductive Accounts {α : Type} : Asking α → Context → List LibraryCall → Prop
  | done (a : α) (c : Context) : Accounts (.done a) c []
  | look {q : Question} {next : q.Answer → Asking α} {c : Context} {calls : List LibraryCall}
      (hq : q.Looks) (h : Accounts (next (Context.answer q c).1) c calls) :
      Accounts (.ask q next) c calls
  | function (line : Nat) (name : String) (args : Arguments) (s : Evaluation)
      {next : Except Halt (Value × Evaluation) → Asking α} {c c' : Context}
      {result : Except Halt (Value × Evaluation)} {calls : List LibraryCall}
      (hcall : (Library.call line name args s).run Context.answer c = (result, c'))
      (h : Accounts (next result) c' calls) :
      Accounts ((Library.call line name args s).bind next) c
        (⟨false, name, args, s, result.isOk⟩ :: calls)
  | method (line : Nat) (name : String) (args : Arguments) (s : Evaluation)
      {next : Except Halt (Option Value × Evaluation) → Asking α} {c c' : Context}
      {result : Except Halt (Option Value × Evaluation)} {calls : List LibraryCall}
      (hcall : (Library.callMethod? line name args s).run Context.answer c = (result, c'))
      (h : Accounts (next result) c' calls) :
      Accounts ((Library.callMethod? line name args s).bind next) c
        (⟨true, name, args, s, result.isOk⟩ :: calls)

namespace Accounts

variable {α β : Type}

/-- What a computation leaves in the run is what its calls leave there. -/
theorem run_snd {d : Asking α} {c : Context} {calls : List LibraryCall}
    (h : Accounts d c calls) : (d.run Context.answer c).2 = LibraryCall.effects calls c := by
  induction h with
  | done a c => exact (LibraryCall.effects_nil c).symm
  | look hq _ ih => rw [Dialogue.run, answer_of_looks hq, ih]
  | function line name args s hcall _ ih =>
    rw [Dialogue.run_bind, hcall, ih, LibraryCall.effects_cons, Library.call_effect hcall]
  | method line name args s hcall _ ih =>
    rw [Dialogue.run_bind, hcall, ih, LibraryCall.effects_cons, Library.callMethod?_effect hcall]

theorem bind {d : Asking α} {f : α → Asking β} {c : Context} {calls calls' : List LibraryCall}
    (h : Accounts d c calls)
    (hf : Accounts (f (d.run Context.answer c).1) (d.run Context.answer c).2 calls') :
    Accounts (d.bind f) c (calls ++ calls') := by
  induction h with
  | done a c => exact hf
  | look hq _ ih =>
    rw [Dialogue.run, answer_of_looks hq] at hf
    exact .look hq (ih hf)
  | function line name args s hcall _ ih =>
    rw [Dialogue.run_bind, hcall] at hf
    rw [Dialogue.bind_assoc]
    exact .function line name args s hcall (ih hf)
  | method line name args s hcall _ ih =>
    rw [Dialogue.run_bind, hcall] at hf
    rw [Dialogue.bind_assoc]
    exact .method line name args s hcall (ih hf)

end Accounts

/-! ### Runs -/

namespace Run

variable {α : Type}

/-- Whatever state and context it begins in, the computation has an account of its calls. -/
def Accountable (x : Run α) : Prop := ∀ s c, ∃ calls, Accounts (x s) c calls

theorem Composed.accountable {x : Run α} (h : Composed x) : Accountable x := by
  induction h with
  | step f => exact fun s c => ⟨[], .done _ _⟩
  | halt => exact fun s c => ⟨[], .done _ _⟩
  | look hq => exact fun s c => ⟨[], .look hq (.done _ _)⟩
  | function line name args =>
    intro s c
    rw [← Dialogue.bind_done (Library.call line name args s)]
    exact ⟨_, .function line name args s rfl (.done _ _)⟩
  | method line name args =>
    intro s c
    rw [← Dialogue.bind_done (Library.callMethod? line name args s)]
    exact ⟨_, .method line name args s rfl (.done _ _)⟩
  | @bind _ _ x f _ _ hx hf =>
    intro s c
    obtain ⟨calls, hcalls⟩ := hx s c
    cases hresult : ((x s).run Context.answer c).1 with
    | error h =>
      refine ⟨calls ++ [], hcalls.bind ?_⟩
      rw [hresult]
      exact .done _ _
    | ok r =>
      obtain ⟨calls', hcalls'⟩ := hf r.1 r.2 ((x s).run Context.answer c).2
      refine ⟨calls ++ calls', hcalls.bind ?_⟩
      rw [hresult]
      exact hcalls'

end Run

/-- Every evaluation of a template has an account of its calls, whatever comes of it. -/
theorem exists_accounts (template : String) (names : Names) (c : Context) :
    ∃ calls, Accounts (render template names) c calls := by
  unfold render
  split
  · exact ⟨[], .done _ _⟩
  · dsimp only
    obtain ⟨calls, hcalls⟩ := ((Evaluate.within_composed _).2 _).accountable _ c
    refine ⟨calls ++ [], hcalls.bind ?_⟩
    split <;> exact .done _ _

end Scaffold.Expr

namespace Scaffold

open Scaffold.Expr (LibraryCall Value)

/-! ## Expressions -/

/-- An expression of a document. -/
structure Expression where
  text : String
  /-- Whether the blanks around it are a part of it, as they are in the content of a file. -/
  verbatim : Bool := false

namespace Expression

/-- Evaluates an expression, as it stands or without the blanks around it. -/
def evaluate (e : Expression) (names : Bindings) : Step Evaluated :=
  if e.verbatim then evaluateContent e.text names else Scaffold.evaluate e.text names

/-- The template that is rendered for an expression; a blank one stands for itself. -/
def template? (e : Expression) : Option String :=
  if Text.isBlankText e.text then none
  else some (if e.verbatim then e.text else Text.trim e.text)

variable {e : Expression} {names : Bindings} {c : Context} {calls : List LibraryCall}

theorem evaluate_of_blank (h : e.template? = none) : e.evaluate names = pure ⟨e.text, none⟩ := by
  have hblank : Text.isBlankText e.text := by simpa [template?] using h
  by_cases hverbatim : e.verbatim
  · rw [evaluate, if_pos hverbatim, evaluateContent, if_pos hblank]
  · rw [evaluate, if_neg hverbatim, Scaffold.evaluate, if_pos hblank]

theorem evaluate_of_template {template : String} (h : e.template? = some template) :
    e.evaluate names = render template names := by
  unfold template? at h
  split at h
  · cases h
  next hblank =>
    obtain rfl := Option.some.inj h
    by_cases hverbatim : e.verbatim
    · rw [evaluate, if_pos hverbatim, evaluateContent, if_neg hblank, if_pos hverbatim]
    · rw [evaluate, if_neg hverbatim, Scaffold.evaluate, if_neg hblank, if_neg hverbatim]

/-- The calls that the evaluation of an expression makes, in their order. -/
def Accounts (e : Expression) (names : Bindings) (c : Context) (calls : List LibraryCall) : Prop :=
  match e.template? with
  | none => calls = []
  | some template => Expr.Accounts (Expr.render template names.entries) c calls

theorem exists_accounts (e : Expression) (names : Bindings) (c : Context) :
    ∃ calls, e.Accounts names c calls := by
  unfold Accounts
  split
  · exact ⟨[], rfl⟩
  · exact Expr.exists_accounts _ _ c

end Expression

/-! ## Rendering -/

/-- What a rendered template comes to, by the context that it has left. -/
def settled (rendered : Except Expr.Halt String) (c : Context) :
    Except Error Evaluated × Context :=
  match rendered with
  | .error (.aborted _) => (.error .aborted, c)
  | .error (.failed failure) => (.error (.expression c.name failure.message), c.drain)
  | .ok text =>
    match c.error with
    | some message => (.error (.expression c.name message), c.drain)
    | none => (.ok ⟨text, c.returned⟩, c.drain)

/-- A template is rendered first, and then it is settled by what its calls have left. -/
theorem render_eq_settled {template : String} {names : Bindings} {c : Context}
    {calls : List LibraryCall} (h : Expr.Accounts (Expr.render template names.entries) c calls) :
    render template names c =
      settled ((Expr.render template names.entries).run Context.answer c).1
        (LibraryCall.effects calls c) := by
  rw [← h.run_snd, render]
  generalize (Expr.render template names.entries).run Context.answer c = left
  obtain ⟨rendered, c'⟩ := left
  cases rendered with
  | error halt => cases halt <;> rfl
  | ok text => rfl

/-- Settling empties slots, or leaves everything as it is. -/
theorem settled_snd (rendered : Except Expr.Halt String) (c : Context) :
    (settled rendered c).2 = c ∨ (settled rendered c).2 = c.drain := by
  unfold settled
  split
  · exact .inl rfl
  · exact .inr rfl
  · split <;> exact .inr rfl

/-! ## The frame -/

/-- A context is changed by calls, and by nothing else, as far as the slots for an error and for a
return value are left aside. -/
structure Context.ChangedBy (calls : List LibraryCall) (c c' : Context) : Prop where
  document : c'.document = c.document
  project : c'.project = c.project
  environment : c'.environment = c.environment
  /-- The clock has been looked at by the calls that ask for the time. -/
  clock : c'.clock = c.clock.later (calls.countP LibraryCall.looks)
  phase : c'.phase = c.phase
  name : c'.name = c.name
  data : c'.data = c.data
  /-- The queue has grown by the blocks of the successful calls of `writeBytes`. -/
  writes : c'.writes = c.writes ++ calls.filterMap LibraryCall.block?
  /-- Without a successful call of `pathRange` the sources of the range are the same. -/
  pathRange_same : calls.filterMap LibraryCall.sources? = [] → c'.pathRange = c.pathRange
  /-- Otherwise they are the arguments of the last one. -/
  pathRange_last : ∀ sources, (calls.filterMap LibraryCall.sources?).getLast? = some sources →
    c'.pathRange = some sources

theorem Context.changedBy_effects (calls : List LibraryCall) (c : Context) :
    ChangedBy calls c (LibraryCall.effects calls c) where
  document := rfl
  project := rfl
  environment := rfl
  clock := rfl
  phase := rfl
  name := rfl
  data := rfl
  writes := rfl
  pathRange_same := by
    intro hnone
    simp [LibraryCall.effects, hnone]
  pathRange_last := by
    intro sources hlast
    simp [LibraryCall.effects, hlast]

theorem Context.ChangedBy.drain {calls : List LibraryCall} {c c' : Context}
    (h : ChangedBy calls c c') : ChangedBy calls c c'.drain :=
  ⟨h.document, h.project, h.environment, h.clock, h.phase, h.name, h.data, h.writes,
    h.pathRange_same, h.pathRange_last⟩

/-- Whatever an expression is, whatever it is evaluated under and whatever comes of it: the
evaluation has an account of its calls, and it has changed the context by these calls alone. -/
theorem evaluate_changes (e : Expression) (names : Bindings) (c : Context) :
    (∃ calls, e.Accounts names c calls) ∧
      ∀ calls, e.Accounts names c calls →
        Context.ChangedBy calls c (e.evaluate names c).2 := by
  refine ⟨e.exists_accounts names c, fun calls hcalls => ?_⟩
  have heffects := Context.changedBy_effects calls c
  unfold Expression.Accounts at hcalls
  split at hcalls
  next hblank =>
    subst hcalls
    rw [LibraryCall.effects_nil] at heffects
    rw [Expression.evaluate_of_blank hblank]
    exact heffects
  next template htemplate =>
    rw [Expression.evaluate_of_template htemplate, render_eq_settled hcalls]
    rcases settled_snd _ (LibraryCall.effects calls c) with hafter | hafter
    · rw [hafter]
      exact heffects
    · rw [hafter]
      exact heffects.drain

/-- A text that calls `pathRange` twice, and something in between. -/
def ranged (between : String) : Expression where
  text := "\x7b\x7b pathRange('a.txt') \x7d\x7d" ++ between ++ "\x7b\x7b pathRange('b.txt') \x7d\x7d"

/-- The last call of `pathRange` leaves its arguments only if it is not refused: behind a text that
has given `this` to a number, the arguments of the call before are still there. -/
theorem refused_call_keeps_range :
    let unset : Context := { document := {}, project := {} }
    let refused := (ranged "\x7b% set this = 2 %\x7d").evaluate (.standard {}) unset
    let accepted := (ranged "").evaluate (.standard {}) unset
    refused.1.toOption.isNone ∧
      refused.2.pathRange.map (·.map Value.text?) = some [some "a.txt"] ∧
      accepted.1.toOption.isSome ∧
      accepted.2.pathRange.map (·.map Value.text?) = some [some "b.txt"] := by
  decide +kernel

end Scaffold

import Scaffold.Context
import Scaffold.Expr.Evaluate
import Scaffold.Proofs.Dialogue

/-!
# Calls — what an evaluation tells the run, call by call

An evaluation reaches the run through the functions of the library and the methods of the run.
Four functions leave something there, and only where the call goes through: `writeBytes` a block
behind those in the queue, and `pathRange`, `error` and `return` their arguments in place of what was
there before. The function that asks for the time leaves the clock behind one look more, and all
others only look (`LibraryCall.effect`, `Library.call_effect`, `Library.callMethod?_effect`).
-/

set_option autoImplicit false

namespace Scaffold.Expr

/-! ## Looking -/

/-- The question only looks at the run. Looking at the clock is not among these: it shows something
else afterwards. -/
def Question.Looks : Question → Prop
  | .time | .queueBytes _ | .setPathRange _ | .setError _ | .setReturn _ => False
  | _ => True

theorem answer_of_looks {q : Question} (h : q.Looks) (c : Context) :
    (Context.answer q c).2 = c := by
  cases q with
  | time | queueBytes | setPathRange | setError | setReturn => exact h.elim
  | _ => rfl

/-- Who only looks leaves everything as it is. -/
theorem run_of_looks {α : Type} {d : Asking α} (h : d.Asks Question.Looks) (c : Context) :
    (d.run Context.answer c).2 = c := by
  induction d with
  | done a => rfl
  | ask q next ih =>
    rw [Dialogue.run, answer_of_looks h.1]
    exact ih _ (h.2 _)

namespace Run

variable {α β : Type}

/-- The computation only looks at the run. -/
def Looks (x : Run α) : Prop := ∀ s, (x s).Asks Question.Looks

theorem looks_pure (a : α) : Looks (pure a : Run α) := fun _ => trivial

theorem looks_halt (h : Halt) : Looks (Run.halt h : Run α) := fun _ => trivial

theorem looks_fail (line : Nat) (kind : Failure.Kind) : Looks (Run.fail line kind : Run α) :=
  looks_halt _

theorem looks_get : Looks Run.get := fun _ => trivial

theorem looks_modify (f : Evaluation → Evaluation) : Looks (Run.modify f) := fun _ => trivial

theorem looks_lift (line : Nat) (x : Except Halt α) : Looks (Run.lift line x) := by
  cases x with
  | ok a => exact looks_pure a
  | error h => exact looks_halt _

theorem looks_ask {q : Question} (h : q.Looks) : Looks (Run.ask q) :=
  fun _ => ⟨h, fun _ => trivial⟩

theorem Looks.bind {x : Run α} {f : α → Run β} (hx : Looks x) (hf : ∀ a, Looks (f a)) :
    Looks (x >>= f) := by
  intro s
  refine (hx s).bind fun r => ?_
  cases r with
  | ok r => exact hf r.1 r.2
  | error h => trivial

end Run

open Run (looks_pure looks_halt looks_fail looks_get looks_modify looks_lift looks_ask)

namespace Library

theorem theRun_looks (line : Nat) : (theRun line).Looks := by
  refine looks_get.bind fun s => ?_
  split
  · exact looks_pure ()
  · exact looks_fail line _

theorem formatted_looks (line : Nat) (instant : Calendar.Instant) (format : Option String) :
    (formatted line instant format).Looks := by
  rw [formatted]
  split
  · exact looks_halt _
  · split
    · exact looks_pure _
    · exact looks_halt _

theorem date_looks (line : Nat) (args : Arguments) : (date line args).Looks :=
  (looks_lift line _).bind fun _ => formatted_looks line _ _

/-- The functions that tell the run something, and the one that looks at the clock. -/
def speakers : List String := ["writeBytes", "pathRange", "error", "return", "now"]

/-- All other functions only look. -/
theorem call_looks (line : Nat) {name : String} (args : Arguments) (h : name ∉ speakers) :
    (call line name args).Looks := by
  have hlift {α : Type} (x : Except Halt α) : (Run.lift line x).Looks := looks_lift line x
  have hrun (q : Question) (hq : q.Looks) : ((theRun line) >>= fun _ => Run.ask q).Looks :=
    (theRun_looks line).bind fun _ => looks_ask hq
  unfold call
  split
  case h_5 | h_6 | h_7 | h_8 | h_12 => exact absurd (by decide) h
  case h_1 => exact (hlift _).bind fun n => hrun (.env n) trivial
  case h_2 => exact (hlift _).bind fun n => hrun (.var n) trivial
  case h_3 => exact (hlift _).bind fun n => hrun (.remoteVar n) trivial
  case h_4 => exact (hlift _).bind fun n => hrun (.response n) trivial
  case h_10 | h_21 => exact looks_pure _
  case h_13 => exact date_looks line args
  case h_20 =>
    refine (hlift _).bind fun names => Run.Looks.bind ?_ fun cell => looks_pure _
    exact looks_get.bind fun s => (looks_modify _).bind fun _ => looks_pure _
  case h_22 => exact looks_fail line _
  all_goals exact hlift _

end Library

/-! ## Calls -/

/-- A call of a function of the library, or of a method of the run. -/
structure LibraryCall where
  /-- Whether it is called as a method of the run. -/
  method : Bool
  name : String
  arguments : Arguments
  /-- The state of the evaluation that calls. -/
  state : Evaluation
  /-- Whether the call goes through. -/
  succeeded : Bool

/-- A value as it outlives an evaluation. -/
def Evaluation.detached (s : Evaluation) (v : Value) : Value :=
  (if s.cells.isEmpty then v else s.freeze v).detach

namespace LibraryCall

/-- The block that a successful call of `writeBytes` queues. -/
def block? (k : LibraryCall) : Option Bytes :=
  if k.succeeded ∧ ¬ k.method ∧ k.name = "writeBytes" then
    (Library.oneValue k.arguments).toOption.bind Filter.bytesOf?
  else none

/-- The arguments of a successful call of `pathRange`. -/
def sources? (k : LibraryCall) : Option (List Value) :=
  if k.succeeded ∧ ¬ k.method ∧ k.name = "pathRange" then
    some (k.arguments.flat.map k.state.detached)
  else none

/-- The message of a successful call of `error`, of the function or of the method. -/
def message? (k : LibraryCall) : Option String :=
  if k.succeeded ∧ k.name = "error" then (Library.oneShown k.arguments).toOption else none

/-- The argument of a successful call of `return`, of the function or of the method. -/
def value? (k : LibraryCall) : Option Value :=
  if k.succeeded ∧ k.name = "return" then
    (Library.oneValue k.arguments).toOption.map k.state.detached
  else none

/-- Whether a call looks at the clock: it is to write the present moment, and its arguments have the
right form. -/
def looks (k : LibraryCall) : Bool :=
  !k.method && k.name == "now" && (Library.nowFormat k.arguments).isOk

/-- What a call leaves in the run. -/
def effect (k : LibraryCall) (c : Context) : Context :=
  { c with
    clock := c.clock.later k.looks.toNat
    writes := c.writes ++ k.block?.toList
    pathRange := k.sources? <|> c.pathRange
    error := k.message? <|> c.error
    returned := k.value? <|> c.returned }

/-- Calls of other functions leave nothing. -/
theorem effect_of_other {k : LibraryCall} (h : k.name ∉ Library.speakers) (c : Context) :
    k.effect c = c := by
  have hname : k.name ≠ "writeBytes" ∧ k.name ≠ "pathRange" ∧ k.name ≠ "error" ∧
      k.name ≠ "return" ∧ k.name ≠ "now" := by
    simpa [Library.speakers] using h
  have hnow : (k.name == "now") = false := beq_false_of_ne hname.2.2.2.2
  simp [effect, block?, sources?, message?, value?, looks, hname, hnow]

/-- Methods other than `error` and `return` leave nothing. -/
theorem effect_of_method {k : LibraryCall} (h : k.method = true) (herror : k.name ≠ "error")
    (hreturn : k.name ≠ "return") (c : Context) : k.effect c = c := by
  simp [effect, block?, sources?, message?, value?, looks, h, herror, hreturn]

/-- Calls that fail leave nothing, unless they look at the clock. -/
theorem effect_of_failed {k : LibraryCall} (h : k.succeeded = false) (hlooks : k.looks = false)
    (c : Context) : k.effect c = c := by
  simp [effect, block?, sources?, message?, value?, h, hlooks]

/-- What calls in a row leave in the run: the clock behind all looks at it, all blocks behind those
in the queue, and in every other place what the last of them has put there. -/
def effects (calls : List LibraryCall) (c : Context) : Context :=
  { c with
    clock := c.clock.later (calls.countP looks)
    writes := c.writes ++ calls.filterMap block?
    pathRange := (calls.filterMap sources?).getLast? <|> c.pathRange
    error := (calls.filterMap message?).getLast? <|> c.error
    returned := (calls.filterMap value?).getLast? <|> c.returned }

@[simp]
theorem effects_nil (c : Context) : effects [] c = c := by
  simp [effects]

/-- What is put in a place by the first and then by the others is there in the end. -/
theorem getLast?_filterMap_cons {β : Type} (f : LibraryCall → Option β) (k : LibraryCall)
    (calls : List LibraryCall) (before : Option β) :
    (((k :: calls).filterMap f).getLast? <|> before) =
      ((calls.filterMap f).getLast? <|> (f k <|> before)) := by
  cases hk : f k with
  | none => simp [hk]
  | some b => cases hlast : (calls.filterMap f).getLast? <;> simp [hk, List.getLast?_cons, hlast]

theorem effects_cons (k : LibraryCall) (calls : List LibraryCall) (c : Context) :
    effects (k :: calls) c = effects calls (k.effect c) := by
  have hblocks : (k :: calls).filterMap block? = k.block?.toList ++ calls.filterMap block? := by
    cases hk : k.block? <;> simp [hk]
  have hclock : c.clock.later ((k :: calls).countP looks) =
      (c.clock.later k.looks.toNat).later (calls.countP looks) := by
    rw [Calendar.Clock.later_later, List.countP_cons, Nat.add_comm]
    cases k.looks <;> rfl
  rw [effects, effects, hblocks, hclock, getLast?_filterMap_cons, getLast?_filterMap_cons,
    getLast?_filterMap_cons, ← List.append_assoc]
  rfl

section Telling

variable {method : Bool} {args : Arguments} {s : Evaluation}

theorem effect_writeBytes {v : Value} {block : Bytes} (hargs : Library.oneValue args = .ok v)
    (hblock : Filter.bytesOf? v = some block) (c : Context) :
    effect ⟨false, "writeBytes", args, s, true⟩ c = { c with writes := c.writes ++ [block] } := by
  simp [effect, block?, sources?, message?, value?, looks, hargs, hblock, Except.toOption]

theorem effect_pathRange (c : Context) :
    effect ⟨false, "pathRange", args, s, true⟩ c =
      { c with pathRange := some (args.flat.map s.detached) } := by
  simp [effect, block?, sources?, message?, value?, looks]

theorem effect_error {message : String} (hargs : Library.oneShown args = .ok message)
    (c : Context) :
    effect ⟨method, "error", args, s, true⟩ c = { c with error := some message } := by
  simp [effect, block?, sources?, message?, value?, looks, hargs, Except.toOption]

theorem effect_return {v : Value} (hargs : Library.oneValue args = .ok v) (c : Context) :
    effect ⟨method, "return", args, s, true⟩ c = { c with returned := some (s.detached v) } := by
  simp [effect, block?, sources?, message?, value?, looks, hargs, Except.toOption]

theorem effect_now {succeeded : Bool} {format : Option String}
    (hargs : Library.nowFormat args = .ok format) (c : Context) :
    effect ⟨false, "now", args, s, succeeded⟩ c = c.setClock (c.clock.later 1) := by
  simp [effect, block?, sources?, message?, value?, looks, hargs, Except.isOk, Except.toBool,
    Context.setClock]

end Telling

end LibraryCall

/-! ### What a call leaves -/

namespace Library

theorem mapM_detached (values : List Value) (s : Evaluation) :
    (values.mapM Run.detached) s = .done (.ok (values.map s.detached, s)) := by
  have hloop (values seen : List Value) :
      List.mapM.loop Run.detached values seen s =
        .done (.ok (seen.reverse ++ values.map s.detached, s)) := by
    induction values generalizing seen with
    | nil => simp [List.mapM.loop]; rfl
    | cons v values ih =>
      have hnext := ih (s.detached v :: seen)
      rw [List.reverse_cons, List.append_assoc] at hnext
      exact hnext
  exact hloop values []

theorem get_bind {α : Type} (f : Evaluation → Run α) (s : Evaluation) :
    (Run.get >>= f) s = f s s := rfl

/-- The run is at hand, or its name stands for something else. -/
theorem theRun_cases (line : Nat) (s : Evaluation) :
    theRun line s = .done (.ok ((), s)) ∨ ∃ h, theRun line s = .done (.error h) := by
  rw [theRun, get_bind]
  cases s.lookup? "this" with
  | none => exact .inr ⟨_, rfl⟩
  | some v => cases v <;> first | exact .inl rfl | exact .inr ⟨_, rfl⟩

/-- What a function tells the run it tells behind the last thing that can fail. -/
theorem run_tell {line : Nat} {q : Question} {r : Value} {s : Evaluation} {c c' : Context}
    {result : Except Halt (Value × Evaluation)}
    (h : (((do theRun line; let _ ← Run.ask q; return r) : Run Value) s).run Context.answer c =
      (result, c')) :
    (result.isOk = false ∧ c' = c) ∨ (result.isOk = true ∧ c' = (Context.answer q c).2) := by
  change ((theRun line s).bind _).run Context.answer c = _ at h
  rcases theRun_cases line s with hrun | ⟨halt, hrun⟩
  · rw [hrun] at h
    cases h
    exact .inr ⟨rfl, rfl⟩
  · rw [hrun] at h
    cases h
    exact .inl ⟨rfl, rfl⟩

/-- What is made of arguments that have the wrong form fails at once. -/
theorem run_lift {α β : Type} {line : Nat} {x : Except Halt α} {f : α → Run β} {s : Evaluation}
    {c c' : Context} {result : Except Halt (β × Evaluation)}
    (h : ((Run.lift line x >>= f) s).run Context.answer c = (result, c')) :
    (result.isOk = false ∧ c' = c) ∨
      ∃ a, x = .ok a ∧ (f a s).run Context.answer c = (result, c') := by
  cases x with
  | error halt =>
    cases h
    exact .inl ⟨rfl, rfl⟩
  | ok a => exact .inr ⟨a, rfl, h⟩

section Effects

variable {line : Nat} {args : Arguments} {s : Evaluation} {c c' : Context}
  {result : Except Halt (Value × Evaluation)}

theorem writeBytes_effect
    (h : (writeBytes line args s).run Context.answer c = (result, c')) :
    c' = LibraryCall.effect ⟨false, "writeBytes", args, s, result.isOk⟩ c := by
  rcases run_lift h with ⟨hfailed, rfl⟩ | ⟨v, hargs, htaken⟩
  · rw [LibraryCall.effect_of_failed hfailed rfl]
  cases hblock : Filter.bytesOf? v with
  | none =>
    simp only [hblock] at htaken
    cases htaken
    rw [LibraryCall.effect_of_failed rfl rfl]
  | some block =>
    simp only [hblock] at htaken
    rcases run_tell htaken with ⟨hfailed, rfl⟩ | ⟨hok, rfl⟩
    · rw [LibraryCall.effect_of_failed hfailed rfl]
    · rw [hok, LibraryCall.effect_writeBytes hargs hblock]
      rfl

theorem pathRange_effect
    (h : (call line "pathRange" args s).run Context.answer c = (result, c')) :
    c' = LibraryCall.effect ⟨false, "pathRange", args, s, result.isOk⟩ c := by
  change ((args.flat.mapM Run.detached s).bind _).run Context.answer c = _ at h
  rw [mapM_detached] at h
  rcases run_tell h with ⟨hfailed, rfl⟩ | ⟨hok, rfl⟩
  · rw [LibraryCall.effect_of_failed hfailed rfl]
  · rw [hok, LibraryCall.effect_pathRange]
    rfl

theorem error_effect (h : (call line "error" args s).run Context.answer c = (result, c')) :
    c' = LibraryCall.effect ⟨false, "error", args, s, result.isOk⟩ c := by
  change ((Run.lift line (oneShown args) >>= _) s).run Context.answer c = _ at h
  rcases run_lift h with ⟨hfailed, rfl⟩ | ⟨message, hargs, htold⟩
  · rw [LibraryCall.effect_of_failed hfailed rfl]
  rcases run_tell htold with ⟨hfailed, rfl⟩ | ⟨hok, rfl⟩
  · rw [LibraryCall.effect_of_failed hfailed rfl]
  · rw [hok, LibraryCall.effect_error hargs]
    rfl

theorem return_effect (h : (call line "return" args s).run Context.answer c = (result, c')) :
    c' = LibraryCall.effect ⟨false, "return", args, s, result.isOk⟩ c := by
  change ((Run.lift line (oneValue args) >>= _) s).run Context.answer c = _ at h
  rcases run_lift h with ⟨hfailed, rfl⟩ | ⟨v, hargs, htold⟩
  · rw [LibraryCall.effect_of_failed hfailed rfl]
  rcases run_tell htold with ⟨hfailed, rfl⟩ | ⟨hok, rfl⟩
  · rw [LibraryCall.effect_of_failed hfailed rfl]
  · rw [hok, LibraryCall.effect_return hargs]
    rfl

/-- What is written of the clock is written behind the look at it, and it may still be refused. -/
theorem now_effect (h : (now line args s).run Context.answer c = (result, c')) :
    c' = LibraryCall.effect ⟨false, "now", args, s, result.isOk⟩ c := by
  cases hargs : nowFormat args with
  | error halt =>
    rw [now, hargs] at h
    cases h
    rw [LibraryCall.effect_of_failed rfl (by simp [LibraryCall.looks, hargs, Except.isOk,
      Except.toBool])]
  | ok format =>
    rw [now, hargs] at h
    have hwritten := run_of_looks (formatted_looks line c.clock.next.instant format s)
      (c.setClock (c.clock.later 1))
    rw [LibraryCall.effect_now hargs, ← hwritten]
    exact (congrArg Prod.snd h).symm

/-- What a call of a function leaves in the run. -/
theorem call_effect {name : String}
    (h : (call line name args s).run Context.answer c = (result, c')) :
    c' = LibraryCall.effect ⟨false, name, args, s, result.isOk⟩ c := by
  by_cases hname : name ∈ speakers
  · simp only [speakers, List.mem_cons, List.not_mem_nil, or_false] at hname
    rcases hname with rfl | rfl | rfl | rfl | rfl
    · exact writeBytes_effect h
    · exact pathRange_effect h
    · exact error_effect h
    · exact return_effect h
    · exact now_effect h
  · have hleft := run_of_looks (call_looks line args hname s) c
    rw [h] at hleft
    rw [LibraryCall.effect_of_other hname]
    exact hleft

/-- The methods of the run other than those that tell it something only look. -/
theorem callMethod?_looks (line : Nat) {name : String} (args : Arguments)
    (herror : name ≠ "error") (hreturn : name ≠ "return") :
    (callMethod? line name args).Looks := by
  unfold callMethod?
  split
  · exact (looks_lift line _).bind fun _ => (looks_ask (by trivial)).bind fun _ => looks_pure _
  · split
    case h_1 | h_2 => contradiction
    case h_7 => exact looks_pure _
    all_goals
      exact (looks_lift line _).bind fun _ => (looks_ask (by trivial)).bind fun _ => looks_pure _

/-- What a call of a method leaves in the run. -/
theorem callMethod?_effect {name : String} {result : Except Halt (Option Value × Evaluation)}
    (h : (callMethod? line name args s).run Context.answer c = (result, c')) :
    c' = LibraryCall.effect ⟨true, name, args, s, result.isOk⟩ c := by
  by_cases herror : name = "error"
  · subst herror
    change ((Run.lift line (oneShown args) >>= _) s).run Context.answer c = _ at h
    rcases run_lift h with ⟨hfailed, rfl⟩ | ⟨message, hargs, htold⟩
    · rw [LibraryCall.effect_of_failed hfailed rfl]
    · cases htold
      exact (LibraryCall.effect_error hargs c).symm
  by_cases hreturn : name = "return"
  · subst hreturn
    change ((Run.lift line (oneValue args) >>= _) s).run Context.answer c = _ at h
    rcases run_lift h with ⟨hfailed, rfl⟩ | ⟨v, hargs, htold⟩
    · rw [LibraryCall.effect_of_failed hfailed rfl]
    · cases htold
      exact (LibraryCall.effect_return hargs c).symm
  · have hleft := run_of_looks (callMethod?_looks line args herror hreturn s) c
    rw [h] at hleft
    rw [LibraryCall.effect_of_method rfl herror hreturn]
    exact hleft

end Effects

end Library

end Scaffold.Expr

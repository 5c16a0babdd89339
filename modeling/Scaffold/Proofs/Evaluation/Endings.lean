import Scaffold.Proofs.Evaluation.Signals

/-!
# Endings — how evaluations end

An evaluation ends in a value, in an error of the item that is processed, or in a stop. All that an
evaluation is put together from can only be stopped by what its stop says (`Run.Composed.halts`), and
so can the evaluation as a whole (`Expression.StopsBy.genuine`). A value that contains itself stops
the evaluation before anything is called that looks for all of it. Of the functions themselves, only
those that write a moment can be stopped, exactly by a format with a directive that is not known
(`Library.call_stops_iff`), the methods of the run never, and of the filters only those that follow
directives (`evaluations_end`). So there are expressions, as short as a date in an unknown format,
that end without an error that could be reported (`unwritable_format_stops`).
-/

set_option autoImplicit false

namespace Scaffold

namespace Expr

/-! ## Computations -/

namespace Run

variable {S : Stop → Prop} {α β : Type}

/-- Wherever it begins, the computation comes to a result, a failure that can be reported, or one of
these stops. -/
def Halts (S : Stop → Prop) (x : Run α) : Prop :=
  ∀ s c, Expr.Halts S ((x s).run Context.answer c).1

theorem halts_step (f : Evaluation → α × Evaluation) :
    Halts S fun s => .done (.ok (f s)) := fun _ _ => halts_ok _

theorem halts_pure (a : α) : Halts S (pure a : Run α) := fun _ _ => halts_ok _

theorem halts_halt {h : Halt} (hh : h.Within S) : Halts S (Run.halt h : Run α) :=
  fun _ _ => halts_error hh

theorem halts_lift (line : Nat) {x : Except Halt α} (hx : Expr.Halts S x) :
    Halts S (Run.lift line x) := by
  cases x with
  | ok a => exact halts_pure a
  | error h => exact halts_halt ((hx h rfl).onLine line)

theorem halts_ask (q : Question) : Halts S (Run.ask q) := fun _ _ => halts_ok _

theorem Halts.bind {x : Run α} {f : α → Run β} (hx : Halts S x) (hf : ∀ a, Halts S (f a)) :
    Halts S (x >>= f) := by
  intro s c
  have hfirst := hx s c
  change Expr.Halts S (((x s).bind _).run Context.answer c).1
  rw [Dialogue.run_bind]
  generalize (x s).run Context.answer c = left at hfirst ⊢
  obtain ⟨result, c'⟩ := left
  cases result with
  | ok r => exact hf r.1 r.2 c'
  | error h => exact halts_error (hfirst h rfl)

/-- What follows a computation that asks nothing goes on with its value. -/
theorem bind_of_done {x : Run α} {s s' : Evaluation} {a : α} (hx : x s = .done (.ok (a, s')))
    (f : α → Run β) : (x >>= f) s = f a s' := by
  change (x s).bind _ = _
  rw [hx]
  rfl

/-- What follows a computation that has no value is not done. -/
theorem run_bind_of_error {x : Run α} {s : Evaluation} {c : Context} {h : Halt}
    (hx : ((x s).run Context.answer c).1 = .error h) (f : α → Run β) :
    (((x >>= f) s).run Context.answer c).1 = .error h := by
  change (((x s).bind _).run Context.answer c).1 = _
  rw [Dialogue.run_bind]
  generalize (x s).run Context.answer c = left at hx ⊢
  obtain ⟨result, c'⟩ := left
  subst hx
  rfl

theorem halts_get : Halts S Run.get := halts_step fun s => (s, s)

theorem halts_modify (f : Evaluation → Evaluation) : Halts S (Run.modify f) :=
  halts_step fun s => ((), f s)

theorem halts_detached (v : Value) : Halts S (Run.detached v) :=
  (halts_get.bind fun _ => halts_pure _).bind fun _ => halts_pure _

theorem halts_mapM {f : α → Run β} (hf : ∀ a, Halts S (f a)) (as : List α) :
    Halts S (as.mapM f) := by
  have hloop (as : List α) (seen : List β) : Halts S (List.mapM.loop f as seen) := by
    induction as generalizing seen with
    | nil => exact halts_pure _
    | cons a as ih => exact (hf a).bind fun b => ih _
  exact hloop as []

end Run

/-! ## The library -/

namespace Library

open Params Run

variable {S : Stop → Prop} (line : Nat) (args : Arguments)

theorem halts_oneText : Halts S (oneText args) := (halts_takeAs halts_asText).positional args

theorem halts_oneValue : Halts S (oneValue args) := halts_value.positional args

theorem halts_oneShown : Halts S (oneShown args) := halts_shown.positional args

theorem halts_substrByFlag : Halts S (substrByFlag args) := by
  refine ((halts_takeAs halts_asInt).bind fun position => ?_).positional args
  refine (halts_takeAs halts_asText).bind fun flag => ?_
  exact (halts_takeAs halts_asText).bind fun text => Params.halts_pure _

theorem halts_range : Halts S (range args) := by
  refine ((halts_takeAs halts_asInt).bind fun a => ?_).positional args
  refine (halts_optional halts_asInt).bind fun b => ?_
  refine (halts_optional halts_asInt).bind fun step => halts_noMore.bind fun _ => ?_
  exact halts_ite (halts_fail _) (halts_ite (halts_fail _) (Params.halts_pure _))

theorem halts_dict : Halts S (dict args) := by
  refine (halts_next?.bind fun base => halts_noMore.bind fun _ => ?_).withNames args
  have hentries (entries : List (Value × Value)) : Params.Halts S (do
      let named := (← get).named
      modify fun t => { t with named := [] }
      return .map (Value.setEntries entries named) .plain : Params Value) :=
    Params.halts_get.bind fun _ => (Params.halts_modify _).bind fun _ => Params.halts_pure _
  dsimp only
  split
  · exact (Params.halts_pure _).bind hentries
  · exact (Params.halts_pure _).bind hentries
  · exact (Params.halts_pure _).bind hentries
  · split
    · exact (Params.halts_pure _).bind hentries
    · exact (halts_fail _).bind hentries

theorem halts_namespaceNames : Halts S (namespaceNames args) := by
  refine (halts_next?.bind fun base => halts_noMore.bind fun _ => ?_).positional args
  split
  · exact Params.halts_pure _
  · split
    · exact Params.halts_pure _
    · exact halts_fail _

theorem halts_theRun : Run.Halts S (theRun line) := by
  refine halts_get.bind fun s => ?_
  split
  · exact halts_pure _
  · exact halts_halt trivial

theorem halts_tell (q : Question) : Run.Halts S (tell q) :=
  (halts_ask q).bind fun _ => halts_pure _

theorem halts_writeBytes : Run.Halts S (writeBytes line args) := by
  refine (halts_lift line (halts_oneValue args)).bind fun v => ?_
  split
  · exact halts_halt trivial
  · exact (halts_theRun line).bind fun _ => (halts_ask _).bind fun _ => halts_pure _

/-- The functions that write a moment. -/
def timed : List String := ["now", "date"]

/-- No other function can be stopped, whatever it is applied to. -/
theorem halts_call {name : String} (h : name ∉ timed) : Run.Halts S (call line name args) := by
  have hlift {α : Type} {x : Except Halt α} (hx : Expr.Halts S x) : Run.Halts S (Run.lift line x) :=
    halts_lift line hx
  unfold call
  split
  case h_12 | h_13 => exact absurd (by decide) h
  case h_1 | h_2 | h_3 | h_4 =>
    exact (hlift (halts_oneText args)).bind fun n => (halts_theRun line).bind fun _ => halts_ask _
  case h_5 => exact halts_writeBytes line args
  case h_6 =>
    exact (Run.halts_mapM halts_detached _).bind fun _ => (halts_theRun line).bind fun _ =>
      halts_tell _
  case h_7 =>
    exact (hlift (halts_oneShown args)).bind fun _ => (halts_theRun line).bind fun _ =>
      halts_tell _
  case h_8 =>
    exact (hlift (halts_oneValue args)).bind fun _ => (halts_detached _).bind fun _ =>
      (halts_theRun line).bind fun _ => halts_tell _
  case h_9 => exact hlift (halts_substrByFlag args)
  case h_10 | h_21 => exact halts_pure _
  case h_11 => exact hlift (Filter.halts_fromJson args)
  case h_14 => exact hlift (Filter.halts_encodeWith args _ _)
  case h_15 => exact hlift (Filter.halts_b64dec args)
  case h_16 => exact hlift (Filter.halts_encodeWith args _ _)
  case h_17 => exact hlift (Filter.halts_hexdec args)
  case h_18 => exact hlift (halts_range args)
  case h_19 => exact hlift (halts_dict args)
  case h_20 =>
    refine (hlift (halts_namespaceNames args)).bind fun names => Run.Halts.bind ?_ fun cell =>
      halts_pure _
    exact halts_get.bind fun s => (Run.halts_modify _).bind fun _ => halts_pure _
  case h_22 => exact halts_halt trivial

theorem halts_dateArguments : Halts S (dateArguments args) :=
  ((halts_takeAs halts_asInt).bind fun _ => (halts_optional halts_asText).bind fun _ =>
    Params.halts_pure _).positional args

theorem halts_nowFormat : Halts S (nowFormat args) := (halts_optional halts_asText).positional args

/-- The instant that a function is to write, and the format for it, where the clock shows this. -/
def moment? (name : String) (args : Arguments) (reading : Calendar.Reading) :
    Option (Calendar.Instant × String) :=
  match name with
  | "date" => (dateArguments args).toOption.map fun (seconds, format) =>
    ({ seconds }, format.getD defaultFormat)
  | "now" => (nowFormat args).toOption.map fun format =>
    (reading.instant, format.getD defaultFormat)
  | _ => none

theorem formatted_stops_iff {instant : Calendar.Instant} {format : Option String} {s : Evaluation}
    {c : Context} {stop : Stop} :
    ((formatted line instant format s).run Context.answer c).1 = .error (.aborted stop) ↔
      stop = .unwritable instant (format.getD defaultFormat) ∧ stop.Genuine := by
  unfold formatted
  cases hmoment : Calendar.Moment.ofInstant? instant with
  | none =>
    refine ⟨nofun, ?_⟩
    rintro ⟨rfl, m, hm, -⟩
    rw [hmoment] at hm
    cases hm
  | some m =>
    dsimp only
    cases htext : Calendar.format? m (format.getD defaultFormat) with
    | none =>
      dsimp only
      constructor
      · rintro ⟨⟩
        exact ⟨rfl, m, hmoment, htext⟩
      · rintro ⟨rfl, -⟩
        rfl
    | some text =>
      refine ⟨nofun, ?_⟩
      rintro ⟨rfl, m', hm', hnone⟩
      rw [hmoment] at hm'
      obtain rfl := Option.some.inj hm'
      rw [htext] at hnone
      cases hnone

/-- Where arguments are taken, and a moment that they give is written, only the writing can be
stopped. -/
theorem lift_stops_iff {α : Type} {x : Except Halt α} (hx : Halts (fun _ => False) x)
    {f : α → Run Value} {moment : α → Calendar.Instant × String} {s : Evaluation} {c : Context}
    {stop : Stop}
    (hf : ∀ a, ((f a s).run Context.answer c).1 = .error (.aborted stop) ↔
      stop = .unwritable (moment a).1 (moment a).2 ∧ stop.Genuine) :
    (((Run.lift line x >>= f) s).run Context.answer c).1 = .error (.aborted stop) ↔
      ∃ instant format, x.toOption.map moment = some (instant, format) ∧
        stop = .unwritable instant format ∧ stop.Genuine := by
  cases x with
  | ok a =>
    refine (hf a).trans ⟨fun h => ⟨_, _, rfl, h⟩, ?_⟩
    rintro ⟨instant, format, hmoment, h⟩
    rw [Option.some.inj hmoment]
    exact h
  | error h =>
    refine ⟨fun hstopped => ?_, nofun⟩
    cases h with
    | failed f => cases hstopped
    | aborted _ => exact (hx _ rfl).elim

/-- A function can be stopped only where it is to write a moment by a format that does not write
it, and there it is. -/
theorem call_stops_iff {name : String} {s : Evaluation} {c : Context} {stop : Stop} :
    ((call line name args s).run Context.answer c).1 = .error (.aborted stop) ↔
      ∃ instant format, moment? name args c.clock.next = some (instant, format) ∧
        stop = .unwritable instant format ∧ stop.Genuine := by
  by_cases hdate : name = "date"
  · subst hdate
    exact lift_stops_iff line (halts_dateArguments args) fun _ => formatted_stops_iff line
  by_cases hnow : name = "now"
  · subst hnow
    exact lift_stops_iff line (halts_nowFormat args) fun _ => formatted_stops_iff line
  · have hcall : Run.Halts (fun _ => False) (call line name args) :=
      halts_call line args (by simp [timed, hdate, hnow])
    refine ⟨fun hstopped => (hcall s c _ hstopped).elim, ?_⟩
    rintro ⟨instant, format, hmoment, -⟩
    unfold moment? at hmoment
    split at hmoment <;> contradiction

theorem halts_call_genuinely (name : String) : Run.Halts Stop.Genuine (call line name args) := by
  intro s c h hh
  cases h with
  | failed f => trivial
  | aborted stop =>
    obtain ⟨_, _, -, -, hgenuine⟩ := (call_stops_iff line args).1 hh
    exact hgenuine

theorem halts_projectQuestion? {name : String} {question : Except Halt ProjectQuestion}
    (h : projectQuestion? name args = some question) : Expr.Halts S question := by
  unfold projectQuestion? at h
  dsimp only at h
  split at h
  case h_9 =>
    obtain rfl := Option.some.inj h
    exact (halts_oneText args).map _
  case h_10 => cases h
  all_goals
    obtain rfl := Option.some.inj h
    exact halts_ok _

/-- No method of the run can be stopped, whatever it is applied to. -/
theorem halts_callMethod? (name : String) : Run.Halts S (callMethod? line name args) := by
  unfold callMethod?
  split
  next question hquestion =>
    exact (halts_lift line (halts_projectQuestion? args hquestion)).bind fun _ =>
      (halts_ask _).bind fun _ => halts_pure _
  · split
    case h_1 =>
      exact (halts_lift line (halts_oneShown args)).bind fun _ => (halts_tell _).bind fun _ =>
        halts_pure _
    case h_2 =>
      exact (halts_lift line (halts_oneValue args)).bind fun _ => (halts_detached _).bind fun _ =>
        (halts_tell _).bind fun _ => halts_pure _
    case h_7 => exact halts_pure _
    all_goals
      exact (halts_lift line (halts_oneText args)).bind fun _ => (halts_ask _).bind fun _ =>
        halts_pure _

end Library

/-! ## Evaluations -/

/-- Whatever is composed can be stopped only by what its stop says. -/
theorem Run.Composed.halts {α : Type} {x : Run α} (h : Composed x) : Halts Stop.Genuine x := by
  induction h with
  | step f => exact halts_step f
  | halt hh => exact halts_halt hh
  | look _ => exact halts_ask _
  | function line name args => exact Library.halts_call_genuinely line args name
  | method line name args => exact Library.halts_callMethod? line args name
  | bind _ _ hx hf => exact hx.bind hf

theorem halts_render (template : String) (names : Names) (c : Context) :
    Halts Stop.Genuine ((render template names).run Context.answer c).1 := by
  unfold render
  split
  · exact halts_error trivial
  · dsimp only
    rw [Dialogue.run_bind]
    have hbody (statements : List Stmt) (start : Evaluation) :=
      ((Evaluate.within_composed (nestingBound template.length)).2 statements).halts start c
    split
    · exact halts_ok _
    next h hstopped => exact halts_error (hbody _ _ h hstopped)

end Expr

open Scaffold.Expr (Evaluation Run Stmt Stop Tree)
open Scaffold.Expr.Evaluate (bodyWithin callValue statement statements treeWithin)
open Scaffold.Emission (pristine)

namespace Expression

/-- The template of an expression comes to a stop. -/
def StopsBy (e : Expression) (names : Bindings) (c : Context) (stop : Stop) : Prop :=
  ∃ template, e.template? = some template ∧
    ((Expr.render template names.entries).run Context.answer c).1 = .error (.aborted stop)

variable {e : Expression} {names : Bindings} {c : Context}

/-- Then nothing is handed back. -/
theorem StopsBy.evaluate_eq {stop : Stop} (h : e.StopsBy names c stop) :
    (e.evaluate names c).1 = .error .aborted := by
  obtain ⟨template, htemplate, hrun⟩ := h
  rw [evaluate_of_template htemplate, Scaffold.render]
  generalize (Expr.render template names.entries).run Context.answer c = left at hrun ⊢
  obtain ⟨rendered, c'⟩ := left
  subst hrun
  rfl

/-- What stops it is so as its stop says. -/
theorem StopsBy.genuine {stop : Stop} (h : e.StopsBy names c stop) : stop.Genuine := by
  obtain ⟨template, -, hrun⟩ := h
  exact Expr.halts_render template names.entries c _ hrun

/-- An expression evaluates to a value or to an error of the item that is processed, or else it is
stopped. -/
theorem evaluate_ends (e : Expression) (names : Bindings) (c : Context) :
    ((∃ v, (e.evaluate names c).1 = .ok v) ∨
      ∃ reason, (e.evaluate names c).1 = .error (.expression c.name reason)) ∨
      ∃ stop, e.StopsBy names c stop := by
  cases htemplate : e.template? with
  | none =>
    rw [evaluate_of_blank htemplate]
    exact .inl (.inl ⟨_, rfl⟩)
  | some template =>
    have hname : ((Expr.render template names.entries).run Context.answer c).2.name = c.name :=
      Dialogue.run_keeps (fun q c => by cases q <;> rfl) _ c
    have hstops (stop : Stop) (h : ((Expr.render template names.entries).run Context.answer c).1 =
        .error (.aborted stop)) : e.StopsBy names c stop := ⟨template, htemplate, h⟩
    rw [evaluate_of_template htemplate, Scaffold.render]
    generalize (Expr.render template names.entries).run Context.answer c = left at *
    obtain ⟨rendered, c'⟩ := left
    change c'.name = c.name at hname
    rw [← hname]
    cases rendered with
    | error h =>
      cases h with
      | failed failure => exact .inl (.inr ⟨_, rfl⟩)
      | aborted stop => exact .inr ⟨stop, hstops stop rfl⟩
    | ok text =>
      dsimp only
      cases c'.error with
      | none => exact .inl (.inl ⟨_, rfl⟩)
      | some message => exact .inl (.inr ⟨_, rfl⟩)

end Expression

/-- Whatever is evaluated, it ends in a value or in an error of the item that is processed, exactly
if no stop is in the way; and what stops it is genuine. A function can be stopped only where it is
to write a moment by a format that does not write it, and there it is; a method of the run cannot be
stopped, and no filter but the one that follows directives and the one that may apply it. -/
theorem evaluations_end (e : Expression) (names : Bindings) (c : Context) (line : Nat)
    (name : String) (args : Expr.Arguments) (s : Evaluation) (escaping : Expr.Escaping) :
    (((∃ v, (e.evaluate names c).1 = .ok v) ∨
        ∃ reason, (e.evaluate names c).1 = .error (.expression c.name reason)) ↔
          ¬ ∃ stop, e.StopsBy names c stop) ∧
      (∀ stop, e.StopsBy names c stop → stop.Genuine) ∧
      (∀ stop, ((Expr.Library.call line name args s).run Context.answer c).1 =
          .error (.aborted stop) ↔
        ∃ instant format, Expr.Library.moment? name args c.clock.next = some (instant, format) ∧
          stop = .unwritable instant format ∧ stop.Genuine) ∧
      (∀ stop, ((Expr.Library.callMethod? line name args s).run Context.answer c).1 ≠
        .error (.aborted stop)) ∧
      ∀ stop, Expr.Filter.run escaping name args = .error (.aborted stop) →
        name ∈ Expr.Filter.stoppable ∧ stop.Genuine := by
  refine ⟨⟨?_, (e.evaluate_ends names c).resolve_right⟩, fun stop h => h.genuine,
    fun stop => Expr.Library.call_stops_iff line args, fun stop h => ?_,
    fun stop h => ⟨?_, Expr.Filter.halts_run args escaping name _ h⟩⟩
  · rintro hended ⟨stop, hstop⟩
    rw [hstop.evaluate_eq] at hended
    rcases hended with ⟨v, hvalue⟩ | ⟨reason, herror⟩
    · cases hvalue
    · cases herror
  · exact Expr.Library.halts_callMethod? (S := fun _ => False) line args name s c _ h
  · by_contra hname
    exact Expr.Filter.halts_run_of_not_stoppable (S := fun _ => False) args escaping hname _ h

/-! ## A format that stops an evaluation -/

/-- An expression that writes a moment by an unknown directive. -/
def unwritable : Expression where
  text := "\x7b\x7b date(0, '%Q') \x7d\x7d"

/-- The call in it. -/
def unwritableCall : Tree :=
  .call 1 (.variable 1 "date")
    [.positional (.literal 1 (.int 0)), .positional (.literal 1 (.string "%Q"))]

/-- What it is applied to. -/
def unwritableArguments : Expr.Arguments :=
  ⟨[.int 0 false, .string "%Q" false], none⟩

/-- The call is all that was read. -/
def isUnwritableCall : Except Expr.Failure (List Stmt) → Bool
  | .ok [.emit 1 (.call 1 (.variable 1 "date")
      [.positional (.literal 1 (.int 0)), .positional (.literal 1 (.string "%Q"))])] => true
  | _ => false

theorem read_unwritable : Expr.read unwritable.text = .ok [.emit 1 unwritableCall] := by
  have hread : isUnwritableCall (Expr.read unwritable.text) = true := by decide +kernel
  generalize Expr.read unwritable.text = read at hread ⊢
  unfold isUnwritableCall at hread
  split at hread
  · rfl
  · cases hread

/-- The directive is unknown at any moment. -/
theorem format?_unknown (m : Calendar.Moment) : Calendar.format? m "%Q" = none := by
  simp [Calendar.format?, Calendar.formatWithin, Calendar.longDirectives, Calendar.padding?,
    Calendar.numberText, Calendar.pairOf, Calendar.numberOf, Calendar.wordText,
    Calendar.abbreviated]

/-- Where no other value has its name, the function is called. -/
theorem treeWithin_unwritableCall (depth : Nat) {s : Evaluation}
    (hlookup : s.lookup? "date" = none) (hcells : s.cells = #[]) :
    treeWithin (depth + 2) unwritableCall s =
      (Expr.Library.call 1 "date" unwritableArguments >>= Run.thawed) s := by
  have hcallee : treeWithin (depth + 2) unwritableCall s =
      callValue (treeWithin (depth + 1)) (bodyWithin (depth + 1)) 1 (.function "date")
        unwritableArguments s := by
    change Expr.Evaluate.call (treeWithin (depth + 1)) (bodyWithin (depth + 1)) 1
      (.variable 1 "date") _ [] s = _
    unfold Expr.Evaluate.call
    have hargs : Expr.Evaluate.arguments (treeWithin (depth + 1)) 1
        [.positional (.literal 1 (.int 0)), .positional (.literal 1 (.string "%Q"))] [] s =
      .done (.ok (unwritableArguments, s)) := rfl
    refine (Run.bind_of_done hargs _).trans ?_
    rw [if_neg (by decide), if_neg (by decide)]
    refine (Expr.Library.get_bind _ s).trans ?_
    rw [hlookup]
    rfl
  rw [hcallee]
  obtain ⟨frames⟩ := s
  subst hcells
  rfl

theorem unwritable_genuine : (Stop.unwritable { seconds := 0 } "%Q").Genuine :=
  ⟨_, rfl, format?_unknown _⟩

/-- A body that emits the call stops where the call does, in whatever context. -/
theorem bodyWithin_unwritableCall (depth : Nat) {s : Evaluation}
    (hlookup : s.lookup? "date" = none) (hcells : s.cells = #[]) (c : Context) :
    ((bodyWithin (depth + 3) [.emit 1 unwritableCall] s).run Context.answer c).1 =
      .error (.aborted (.unwritable { seconds := 0 } "%Q")) := by
  have htree : ((treeWithin (depth + 2) unwritableCall s).run Context.answer c).1 =
      .error (.aborted (.unwritable { seconds := 0 } "%Q")) := by
    rw [treeWithin_unwritableCall depth hlookup hcells]
    refine Run.run_bind_of_error ((Expr.Library.call_stops_iff 1 unwritableArguments).2 ?_) _
    exact ⟨_, "%Q", rfl, rfl, unwritable_genuine⟩
  have hemit : statement (treeWithin (depth + 2)) (bodyWithin (depth + 2))
      (.emit 1 unwritableCall) =
        treeWithin (depth + 2) unwritableCall >>= fun v => Expr.Evaluate.emit 1 v >>= fun _ =>
          pure .next := rfl
  rw [bodyWithin, statements, hemit]
  exact Run.run_bind_of_error (Run.run_bind_of_error htree _) _

/-- The expression ends in a stop, and not in an error that could be reported. -/
theorem unwritable_format_stops :
    unwritable.StopsBy (.standard {}) pristine (.unwritable { seconds := 0 } "%Q") ∧
      (unwritable.evaluate (.standard {}) pristine).1 = .error .aborted := by
  have htemplate : unwritable.template? = some unwritable.text := by decide +kernel
  have hstops : unwritable.StopsBy (.standard {}) pristine (.unwritable { seconds := 0 } "%Q") := by
    refine ⟨_, htemplate, ?_⟩
    obtain ⟨depth, hdepth⟩ : ∃ depth, Expr.nestingBound unwritable.text.length = depth + 3 :=
      ⟨Expr.nestingBound unwritable.text.length - 3, by decide +kernel⟩
    rw [Expr.render, read_unwritable, hdepth]
    dsimp only
    -- what the evaluation begins with knows no value of this name and has made none
    generalize hstart : ({ frames := _, objects := _, blocks := _ } : Evaluation) = start
    have hlookup : start.lookup? "date" = none := by
      subst hstart
      decide +kernel
    have hcells : start.cells = #[] := by
      subst hstart
      rfl
    rw [Dialogue.run_bind, bodyWithin_unwritableCall depth hlookup hcells]
    dsimp only [Dialogue.run]
  exact ⟨hstops, Expression.StopsBy.evaluate_eq hstops⟩

end Scaffold

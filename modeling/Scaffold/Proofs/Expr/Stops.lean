import Mathlib.Data.List.Perm.Subperm
import Scaffold.Expr.Evaluate

/-!
# Stops — what operations on values can be stopped by

An evaluation that ends without a value has failed, which can be reported, or it was stopped, with
nothing to report. Of a stop we say when it is genuine: what it names as its cause is so
(`Stop.Genuine`). `Halts S` says of a computation that it comes to a value, to a failure, or to one
of the stops of `S`. It is stated for any `S` where no stop is possible at all, and this holds of
taking arguments and of most operations. Only a text that is repeated and a row that is cut
backward can be stopped, and these stops are genuine (`Value.halts_multiply`, `Value.halts_slice`).

A value is stopped at where it contains itself and all of it is looked for. References are followed
until one of them comes back, so that nothing else is cut off: a value with what its references stand
for in their place is without end exactly if one of them leads back to where it is found
(`Evaluation.isEndless_freeze_iff`).
-/

set_option autoImplicit false

namespace Scaffold.Expr

/-! ## Stops -/

/-- What a stop says is so: there is nothing that could be handed back. A cycle of no values and a
scope that is left open name no value that could be looked at. -/
def Stop.Genuine : Stop → Prop
  | .unwritable instant format =>
    ∃ m, Calendar.Moment.ofInstant? instant = some m ∧ Calendar.format? m format = none
  | .overlong text times => Value.maxText < times * text.utf8ByteSize
  | .behindEnd length place => length ≤ place
  | .emptyCycle | .openScope => True
  | .endless v => v.isEndless false = true
  | .overwide n => Value.maxElements < n
  | .foreignName name => ∃ c ∈ name.toList, 128 ≤ c.toNat

/-- It is a failure that can be reported, or one of these stops. -/
def Halt.Within (S : Stop → Prop) : Halt → Prop
  | .failed _ => True
  | .aborted stop => S stop

variable {S : Stop → Prop} {α β : Type}

theorem Halt.Within.onLine {h : Halt} (hh : h.Within S) (line : Nat) : (h.onLine line).Within S := by
  cases h with
  | failed f => trivial
  | aborted stop => exact hh

/-- What comes out is a result, a failure that can be reported, or one of these stops. -/
def Halts (S : Stop → Prop) (x : Except Halt α) : Prop :=
  ∀ h, x = .error h → h.Within S

theorem halts_ok (a : α) : Halts S (.ok a : Except Halt α) := nofun

theorem halts_error {h : Halt} (hh : h.Within S) : Halts S (.error h : Except Halt α) := by
  rintro _ ⟨⟩
  exact hh

theorem halts_of (kind : Failure.Kind) : Halts S (.error (.of kind) : Except Halt α) :=
  halts_error trivial

theorem halts_invalid : Halts S (.error .invalid : Except Halt α) := halts_of _

theorem Halts.bind {x : Except Halt α} {f : α → Except Halt β} (hx : Halts S x)
    (hf : ∀ a, Halts S (f a)) : Halts S (x >>= f) := by
  cases x with
  | ok a => exact hf a
  | error h =>
    rintro _ ⟨⟩
    exact hx h rfl

theorem Halts.map {x : Except Halt α} (hx : Halts S x) (f : α → β) : Halts S (f <$> x) :=
  hx.bind fun a => halts_ok (f a)

theorem halts_mapM {f : α → Except Halt β} (hf : ∀ a, Halts S (f a)) (as : List α) :
    Halts S (as.mapM f) := by
  induction as with
  | nil => exact halts_ok _
  | cons a as ih =>
    rw [List.mapM_cons]
    exact (hf a).bind fun b => ih.bind fun bs => halts_ok _

theorem halts_foldlM {f : β → α → Except Halt β} (hf : ∀ b a, Halts S (f b a)) (as : List α)
    (b : β) : Halts S (as.foldlM f b) := by
  induction as generalizing b with
  | nil => exact halts_ok b
  | cons a as ih => exact (hf b a).bind fun b => ih b

/-! ## Taking arguments -/

namespace Params

/-- Whatever there is to take, the computation comes to a result, a failure that can be reported, or
one of these stops. -/
def Halts (S : Stop → Prop) (x : Params α) : Prop := ∀ t, Expr.Halts S (x t)

theorem halts_pure (a : α) : Halts S (pure a : Params α) := fun _ => halts_ok _

theorem Halts.bind {x : Params α} {f : α → Params β} (hx : Halts S x) (hf : ∀ a, Halts S (f a)) :
    Halts S (x >>= f) := fun t => (hx t).bind fun r => hf r.1 r.2

theorem Halts.map {x : Params α} (hx : Halts S x) (f : α → β) : Halts S (f <$> x) :=
  fun t => (hx t).bind fun _ => halts_ok _

theorem halts_throw {h : Halt} (hh : h.Within S) : Halts S (throw h : Params α) :=
  fun _ => halts_error hh

theorem halts_fail (kind : Failure.Kind) : Halts S (fail kind : Params α) := halts_throw trivial

theorem halts_ite {c : Prop} [Decidable c] {x y : Params α} (hx : Halts S x) (hy : Halts S y) :
    Halts S (if c then x else y) := by
  split
  · exact hx
  · exact hy

theorem halts_get : Halts S (get : Params Taking) := fun _ => halts_ok _

theorem halts_set (t : Taking) : Halts S (set t : Params PUnit) := fun _ => halts_ok _

theorem halts_modify (f : Taking → Taking) : Halts S (modify f : Params PUnit) := fun _ => halts_ok _

theorem halts_lift {x : Except Halt α} (hx : Expr.Halts S x) : Halts S (lift x) :=
  fun _ => hx.bind fun _ => halts_ok _

theorem halts_mapM {f : α → Params β} (hf : ∀ a, Halts S (f a)) (as : List α) :
    Halts S (as.mapM f) := by
  induction as with
  | nil => exact halts_pure _
  | cons a as ih =>
    rw [List.mapM_cons]
    exact (hf a).bind fun b => ih.bind fun bs => halts_pure _

theorem halts_filterM {f : α → Params Bool} (hf : ∀ a, Halts S (f a)) (as : List α) :
    Halts S (as.filterM f) := by
  have hloop (as seen : List α) : Halts S (as.filterAuxM f seen) := by
    induction as generalizing seen with
    | nil => exact halts_pure _
    | cons a as ih => exact (hf a).bind fun b => ih _
  exact (hloop as []).bind fun _ => halts_pure _

theorem halts_next? : Halts S next? :=
  halts_get.bind fun _ => (halts_set _).bind fun _ => halts_pure _

theorem halts_value : Halts S value := by
  refine halts_next?.bind fun v => ?_
  split
  · exact halts_pure _
  · exact halts_fail _

theorem halts_rest : Halts S rest :=
  halts_get.bind fun _ => (halts_set _).bind fun _ => halts_pure _

theorem halts_keyword? (name : String) : Halts S (keyword? name) :=
  halts_get.bind fun _ => (halts_set _).bind fun _ => halts_pure _

theorem halts_asText (v : Value) : Halts S (asText v) := by
  unfold asText
  split
  · exact halts_pure _
  · exact halts_fail _

theorem halts_asShown (v : Value) : Halts S (asShown v) := by
  unfold asShown
  split <;> exact halts_pure _

theorem halts_asInt (v : Value) : Halts S (asInt v) := by
  unfold asInt
  split
  · exact halts_pure _
  · exact halts_fail _

theorem halts_asNat (v : Value) : Halts S (asNat v) := by
  unfold asNat
  split
  · exact halts_pure _
  · exact halts_fail _

theorem halts_asBool (v : Value) : Halts S (asBool v) := by
  unfold asBool
  split
  · exact halts_pure _
  · exact halts_fail _

theorem halts_asIs (v : Value) : Halts S (asIs v) := halts_pure v

theorem halts_written (v : Value) : Halts S (written v) := by
  unfold written
  split
  · exact halts_fail _
  · exact halts_pure _

section Forms

variable {form : Value → Params α} (hform : ∀ v, Halts S (form v))

include hform

theorem halts_takeAs : Halts S (takeAs form) := halts_value.bind hform

theorem halts_optional : Halts S (optional form) := by
  refine halts_next?.bind fun v => ?_
  split
  · exact (hform _).map _
  · exact halts_pure _

theorem halts_keyword (name : String) : Halts S (keyword name form) := by
  refine (halts_keyword? name).bind fun v => ?_
  split
  · exact (hform _).map _
  · exact halts_pure _

end Forms

theorem halts_shown : Halts S shown :=
  halts_takeAs fun v => (halts_written v).bind fun v => halts_asShown v

theorem halts_shown? : Halts S shown? :=
  halts_optional fun v => (halts_written v).bind fun v => halts_asShown v

theorem halts_label : Halts S label := halts_takeAs halts_written

theorem halts_label? : Halts S label? := halts_optional halts_written

theorem halts_noMore : Halts S noMore :=
  halts_get.bind fun _ => halts_ite (halts_pure _) (halts_fail _)

theorem halts_noMoreNames : Halts S noMoreNames := by
  refine halts_get.bind fun t => ?_
  split
  · exact halts_pure _
  · exact halts_fail _

theorem Halts.positional {x : Params α} (hx : Halts S x) (args : Arguments) :
    Expr.Halts S (positional x args) :=
  ((hx.bind fun a => halts_noMore.bind fun _ => halts_pure a) _).map _

theorem Halts.withNames {x : Params α} (hx : Halts S x) (args : Arguments) :
    Expr.Halts S (withNames x args) :=
  ((hx.bind fun a => halts_noMoreNames.bind fun _ => halts_pure a) _).map _

end Params

/-! ## Values -/

namespace Value

theorem halts_intOf (n : Int) : Halts S (intOf n) := by
  unfold intOf
  split
  · exact halts_ok _
  · exact halts_invalid

theorem halts_orUndefined (v : Value) (part? : Option Value) : Halts S (v.orUndefined part?) := by
  unfold orUndefined
  split
  · exact halts_ok _
  · exact halts_of _
  · exact halts_ok _

theorem halts_path (v : Value) (path : String) : Halts S (v.path path) := by
  refine halts_foldlM (fun v step => ?_) _ v
  split
  · exact halts_orUndefined v _
  · exact halts_orUndefined v _

theorem halts_memberName (v : Value) : Halts S (memberName v) := by
  unfold memberName
  split
  case h_4 =>
    split
    · exact halts_of _
    · exact halts_ok _
  case h_5 => exact halts_of _
  all_goals exact halts_ok _

mutual

theorem halts_toJson (v : Value) : Halts S v.toJson := by
  cases v with
  | seq items | iterable items | repeated items =>
    rw [toJson]
    exact (halts_allToJson items).bind fun _ => halts_ok _
  | group key items =>
    rw [toJson]
    exact (halts_toJson key).bind fun _ => (halts_allToJson items).bind fun _ => halts_ok _
  | map entries | view _ _ entries =>
    rw [toJson]
    exact (halts_entriesToJson entries).bind fun _ => halts_ok _
  | invalid =>
    rw [toJson]
    exact halts_of _
  | _ =>
    simp only [toJson]
    exact halts_ok _

theorem halts_allToJson (vs : List Value) : Halts S (allToJson vs) := by
  cases vs with
  | nil =>
    rw [allToJson]
    exact halts_ok _
  | cons v vs =>
    rw [allToJson]
    exact (halts_toJson v).bind fun _ => (halts_allToJson vs).bind fun _ => halts_ok _

theorem halts_entriesToJson (entries : List (Value × Value)) : Halts S (entriesToJson entries) := by
  match entries with
  | [] =>
    rw [entriesToJson]
    exact halts_ok _
  | (key, v) :: entries =>
    rw [entriesToJson]
    exact (halts_memberName key).bind fun _ => (halts_toJson v).bind fun _ =>
      (halts_entriesToJson entries).bind fun _ => halts_ok _

end

theorem halts_add (a b : Value) : Halts S (a.add b) := by
  unfold add
  split
  · exact halts_ok _
  · split
    · exact halts_intOf _
    · exact halts_ok _
    · exact halts_ok _
    · exact halts_invalid

theorem halts_subtract (a b : Value) : Halts S (a.subtract b) := by
  unfold subtract
  split
  · exact halts_intOf _
  · exact halts_ok _
  · exact halts_invalid

theorem halts_times (n : Value) {whole : Nat → Except Halt Value} (h : ∀ k, Halts S (whole k)) :
    Halts S (n.times whole) := by
  unfold times
  split
  · exact h _
  · exact halts_invalid

theorem halts_textTimes (s : String) (k : Nat) : Halts Stop.Genuine (textTimes s k) := by
  unfold textTimes
  split
  next hlong => exact halts_error hlong
  · exact halts_ok _

theorem halts_rowTimes (v : Value) (k : Nat) : Halts S (v.rowTimes k) := by
  unfold rowTimes
  split
  · exact halts_ok _
  · exact halts_invalid

theorem halts_multiply (a b : Value) : Halts Stop.Genuine (a.multiply b) := by
  unfold multiply
  split
  · exact halts_times b (halts_textTimes _)
  · exact halts_times a (halts_textTimes _)
  · split
    · exact halts_times b (halts_rowTimes a)
    · split
      · exact halts_times a (halts_rowTimes b)
      · split
        · exact halts_intOf _
        · exact halts_ok _
        · exact halts_invalid

theorem halts_divide (a b : Value) : Halts S (a.divide b) := by
  unfold divide
  split
  · exact halts_ok _
  · exact halts_invalid

theorem halts_floorDivide (a b : Value) : Halts S (a.floorDivide b) := by
  unfold floorDivide
  split
  · split
    · exact halts_invalid
    · exact halts_intOf _
  · exact halts_ok _
  · exact halts_invalid

theorem halts_remainder (a b : Value) : Halts S (a.remainder b) := by
  unfold remainder
  split
  · split
    · exact halts_invalid
    · exact halts_intOf _
  · exact halts_ok _
  · exact halts_invalid

theorem halts_power (a b : Value) : Halts S (a.power b) := by
  unfold power
  split
  · split
    · split
      · exact halts_ok _
      · split
        · exact halts_intOf _
        · exact halts_invalid
    · exact halts_invalid
  · exact halts_ok _
  · exact halts_invalid

theorem halts_negate (v : Value) : Halts S v.negate := by
  unfold negate
  split
  · split
    · exact halts_ok _
    · exact halts_intOf _
  · exact halts_ok _
  · exact halts_invalid

theorem halts_contains (container v : Value) : Halts S (container.contains v) := by
  unfold contains
  split
  case h_14 =>
    split
    · split <;> exact halts_ok _
    · exact halts_invalid
  all_goals exact halts_ok _

theorem halts_binary (op : BinaryOp) (a b : Value) : Halts Stop.Genuine (binary op a b) := by
  cases op with
  | add => exact halts_add a b
  | subtract => exact halts_subtract a b
  | multiply => exact halts_multiply a b
  | divide => exact halts_divide a b
  | floorDivide => exact halts_floorDivide a b
  | remainder => exact halts_remainder a b
  | power => exact halts_power a b
  | contains => exact (halts_contains b a).map _
  | _ => exact halts_ok _

theorem halts_unary (op : UnaryOp) (v : Value) : Halts S (unary op v) := by
  cases op with
  | not => exact halts_ok _
  | negate => exact halts_negate v

theorem halts_sliceBackward (items : List α) (start stop : Option Int) (step : Nat) :
    Halts Stop.Genuine (sliceBackward items start stop step) := by
  refine halts_mapM (fun n => ?_) _
  split
  · exact halts_ok _
  next hnone =>
    refine halts_error (show items.length ≤ n from ?_)
    simpa using hnone

theorem halts_bound? (v : Value) : Halts S (bound? v) := by
  unfold bound?
  split
  · exact halts_ok _
  · split
    · exact halts_ok _
    · exact halts_invalid

theorem halts_slice (v start stop step : Value) : Halts Stop.Genuine (v.slice start stop step) := by
  unfold slice
  refine (halts_bound? _).bind fun start => (halts_bound? _).bind fun stop => ?_
  refine (halts_bound? _).bind fun step => ?_
  have hcut {α : Type} (items : List α) (length : Nat) : Halts Stop.Genuine
      (if 0 < step.getD 1 then
        .ok (sliceForward items length start stop (step.getD 1).toNat)
      else sliceBackward items start stop (step.getD 1).natAbs) := by
    split
    · exact halts_ok _
    · exact halts_sliceBackward items start stop _
  dsimp only
  split
  · exact halts_invalid
  · split
    case h_1 | h_2 => exact halts_ok _
    case h_3 | h_4 => exact (hcut _ _).bind fun _ => halts_ok _
    · split
      · split
        · exact (hcut _ _).bind fun _ => halts_ok _
        · exact halts_invalid
      · exact halts_invalid

end Value

/-! ## Values without end

References are followed as far as they lead. Where one of them leads back to a cell that it is found
in, the value of this cell contains itself (`Evaluation.Returns`), and a value with its references
followed is endless exactly for this reason (`Evaluation.isEndless_freeze_iff`): no bound cuts off
what comes to an end. Only an endless value is stopped at, by whatever would have looked through it.
-/

namespace Value

mutual

/-- What is spelled out without an end contains itself. -/
theorem isEndless_of_spelled (v : Value) (h : v.isEndless true = true) :
    v.isEndless false = true := by
  cases v with
  | again => rfl
  | seq items | iterable items | repeated items =>
    rw [isEndless] at h ⊢
    exact anyEndless_of_spelled items h
  | group key items =>
    rw [isEndless, Bool.or_eq_true] at h ⊢
    exact h.imp (isEndless_of_spelled key) (anyEndless_of_spelled items)
  | map entries =>
    rw [isEndless] at h ⊢
    exact anyEndlessEntry_of_spelled entries h
  | view of shown entries =>
    rw [isEndless, Bool.and_eq_true] at h
    exact anyEndlessEntry_of_spelled entries h.2
  | _ => cases h

theorem anyEndless_of_spelled (vs : List Value) (h : anyEndless true vs = true) :
    anyEndless false vs = true := by
  cases vs with
  | nil => cases h
  | cons v vs =>
    rw [anyEndless, Bool.or_eq_true] at h ⊢
    exact h.imp (isEndless_of_spelled v) (anyEndless_of_spelled vs)

theorem anyEndlessEntry_of_spelled (entries : List (Value × Value))
    (h : anyEndlessEntry true entries = true) : anyEndlessEntry false entries = true := by
  cases entries with
  | nil => cases h
  | cons entry entries =>
    rw [anyEndlessEntry, Bool.or_eq_true, Bool.or_eq_true] at h ⊢
    exact h.imp (Or.imp (isEndless_of_spelled entry.1) (isEndless_of_spelled entry.2))
      (anyEndlessEntry_of_spelled entries)

end

/-- If there is a value to stop at, it contains itself. -/
def Endless (v? : Option Value) : Prop := ∀ v, v? = some v → v.isEndless false = true

theorem endless_none : Endless Option.none := nofun

theorem endless_firstEndless? (spelled : Bool) (values : List Value) :
    Endless (firstEndless? spelled values) := by
  intro v h
  have hspelled := List.find?_some h
  cases spelled with
  | false => exact hspelled
  | true => exact isEndless_of_spelled v hspelled

theorem endless_endlessBeside? (a b : Value) : Endless (a.endlessBeside? b) := by
  intro v h
  rw [endlessBeside?, Option.ite_none_right_eq_some] at h
  obtain ⟨hendless, hv⟩ := h
  rw [Bool.and_eq_true, Bool.and_eq_true] at hendless
  exact Option.some.inj hv ▸ hendless.1.1

theorem endless_findSome? {α : Type} {f : α → Option Value} (hf : ∀ a, Endless (f a))
    (as : List α) : Endless (as.findSome? f) := by
  intro v h
  obtain ⟨a, -, ha⟩ := List.exists_of_findSome?_eq_some h
  exact hf a v ha

theorem endless_endlessWithin? (a container : Value) : Endless (a.endlessWithin? container) :=
  endless_findSome? (endless_endlessBeside? a) _

theorem endless_ite {p : Prop} [Decidable p] {a? b? : Option Value} (ha : Endless a?)
    (hb : Endless b?) : Endless (if p then a? else b?) := by
  split
  · exact ha
  · exact hb

mutual

/-- The references to the evaluation in a value. -/
def references : Value → List Value
  | .cell kind id => [.cell kind id]
  | .routine r closure usesCaller => [.routine r closure usesCaller]
  | .seq items _ | .iterable items _ _ | .repeated items _ _ => allReferences items
  | .group key items _ => key.references ++ allReferences items
  | .map entries _ _ => entriesReferences entries
  | _ => []

/-- The references in values. -/
def allReferences : List Value → List Value
  | [] => []
  | v :: vs => v.references ++ allReferences vs

/-- The references in the keys and the values of entries. -/
def entriesReferences : List (Value × Value) → List Value
  | [] => []
  | (key, v) :: entries => key.references ++ v.references ++ entriesReferences entries

end

mutual

/-- A value that was filled contains itself if it did before, or if something does that was put in
place of a reference. -/
theorem isEndless_fill (meaning : Value → Value) (v : Value) :
    (v.fill meaning).isEndless false = true ↔
      v.isEndless false = true ∨ ∃ r ∈ v.references, (meaning r).isEndless false = true := by
  cases v with
  | seq items | iterable items | repeated items =>
    simpa only [fill, isEndless, references] using anyEndless_fillAll meaning items
  | group key items =>
    have hkey := isEndless_fill meaning key
    have hitems := anyEndless_fillAll meaning items
    simp only [fill, isEndless, references, Bool.or_eq_true, List.mem_append, hkey, hitems]
    grind
  | map entries =>
    simpa only [fill, isEndless, references] using anyEndlessEntry_fillEntries meaning entries
  | cell | routine => simp [fill, isEndless, references]
  | _ => simp [fill, references]

theorem anyEndless_fillAll (meaning : Value → Value) (vs : List Value) :
    anyEndless false (fillAll meaning vs) = true ↔
      anyEndless false vs = true ∨
        ∃ r ∈ allReferences vs, (meaning r).isEndless false = true := by
  cases vs with
  | nil => simp [fillAll, anyEndless, allReferences]
  | cons v vs =>
    have hfirst := isEndless_fill meaning v
    have hrest := anyEndless_fillAll meaning vs
    simp only [fillAll, anyEndless, allReferences, Bool.or_eq_true, List.mem_append, hfirst, hrest]
    grind

theorem anyEndlessEntry_fillEntries (meaning : Value → Value) (entries : List (Value × Value)) :
    anyEndlessEntry false (fillEntries meaning entries) = true ↔
      anyEndlessEntry false entries = true ∨
        ∃ r ∈ entriesReferences entries, (meaning r).isEndless false = true := by
  cases entries with
  | nil => simp [fillEntries, anyEndlessEntry, entriesReferences]
  | cons entry entries =>
    obtain ⟨key, v⟩ := entry
    have hkey := isEndless_fill meaning key
    have hvalue := isEndless_fill meaning v
    have hrest := anyEndlessEntry_fillEntries meaning entries
    simp only [fillEntries, anyEndlessEntry, entriesReferences, Bool.or_eq_true, List.mem_append,
      hkey, hvalue, hrest]
    grind

end

theorem anyEndlessEntry_textKeys (attributes : List (String × Value)) :
    anyEndlessEntry false (textKeys attributes) = true ↔
      ∃ entry ∈ attributes, entry.2.isEndless false = true := by
  induction attributes with
  | nil => simp [textKeys, anyEndlessEntry]
  | cons entry attributes ih =>
    rw [textKeys, List.map_cons, anyEndlessEntry]
    simp only [Bool.or_eq_true, List.mem_cons, exists_eq_or_imp]
    rw [← ih]
    simp [text, isEndless, textKeys]

end Value

section Operands

open Value (endless_none endless_ite endless_firstEndless? endless_endlessBeside?
  endless_endlessWithin?)

theorem Filter.endless_endless? (name : String) (args : Arguments) :
    Value.Endless (Filter.endless? name args) :=
  endless_ite (endless_firstEndless? false _) endless_none

theorem Test.endless_endless? (name : String) (args : Arguments) :
    Value.Endless (Test.endless? name args) := by
  unfold Test.endless?
  split
  · exact endless_ite (endless_endlessWithin? _ _)
      (endless_ite (endless_endlessBeside? _ _) endless_none)
  · exact endless_none

theorem Library.endless_endless? (name : String) (args : Arguments) :
    Value.Endless (Library.endless? name args) :=
  endless_ite (endless_firstEndless? true _) endless_none

theorem Evaluate.endless_endlessOperand? (op : BinaryOp) (a b : Value) :
    Value.Endless (Evaluate.endlessOperand? op a b) := by
  unfold Evaluate.endlessOperand?
  split
  case h_7 => exact endless_endlessWithin? a b
  case h_8 => exact endless_firstEndless? true _
  case h_9 => exact endless_none
  all_goals exact endless_endlessBeside? a b

end Operands

namespace Evaluation

variable {s : Evaluation}

/-- Inside of the cells of a path, a reference leads back to one of them, or to a value that was
handed over by an evaluation and contained itself there. -/
inductive Returns (s : Evaluation) : List Nat → Value → Prop
  | met {path : List Nat} {kind : CellKind} {id : Nat} (h : id ∈ path) :
      Returns s path (.cell kind id)
  | handedOver {path : List Nat} {kind : CellKind} {id : Nat} {name : String} {v : Value}
      (hv : (name, v) ∈ s.attributesOf (.cell kind id)) (h : v.isEndless false = true) :
      Returns s path (.cell kind id)
  | through {path : List Nat} {kind : CellKind} {id : Nat} {name : String} {v r : Value}
      (hv : (name, v) ∈ s.attributesOf (.cell kind id)) (hr : r ∈ v.references)
      (h : Returns s (id :: path) r) : Returns s path (.cell kind id)

/-- The cells of the path are different ones, and the number is enough for the other ones. -/
structure Enough (s : Evaluation) (left : Nat) (path : List Nat) : Prop where
  nodup : path.Nodup
  lt_size : ∀ id ∈ path, id < s.cells.size
  size_lt : s.cells.size < left + path.length

theorem Enough.start (s : Evaluation) : s.Enough (s.cells.size + 1) [] :=
  ⟨List.nodup_nil, nofun, Nat.lt_succ_self _⟩

theorem Enough.pos {left : Nat} {path : List Nat} (h : s.Enough left path) : 0 < left := by
  have hsubset : path ⊆ List.range s.cells.size := fun id hid => List.mem_range.2 (h.lt_size id hid)
  have hlength := (h.nodup.subperm hsubset).length_le
  have hsize := h.size_lt
  rw [List.length_range] at hlength
  omega

theorem Enough.cons {left id : Nat} {path : List Nat} (h : s.Enough (left + 1) path)
    (hnew : id ∉ path) (hid : id < s.cells.size) : s.Enough left (id :: path) where
  nodup := List.nodup_cons.2 ⟨hnew, h.nodup⟩
  lt_size := List.forall_mem_cons.2 ⟨hid, h.lt_size⟩
  size_lt := by
    have hsize := h.size_lt
    rw [List.length_cons]
    omega

/-- Only cells that there are have attributes. -/
theorem lt_size_of_mem_attributesOf {kind : CellKind} {id : Nat} {entry : String × Value}
    (h : entry ∈ s.attributesOf (.cell kind id)) : id < s.cells.size := by
  by_contra hid
  have hnone : s.cells[id]? = none := Array.getElem?_eq_none (Nat.le_of_not_lt hid)
  cases kind <;> simp [attributesOf, loopOf?, namesOf, hnone] at h

theorem isEndless_viewOf (v : Value) (attributes : Names) :
    (s.viewOf v attributes).isEndless false = true ↔
      ∃ entry ∈ attributes, entry.2.isEndless false = true := by
  rw [viewOf, Value.isEndless, Bool.false_and, Bool.not_false, Bool.true_and,
    Value.anyEndlessEntry_textKeys]

theorem meaning_met {left : Nat} {path : List Nat} {kind : CellKind} {id : Nat} (h : id ∈ path) :
    s.meaning left path (.cell kind id) = .again (.cell kind id) := by
  cases left <;> rw [meaning, if_pos (by simpa using h)]

/-- A reference to a cell that is not in the path shows its attributes, and what the references in
them stand for. -/
theorem isEndless_meaning_cell {left : Nat} {path : List Nat} {kind : CellKind} {id : Nat}
    (h : id ∉ path) :
    (s.meaning (left + 1) path (.cell kind id)).isEndless false = true ↔
      ∃ entry ∈ s.attributesOf (.cell kind id), entry.2.isEndless false = true ∨
        ∃ r ∈ entry.2.references, (s.meaning left (id :: path) r).isEndless false = true := by
  rw [meaning, if_neg (by simpa using h), isEndless_viewOf]
  simp only [List.mem_map, exists_exists_and_eq_and, Value.isEndless_fill]

theorem returns_cell_iff {path : List Nat} {kind : CellKind} {id : Nat} (h : id ∉ path) :
    s.Returns path (.cell kind id) ↔
      ∃ entry ∈ s.attributesOf (.cell kind id), entry.2.isEndless false = true ∨
        ∃ r ∈ entry.2.references, s.Returns (id :: path) r := by
  constructor
  · intro hreturns
    cases hreturns with
    | met hmet => exact absurd hmet h
    | handedOver hv hgiven => exact ⟨_, hv, .inl hgiven⟩
    | through hv hr hback => exact ⟨_, hv, .inr ⟨_, hr, hback⟩⟩
  · rintro ⟨⟨name, v⟩, hv, hgiven | ⟨r, hr, hback⟩⟩
    · exact .handedOver hv hgiven
    · exact .through hv hr hback

/-- What is no reference to a cell stands for nothing that contains itself, and leads nowhere. -/
theorem isEndless_meaning_of_not_cell (left : Nat) (path : List Nat) {v : Value}
    (hv : ∀ kind id, v ≠ .cell kind id) :
    (s.meaning left path v).isEndless false = true ↔ s.Returns path v := by
  have htexts (texts : List String) : Value.anyEndless false (texts.map .text) = false := by
    induction texts with
    | nil => rfl
    | cons text texts ih => exact ih
  have hnone : ¬ ∃ entry ∈ s.attributesOf v, entry.2.isEndless false = true := by
    cases v with
    | cell kind id => exact absurd rfl (hv kind id)
    | routine r closure usesCaller =>
      simp [attributesOf, routineAttributes, routineAttribute, Value.text, Value.isEndless, htexts]
    | _ => simp [attributesOf]
  have hmeaning : s.meaning left path v = s.viewOf v (s.attributesOf v) := by
    cases v with
    | cell kind id => exact absurd rfl (hv kind id)
    | _ => cases left <;> rfl
  rw [hmeaning, isEndless_viewOf]
  refine iff_of_false hnone fun hreturns => ?_
  cases hreturns with
  | met | handedOver | through => exact hv _ _ rfl

/-- As long as the number is enough, what a reference stands for contains itself exactly if the
reference leads back. -/
theorem isEndless_meaning_iff {left : Nat} {path : List Nat} (henough : s.Enough left path)
    (v : Value) : (s.meaning left path v).isEndless false = true ↔ s.Returns path v := by
  induction left generalizing path v with
  | zero => exact absurd henough.pos (Nat.lt_irrefl 0)
  | succ left ih =>
    by_cases hcell : ∃ kind id, v = .cell kind id
    · obtain ⟨kind, id, rfl⟩ := hcell
      by_cases hmet : id ∈ path
      · rw [meaning_met hmet]
        exact ⟨fun _ => .met hmet, fun _ => rfl⟩
      · rw [isEndless_meaning_cell hmet, returns_cell_iff hmet]
        refine exists_congr fun entry => and_congr_right fun hentry => ?_
        have henough' := henough.cons hmet (lt_size_of_mem_attributesOf hentry)
        exact or_congr_right (exists_congr fun r => and_congr_right fun _ => ih henough' r)
    · exact isEndless_meaning_of_not_cell _ path fun kind id h => hcell ⟨kind, id, h⟩

/-- A value with what its references stand for in their place contains itself exactly if it did
before or one of its references leads back to where it is found. -/
theorem isEndless_freeze_iff (s : Evaluation) (v : Value) :
    (s.freeze v).isEndless false = true ↔
      v.isEndless false = true ∨ ∃ r ∈ v.references, s.Returns [] r := by
  rw [freeze, Value.isEndless_fill]
  exact or_congr_right (exists_congr fun r => and_congr_right fun _ =>
    isEndless_meaning_iff (.start s) r)

end Evaluation

end Scaffold.Expr

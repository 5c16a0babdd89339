import Scaffold.Expr.Failure
import Scaffold.Expr.Value.Order

/-!
# Access — parts of values

Negative places count from the end. What is not there is undefined; only an undefined value has
no parts at all.
-/

set_option autoImplicit false

namespace Scaffold.Expr.Value

/-- The place that a key names in a row of some length. -/
def place? (length : Nat) (key : Value) : Option Nat :=
  match key.integer? 64 with
  | some (.ofNat n) => some n
  | some (.negSucc n) => if n < length then some (length - (n + 1)) else Option.none
  | Option.none => Option.none

/-- The value of a key or place, if there is one. -/
def at? (v key : Value) : Option Value :=
  let nth (items : List Value) : Option Value := (place? items.length key).bind (items[·]?)
  match v with
  | .map entries _ _ | .view _ _ entries => lookupEntry entries key
  | .fields m _ => key.text?.bind fun k => (m.get? k).map ofField
  | .seq items _ | .iterable items _ _ => nth items
  | .repeated items times _ =>
    (place? (items.length * times % Nat.pow 2 64) key).bind fun n =>
      if n < items.length * times then items[n % items.length]? else Option.none
  | .group k items _ =>
    match key.text? with
    | some "grouper" => some k
    | some "list" => some (groupItems items)
    | _ => nth [k, groupItems items]
  | .string s _ => (place? s.length key).bind fun n => (s.toList[n]?).map (text ∘ String.singleton)
  | .bytes b => (place? b.length key).bind fun n => (b[n]?).map fun x => .count x.toNat
  | _ => Option.none

/-- The value of an attribute, if there is one. -/
def attribute? (v : Value) (name : String) : Option Value :=
  match v with
  | .map .. | .view .. | .fields .. | .group .. => v.at? (text name)
  | _ => Option.none

/-- A part of a value that is undefined if it is missing. -/
def orUndefined (v : Value) (part? : Option Value) : Except Halt Value :=
  match part?, v with
  | some part, _ => .ok part
  | Option.none, .undefined => .error (.of .undefinedValue)
  | Option.none, _ => .ok .undefined

/-- The value of a key or place. -/
def item (v key : Value) : Except Halt Value :=
  v.orUndefined (v.at? key)

/-- The value of an attribute. -/
def getAttribute (v : Value) (name : String) : Except Halt Value :=
  v.orUndefined (v.attribute? name)

/-- The place that a step of a path spells. -/
def stepPlace? (part : List Char) : Option Nat :=
  let digits := match part with
    | '+' :: rest => rest
    | part => part
  if digits.isEmpty || !digits.all Char.isDigit then Option.none
  else
    let n : Nat := digits.foldl (fun n c => n * 10 + (c.toNat - 48)) 0
    if n < Nat.pow 2 64 then some n else Option.none

/-- The steps of a path, which stand between dots. -/
def pathSteps (path : String) : List (List Char) :=
  path.toList.foldr (fun c steps =>
    if c == '.' then [] :: steps
    else match steps with
      | step :: steps => (c :: step) :: steps
      | [] => [[c]]) [[]]

/-- The value at the end of a path of attributes and places. -/
def path (v : Value) (path : String) : Except Halt Value :=
  (pathSteps path).foldlM (fun v step =>
    match stepPlace? step with
    | some n => v.item (.count n)
    | Option.none => v.getAttribute (String.ofList step)) v

/-- The value at the end of a path, or something else where there is none. -/
def pathOr (v : Value) (steps : String) (otherwise : Value) : Value :=
  match v.path steps with
  | .ok .undefined | .error _ => otherwise
  | .ok part => part

/-- Every `step`-th element, beginning with the first. -/
def every {α : Type} (step : Nat) (items : List α) : List α :=
  let rec go : Nat → List α → List α
    | _, [] => []
    | 0, x :: xs => x :: go (step - 1) xs
    | n + 1, _ :: xs => go n xs
  go 0 items

/-- A place of a slice: a negative one counts from the end, but not beyond the beginning. -/
def fromStart (length : Nat) (place : Int) : Nat :=
  (if place < 0 then (length : Int) + place else place).toNat

/-- The elements from a place up to another one in steps; `length` is how many there are as far as
that is known. -/
def sliceForward {α : Type} (items : List α) (length : Nat) (start stop : Option Int)
    (step : Nat) : List α :=
  let first := (start.map (fromStart length)).getD 0
  let last := (stop.map (fromStart length)).getD length
  every step ((items.drop first).take (last - first))

/-- The places from one down to another one in steps. The place zero is no bound: what stops there
goes on to the beginning. -/
def placesDown (length : Nat) (start stop : Option Int) (step : Nat) : List Nat :=
  let first := match start with
    | some n => if n < length then fromStart length n else length - 1
    | Option.none => length - 1
  let last := (stop.map (fromStart length)).getD 0
  let count := if last = 0 then (first + step) / step else (first - last + step - 1) / step
  (List.range (min count (first + 1))).map fun k => first - k * step

/-- The elements from a place down to another one in steps. Nothing is handed back if a place lies
behind the end, which is so where there is no element at all. -/
def sliceBackward {α : Type} (items : List α) (start stop : Option Int) (step : Nat) :
    Except Halt (List α) :=
  let all := items.toArray
  (placesDown items.length start stop step).mapM fun n =>
    match all[n]? with
    | some a => .ok a
    | Option.none => .error (.aborted (.behindEnd items.length n))

/-- The bound of a slice: none, or an integer of 64 bits. -/
def bound? : Value → Except Halt (Option Int)
  | .none => .ok Option.none
  | v =>
    match v.integer? 64 with
    | some n => .ok (some n)
    | Option.none => .error .invalid

/-- The part of a value between two places. -/
def slice (v start stop step : Value) : Except Halt Value := do
  let start ← bound? start
  let stop ← bound? stop
  let step := (← bound? step).getD 1
  let cut {α : Type} (items : List α) (length : Nat) : Except Halt (List α) :=
    if 0 < step then .ok (sliceForward items length start stop step.toNat)
    else sliceBackward items start stop step.natAbs
  if step = 0 then .error .invalid
  else match v with
    | .undefined | .none => .ok (.seq [])
    | .string s _ => return text (String.ofList (← cut s.toList s.length))
    | .bytes b => return .bytes (← cut b b.length)
    | v =>
      match v.elements? with
      | some items =>
        if v.isRow then return .iterable (← cut items (v.length?.getD 0)) (v.isCounted || step < 0)
        else .error .invalid
      | Option.none => .error .invalid

end Scaffold.Expr.Value

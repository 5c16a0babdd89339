import Scaffold.Expr.Arguments
import Scaffold.Expr.Escaping
import Scaffold.Text.Case

/-!
# Row — filters on sequences and maps

A text counts as the row of its characters, a map as the row of its keys, an absent value as the
empty row. Sorting keeps the order of what compares equal; texts are compared without regard to
the case of ASCII letters unless that is asked for.
-/

set_option autoImplicit false

namespace Scaffold.Expr.Filter

open Params

/-- The items of a value. -/
def itemsOf (v : Value) : Params (List Value) :=
  match v.items? with
  | some items => return items
  | none => fail .invalidOperation

/-- A text with small ASCII letters. -/
def lowerAscii (s : String) : String := s.map Char.toLower

/-- The order of two values, texts without regard to case unless it counts. -/
def orderBy (caseSensitive : Bool) (a b : Value) : Ordering :=
  if caseSensitive then a.order b
  else match a.text?, b.text? with
    | some s, some t => Value.orderTexts (lowerAscii s) (lowerAscii t)
    | _, _ => a.order b

/-- The order of two lists of keys: by the first that differ; a key that is missing on one side
decides nothing. -/
def orderByAll (caseSensitive : Bool) : List (Option Value) → List (Option Value) → Ordering
  | some a :: as, some b :: bs => (orderBy caseSensitive a b).then (orderByAll caseSensitive as bs)
  | _ :: as, _ :: bs => orderByAll caseSensitive as bs
  | _, _ => .eq

/-- Puts an item into a sorted row: behind the last one that it does not have to stand before. The
row is given from behind. -/
def insertFromBehind {α : Type} (before : α → α → Bool) (item : α) : List α → List α
  | [] => [item]
  | last :: rest =>
    if before item last then last :: insertFromBehind before item rest else item :: last :: rest

/-- The longest row that is sorted by insertion. -/
def maxInserted : Nat := 20

/-- Sorts items so that what need not stand before another keeps its order. Short rows are sorted
by insertion, which settles the order also where `before` is no order at all. -/
def sortedWith {α : Type} (before : α → α → Bool) (items : List α) : List α :=
  if items.length ≤ maxInserted then
    (items.foldl (fun row item => insertFromBehind before item row) []).reverse
  else items.mergeSort fun a b => !before b a

/-- Sorts by keys, the first of which counts most; what has equal keys stays in its order also
where the sorting is reversed. -/
def sortedBy {α : Type} (caseSensitive reversed : Bool) (keys : α → List (Option Value))
    (items : List α) : List α :=
  sortedWith (fun a b =>
    orderByAll caseSensitive (keys a) (keys b) == if reversed then .gt else .lt) items

/-- The number of parts of a value. -/
def length : Arguments → Except Halt Value :=
  positional do
    let v ← value
    noMore
    match v.length? with
    | some n => return .count n
    | none => fail .invalidOperation

/-- The first character or element. -/
def first : Arguments → Except Halt Value :=
  positional do
    let v ← value
    noMore
    match v.text?, v.elements? with
    | some s, _ => return (s.toList.head?.map (Value.text ∘ String.singleton)).getD .undefined
    | none, some items => return items.head?.getD .undefined
    | none, none => fail .invalidOperation

/-- The last character or element. -/
def last : Arguments → Except Halt Value :=
  positional do
    let v ← value
    noMore
    match v.text?, v.elements? with
    | some s, _ =>
      return (s.toList.getLast?.map fun c => .string (String.singleton c) v.isSafe).getD .undefined
    | none, some items =>
      if v.isRow then return items.getLast?.getD .undefined else fail .invalidOperation
    | none, none => fail .invalidOperation

/-- A value from behind; the keys of a map that is written down or read keep their order. -/
def reverse : Arguments → Except Halt Value :=
  positional do
    let v ← value
    noMore
    match v with
    | .undefined | .none => return v
    | .string s safe => return .string (String.ofList s.toList.reverse) safe
    | .bytes b => return .bytes b.reverse
    | .map entries .plain _ => return .iterable (entries.map Prod.fst) true
    | v =>
      match v.elements? with
      | some items => return .iterable items.reverse true
      | none => fail .invalidOperation

/-- The items of a value as a sequence. -/
def list : Arguments → Except Halt Value :=
  positional do
    let v ← value
    noMore
    return .seq (← itemsOf v)

/-- Joins the items of a value to one text. Where texts are escaped, a safe text among them makes
the result a safe one, and what is not safe is escaped. -/
def join (e : Escaping) : Arguments → Except Halt Value :=
  positional do
    let v ← value
    let joiner := (← label?).getD (.text "")
    noMore
    if v.isAbsent then return .text ""
    else
      let items ← itemsOf v
      let safe := e ≠ .none && (joiner :: items).any Value.isSafe
      let written (v : Value) : Except Halt String :=
        if safe then e.write v else .ok (v.text?.getD v.print)
      return .string ((← lift (written joiner)).intercalate (← lift (items.mapM written))) safe

/-- The first of the least or largest items. -/
def extreme (better : Ordering) : Arguments → Except Halt Value :=
  positional do
    let v ← value
    noMore
    let values ← itemsOf v
    let pick (best : Option Value) (v : Value) : Option Value :=
      match best with
      | none => some v
      | some b =>
        if v.order b = better || (better = .gt && v.order b = .eq) then some v else some b
    return (values.foldl pick none).getD .undefined

/-- Sorts the items of a value, by themselves or by attributes with commas between them. -/
def sort : Arguments → Except Halt Value :=
  withNames do
    let v ← value
    noMore
    let values ← itemsOf v
    let caseSensitive := (← keyword "case_sensitive" asBool).getD false
    let keys : Value → List (Option Value) := match ← keyword "attribute" asText with
      | some paths => fun v => (paths.splitOn ",").map fun path => (v.path (Text.trim path)).toOption
      | none => fun v => [some v]
    let reversed := (← keyword "reverse" asBool).getD false
    return .seq (sortedBy caseSensitive reversed keys values)

/-- A key and its value as a sequence. -/
def pairOf (entry : Value × Value) : Value := .seq [entry.1, entry.2]

/-- The entries of a map in the order of keys or values. -/
def dictsort : Arguments → Except Halt Value :=
  withNames do
    let v ← value
    noMore
    match v.pairs? with
    | none => fail .invalidOperation
    | some entries =>
      let byValue := (← keyword "by" asText) == some "value"
      let caseSensitive := (← keyword "case_sensitive" asBool).getD false
      let keys (entry : Value × Value) : List (Option Value) :=
        [some (if byValue then entry.2 else entry.1)]
      let reversed := (← keyword "reverse" asBool).getD false
      return .seq ((sortedBy caseSensitive reversed keys entries).map pairOf)

/-- The entries of a map. -/
def entries : Arguments → Except Halt Value :=
  positional do
    let v ← value
    noMore
    match v.pairs? with
    | some entries => return .iterable (entries.map pairOf) true
    | none => fail .invalidOperation

/-- Values in runs of equal keys. -/
def runsOf (same : Value → Value → Bool) : List (Value × Value) → List (Value × List Value)
  | [] => []
  | (key, v) :: rest =>
    match runsOf same rest with
    | (next, vs) :: runs =>
      if same key next then (next, v :: vs) :: runs else (key, [v]) :: (next, vs) :: runs
    | [] => [(key, [v])]

/-- The items of a value in groups that have an attribute in common, in its order. -/
def groupby : Arguments → Except Halt Value :=
  withNames do
    let v ← value
    let given ← optional asText
    noMore
    let otherwise := (← keyword "default" asIs).getD .undefined
    let caseSensitive := (← keyword "case_sensitive" asBool).getD false
    let path ← match given with
      | some path => pure path
      | none =>
        match ← keyword "attribute" asText with
        | some path => pure path
        | none => fail .missingArgument
    let key (v : Value) : Value := v.pathOr path otherwise
    let sorted := sortedBy caseSensitive false (fun v => [some (key v)]) (← itemsOf v)
    let runs := runsOf (fun a b => orderBy caseSensitive a b == .eq)
      (sorted.map fun v => (key v, v))
    return .seq (runs.map fun (key, values) => .group key values)

/-- The items of a value without repetitions. -/
def unique : Arguments → Except Halt Value :=
  withNames do
    let v ← value
    noMore
    let values ← itemsOf v
    let given ← keyword "attribute" asText
    let caseSensitive := (← keyword "case_sensitive" asBool).getD false
    let key (v : Value) : Value :=
      let v := match given with
        | some path => v.pathOr path .undefined
        | none => v
      if caseSensitive then v
      else match v.text? with
        | some s => .text (Text.lower s)
        | none => v
    let step (state : List Value × List Value) (v : Value) : List Value × List Value :=
      let k := key v
      if state.1.any fun seen => seen.order k == .eq then state else (k :: state.1, v :: state.2)
    return .seq (values.foldl step ([], [])).2.reverse

/-- The sum of the items of a value, which are numbers; undefined ones do not count. -/
def sum : Arguments → Except Halt Value :=
  positional do
    let v ← value
    noMore
    let values := (← itemsOf v).filter fun v => v.kind != .undefined
    if values.all fun v => v.kind = .number then lift (values.foldlM Value.add (.integer 0))
    else fail .invalidOperation

/-- The items of a value in rows of a length; a last one that is too short may be filled up. -/
def batch : Arguments → Except Halt Value :=
  positional do
    let v ← value
    let count ← takeAs asNat
    let filler := present (← next?)
    noMore
    if count = 0 then fail .invalidOperation
    else
      let values ← itemsOf v
      let fill (row : List Value) : List Value := match filler with
        | some f => row ++ List.replicate (min (count - row.length) Value.maxElements) f
        | none => row
      return .seq ((Value.chunks count values).map fun row => .seq (fill row))

/-- The items of a value in a number of columns; the first ones take what is left over, and the
others may get one value more to be as long. -/
def columns : Arguments → Except Halt Value :=
  positional do
    let v ← value
    let count ← takeAs asNat
    let filler := present (← next?)
    noMore
    if count = 0 || Value.maxElements < count then fail .invalidOperation
    else
      let values ← itemsOf v
      let each := values.length / count
      let extra := values.length % count
      let column (n : Nat) : Value :=
        let start := n * each + min n extra
        let part := (values.drop start).take (each + if n < extra then 1 else 0)
        match filler with
        | some f => .seq (if n < extra then part else part ++ [f])
        | none => .seq part
      return .seq ((List.range count).map column)

/-- The value of a key or attribute. -/
def attr : Arguments → Except Halt Value :=
  positional do
    let v ← value
    let key ← value
    noMore
    lift (v.item key)

/-- A value, or another one in its place if it is undefined, or false where that counts too. -/
def orDefault : Arguments → Except Halt Value :=
  positional do
    let v ← value
    let other := (← next?).getD (.text "")
    let lax := ((← next?).map Value.isTrue).getD false
    return if v.kind = .undefined || (lax && !v.isTrue) then other else v

/-- The entries of several maps in the order of their keys, each with its last value. -/
def merged (maps : List Value) : List (Value × Value) :=
  (maps.foldl (fun all m => Value.setEntries all (m.pairs?.getD [])) []).mergeSort fun a b =>
    a.1.order b.1 != .gt

/-- The items of a value in a row of several; what has no items stands there as a value that could
not be built. -/
def rowItems (v : Value) : List Value :=
  v.items?.getD [.invalid ("invalid operation: " ++ v.kind.name ++ " is not iterable")]

/-- Several values in one: maps make a map, sequences a sequence, and all else a row of their items
that are produced on demand. -/
def chain : Arguments → Except Halt Value :=
  positional do
    let values ← rest
    if values.all fun v => v.kind = .map then return .map (merged values) .joined
    else if values.all fun v => v.kind = .seq then return .seq (values.flatMap rowItems)
    else return .iterable (values.flatMap rowItems) false

/-- Rows of the items that stand at the same place, as long as the shortest row. -/
def zipRows : List (List Value) → List Value
  | rows =>
    let length := (rows.map List.length).min?.getD 0
    (List.range length).map fun n => .seq (rows.filterMap (·[n]?))

/-- The items of several values side by side. -/
def zip : Arguments → Except Halt Value :=
  positional do
    let rows ← (← rest).mapM itemsOf
    return .iterable (zipRows rows) true

/-- The filters on rows by name. -/
def rowFilters (e : Escaping) : List (String × (Arguments → Except Halt Value)) := [
  ("length", length), ("count", length), ("first", first), ("last", last), ("reverse", reverse),
  ("list", list), ("join", join e), ("min", extreme .lt), ("max", extreme .gt), ("sort", sort),
  ("dictsort", dictsort), ("items", entries), ("groupby", groupby), ("unique", unique),
  ("sum", sum), ("batch", batch), ("slice", columns), ("attr", attr), ("default", orDefault),
  ("d", orDefault), ("chain", chain), ("zip", zip)]

end Scaffold.Expr.Filter

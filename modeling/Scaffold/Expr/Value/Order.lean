import Scaffold.Decimal
import Scaffold.Expr.Value
import Scaffold.Expr.Value.View

/-!
# Order — numbers and the order of values
-/

set_option autoImplicit false

/-!
## Number — integers of 128 bits and doubles

Integers have 128 bits with a sign; an operation whose result needs more fails. Truth values and
doubles without fraction count as integers where one is asked for. An integer and a double are the
same if each is the other one's conversion; a double above all integers of a word converts to the
largest of them.
-/

namespace Scaffold.Expr

/-- The integer fits into a number of bits with a sign. -/
def fits (bits : Nat) (n : Int) : Bool :=
  -(Nat.pow 2 (bits - 1) : Nat) ≤ n && n < (Nat.pow 2 (bits - 1) : Nat)

namespace Value

/-- The integer that a value stands for, if it fits into a number of bits with a sign. Doubles
count up to 64 bits; two to the power of 63 stands for the integer below it. -/
def integer? (bits : Nat) (v : Value) : Option Int :=
  let within (bits : Nat) (n : Int) : Option Int := if fits bits n then some n else Option.none
  match v with
  | .bool b => some (if b then 1 else 0)
  | .int n _ => within bits n
  | .float x =>
    (Decimal.integer? x).bind fun n =>
      (within 64 (if n = (Nat.pow 2 63 : Nat) then n - 1 else n)).bind (within bits)
  | _ => Option.none

/-- The natural number that a value stands for. -/
def natural? (bits : Nat) (v : Value) : Option Nat :=
  match v.integer? (bits + 1) with
  | some (.ofNat n) => if n < Nat.pow 2 bits then some n else Option.none
  | _ => Option.none

end Value

/-- The double nearest to an integer. -/
def floatOfInt (n : Int) : Float :=
  match n with
  | .ofNat m => Float.ofNat m
  | .negSucc m => -(Float.ofNat (m + 1))

/-- The largest integer of the word that holds an integer. -/
def largestBeside (n : Int) (signed : Bool) : Int :=
  let top (bits : Nat) : Int := (Nat.pow 2 bits - 1 : Nat)
  if signed then (if fits 64 n then top 63 else top 127)
  else if n ≤ top 64 then top 64 else top 128

/-- The double that an integer converts to, if that converts back to the integer. -/
def exactFloat? (n : Int) (signed : Bool) : Option Float :=
  let x := floatOfInt n
  if Decimal.integer? x == some n || n = largestBeside n signed then some x else none

/-- Two operands brought to one form. -/
inductive Pair
  | ints (a b : Int)
  | floats (a b : Float)
  | texts (a b : String)

/-- The double that a value stands for; an inexact one only where that is allowed. -/
def Value.float? (lossy : Bool) : Value → Option Float
  | .bool b => some (if b then 1.0 else 0.0)
  | .int n signed => if lossy then some (floatOfInt n) else exactFloat? n signed
  | .float x => some x
  | _ => Option.none

/-- The integer of 128 bits with a sign that has the same bits as one without a sign that needs
more than 64 of them. -/
def Value.reinterpreted? : Value → Option Int
  | .int n false => if Nat.pow 2 64 ≤ n.natAbs then some (n.bmod (Nat.pow 2 128))
    else Option.none
  | _ => Option.none

/-- Brings two operands to one form: texts stay texts, a double makes doubles of both, and
otherwise both are integers. What is computed with has at most 128 bits with a sign, where two
integers that are both held in the wide word without sign are taken by their bits; what is only
compared may have more. -/
def Pair.of? (lossy : Bool) (a b : Value) : Option Pair :=
  match a, b with
  | .string s _, .string t _ => some (.texts s t)
  | .float x, b => (b.float? lossy).map (.floats x)
  | a, .float y => (a.float? lossy).map (.floats · y)
  | a, b =>
    if !lossy then do return .ints (← a.integer? 130) (← b.integer? 130)
    else match a.reinterpreted?, b.reinterpreted? with
      | some m, some n => some (.ints m n)
      | _, _ => do return .ints (← a.integer? 128) (← b.integer? 128)

end Scaffold.Expr

/-!
## Order — when values are the same, and which comes first

Numbers are the same when they stand for the same number, rows when their elements are, maps when
they have the same keys with the same values. Values of different classes are ordered by class,
numbers by what they stand for.
-/

namespace Scaffold.Expr.Value

/-- Whether two doubles are the same number. -/
def samePair : Pair → Bool
  | .ints a b => a == b
  | .floats x y => x == y
  | .texts s t => s == t

/-- Rows of so many elements each; the last one may be shorter. -/
def chunksOf {α : Type} (n : Nat) : Nat → List α → List (List α)
  | 0, _ => []
  | _, [] => []
  | fuel + 1, items => items.take n :: chunksOf n fuel (items.drop n)

/-- Elements in rows of so many each. -/
def chunks {α : Type} (n : Nat) (items : List α) : List (List α) :=
  chunksOf (max n 1) items.length items

mutual

/-- The same value. -/
def same : Value → Value → Bool
  | .undefined, b => b.kind = .undefined
  | .none, b => b.kind = .none
  | .bytes x, .bytes y => x == y
  | .seq xs _, b | .iterable xs _ _, b => b.isRow && sameAll xs (b.elements?.getD [])
  | .repeated xs times _, b =>
    let ys := b.elements?.getD []
    b.isRow && ys.length == xs.length * times && (chunks xs.length ys).all fun c => sameAll xs c
  | .group key items _, b =>
    match b.elements? with
    | some [k, i] => b.isRow && same key k && (i.isRow && sameAll items (i.elements?.getD []))
    | _ => false
  | .map entries _ _, b =>
    match b.pairs? with
    | some others => entries.length == others.length && sameEntries entries others
    | Option.none => false
  | .view of _ entries, b =>
    of.isOneObject b ||
      match b.pairs? with
      | some others => entries.length == others.length && sameEntries entries others
      | Option.none => false
  | .again of, b => of.isOneObject b
  | .fields m _, .fields n _ => m.size == n.size && m.entries.all fun (k, v) => n.get? k == some v
  | .fields m _, .map others _ _ | .fields m _, .view _ _ others =>
    m.size == others.length && m.entries.all fun (k, v) =>
      others.any fun (key, value) => key.text? == some k &&
        match v, value with
        | .text s, .string t _ => s == t
        | .list ss, .seq ts _ => ts.map text? == ss.map some
        | _, _ => false
  | .context, .context => true
  | .document, .document => true
  | .function f, .function g => f == g
  | .routine _ c _, .routine _ d _ => c == d
  | .cell _ i, .cell _ j => i == j
  | a, b =>
    match Pair.of? false a b with
    | some pair => samePair pair
    | Option.none => false

/-- The same values in the same order. -/
def sameAll : List Value → List Value → Bool
  | [], [] => true
  | x :: xs, y :: ys => same x y && sameAll xs ys
  | _, _ => false

/-- Every entry stands among the others. -/
def sameEntries : List (Value × Value) → List (Value × Value) → Bool
  | [], _ => true
  | (key, value) :: entries, others =>
    (others.any fun (k, v) => same key k && same value v) && sameEntries entries others

end

instance : BEq Value := ⟨same⟩

/-- The places of the classes in the order of values. -/
def Kind.rank : Kind → Nat
  | .undefined => 0
  | .none => 1
  | .bool => 2
  | .number => 3
  | .string => 4
  | .bytes => 5
  | .seq => 6
  | .map => 7
  | .iterable => 8
  | .plain => 9
  | .invalid => 10

/-- The order of two texts: by code points. -/
def orderTexts (s t : String) : Ordering :=
  compareOfLessAndEq s t

/-- The order of two lists of bytes. -/
def orderBytes : Bytes → Bytes → Ordering
  | [], [] => .eq
  | [], _ => .lt
  | _, [] => .gt
  | x :: xs, y :: ys => (compare x.toNat y.toNat).then (orderBytes xs ys)

/-- The order of doubles: that of the numbers, with those that are none at the ends. -/
def orderFloats (x y : Float) : Ordering :=
  let key (z : Float) : Int :=
    let bits : Nat := z.toBits.toNat
    if bits < Nat.pow 2 63 then bits else -((bits - Nat.pow 2 63 : Nat) : Int) - 1
  if x == y then .eq else compare (key x) (key y)

/-- The order of an integer and a double by the numbers that they are. -/
def orderMixed (n : Int) (x : Float) : Ordering :=
  match Decimal.Double.ofFloat x with
  | .nan => orderFloats 0.0 x
  | .infinite negative => if negative then .gt else .lt
  | .finite negative b =>
    let m : Int := if negative then -(b.mantissa : Int) else b.mantissa
    let shift := b.exponent.natAbs
    if 0 ≤ b.exponent then compare n (m * (Nat.pow 2 shift : Nat))
    else compare (n * (Nat.pow 2 shift : Nat)) m

/-- The order of two operands in one form. -/
def orderPair : Pair → Ordering
  | .ints a b => compare a b
  | .floats x y => orderFloats x y
  | .texts s t => orderTexts s t

mutual

/-- The order of two values. -/
def order : Value → Value → Ordering
  | .seq xs _, b => (orderRank .seq b).then (orderAll xs (b.elements?.getD []))
  | .iterable xs _ _, b => (orderRank .iterable b).then (orderAll xs (b.elements?.getD []))
  | .repeated xs times _, b =>
    let ys := b.elements?.getD []
    let rows := (chunks xs.length ys).take times
    (orderRank .iterable b).then
      ((rows.foldl (fun (o : Ordering) row => o.then (orderAll xs row)) Ordering.eq).then
        (compare (xs.length * times) ys.length))
  | .group key items _, b =>
    (orderRank .seq b).then <|
      match b.elements?.getD [] with
      | [] => .gt
      | [k] => (order key k).then .gt
      | k :: i :: _ => ((order key k).then (orderRank .seq i)).then
          (orderAll items (i.elements?.getD []))
  | .map entries _ _, b | .view _ _ entries, b =>
    (orderRank .map b).then (orderEntries entries (b.pairs?.getD []))
  | .bytes x, b =>
    (orderRank .bytes b).then <|
      match b with
      | .bytes y => orderBytes x y
      | _ => .eq
  | a, b =>
    (orderRank a.kind b).then <|
      match Pair.of? false a b with
      | some pair => orderPair pair
      | Option.none =>
        match a, b with
        | .int n _, .float x => orderMixed n x
        | .float x, .int n _ => (orderMixed n x).swap
        | _, _ => .eq

/-- The order of a class and the class of a value. -/
def orderRank (kind : Kind) (b : Value) : Ordering :=
  compare (Kind.rank kind) (Kind.rank b.kind)

/-- The order of rows: by the first elements that differ. -/
def orderAll : List Value → List Value → Ordering
  | [], [] => .eq
  | [], _ => .lt
  | _, [] => .gt
  | x :: xs, y :: ys => (order x y).then (orderAll xs ys)

/-- The order of maps: by the first entries that differ. -/
def orderEntries : List (Value × Value) → List (Value × Value) → Ordering
  | [], [] => .eq
  | [], _ => .lt
  | _, [] => .gt
  | (k, v) :: xs, (k', v') :: ys => ((order k k').then (order v v')).then (orderEntries xs ys)

end

/-- The same key of a map: the same value, where truth values and bytes stand apart from numbers
and texts. -/
def sameKey (a b : Value) : Bool :=
  (a.kind = .bool) == (b.kind = .bool) && (a.kind = .bytes) == (b.kind = .bytes) && same a b

/-- The value of a key in a list of entries. The only key of a map is found by any value that is
the same. -/
def lookupEntry (entries : List (Value × Value)) (key : Value) : Option Value :=
  match entries with
  | [(k, v)] => if same k key then some v else Option.none
  | entries => (entries.find? fun entry => entry.1.sameKey key).map Prod.snd

/-- Writes an entry: in place, or at the end. -/
def setEntry (key value : Value) : List (Value × Value) → List (Value × Value)
  | [] => [(key, value)]
  | (k, v) :: entries =>
    if k.sameKey key then (k, value) :: entries else (k, v) :: setEntry key value entries

/-- Writes entries in order. -/
def setEntries (entries more : List (Value × Value)) : List (Value × Value) :=
  more.foldl (fun entries entry => setEntry entry.1 entry.2 entries) entries

end Scaffold.Expr.Value

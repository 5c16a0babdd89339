import Scaffold.Decimal
import Scaffold.Expr.Value.Access
import Scaffold.Expr.Value.Print
import Scaffold.Occurrences

/-!
# Arithmetic — the operators on values

An operation on integers fails when its result needs more than 128 bits. Division gives a double,
division by floor and its remainder are Euclidean on integers.
-/

set_option autoImplicit false

namespace Scaffold.Decimal

/-- The Euclidean quotient of two doubles. -/
def quotient (x y : Float) : Float :=
  let q := x / y
  let q := if q < 0.0 then q.ceil else q.floor
  if remainder x y < 0.0 then (if 0.0 < y then q - 1.0 else q + 1.0) else q

end Scaffold.Decimal

namespace Scaffold.Expr.Value

/-- An integer of 128 bits. -/
def intOf (n : Int) : Except Halt Value :=
  if fits 128 n then .ok (.integer n) else .error .invalid

/-- The longest text that an operation may produce. -/
def maxText : Nat := Nat.pow 2 28

/-- A text several times, put together from halves; the number bounds how often it is halved. -/
def repeatText : Nat → Nat → String → String
  | 0, _, _ => ""
  | fuel + 1, times, s =>
    if times = 0 then ""
    else
      let half := repeatText fuel (times / 2) s
      if times % 2 = 0 then half ++ half else half ++ half ++ s

/-- The sum: of numbers, of texts, or of rows. -/
def add (a b : Value) : Except Halt Value :=
  if a.isRow && b.isRow then
    .ok (.iterable (a.elements?.getD [] ++ b.elements?.getD []) (a.isCounted && b.isCounted))
  else match Pair.of? true a b with
    | some (.ints m n) => intOf (m + n)
    | some (.floats x y) => .ok (.float (x + y))
    | some (.texts s t) => .ok (text (s ++ t))
    | Option.none => .error .invalid

/-- The difference of two numbers. -/
def subtract (a b : Value) : Except Halt Value :=
  match Pair.of? true a b with
  | some (.ints m n) => intOf (m - n)
  | some (.floats x y) => .ok (.float (x - y))
  | _ => .error .invalid

/-- What is repeated as often as a value says. -/
def times (n : Value) (whole : Nat → Except Halt Value) : Except Halt Value :=
  match n.natural? 64 with
  | some k => whole k
  | Option.none => .error .invalid

/-- A text a number of times. -/
def textTimes (s : String) (k : Nat) : Except Halt Value :=
  if maxText < k * s.utf8ByteSize then .error (.aborted (.overlong s k))
  else .ok (text (repeatText (k.log2 + 2) k s))

/-- A row a number of times. -/
def rowTimes (v : Value) (k : Nat) : Except Halt Value :=
  if v.isCounted then .ok (.repeated (v.elements?.getD []) k) else .error .invalid

/-- The product: of numbers, or of a text or row and how often it is repeated. -/
def multiply (a b : Value) : Except Halt Value :=
  match a.text?, b.text? with
  | some s, _ => times b (textTimes s)
  | _, some t => times a (textTimes t)
  | _, _ =>
    if a.isRow then times b (rowTimes a)
    else if b.isRow then times a (rowTimes b)
    else match Pair.of? true a b with
      | some (.ints m n) => intOf (m * n)
      | some (.floats x y) => .ok (.float (x * y))
      | _ => .error .invalid

/-- The quotient of two numbers as a double. -/
def divide (a b : Value) : Except Halt Value :=
  match a.float? true, b.float? true with
  | some x, some y => .ok (.float (x / y))
  | _, _ => .error .invalid

/-- The quotient of two numbers without its fraction. -/
def floorDivide (a b : Value) : Except Halt Value :=
  match Pair.of? true a b with
  | some (.ints m n) => if n = 0 then .error .invalid else intOf (m / n)
  | some (.floats x y) => .ok (.float (Decimal.quotient x y))
  | _ => .error .invalid

/-- The remainder of two numbers. -/
def remainder (a b : Value) : Except Halt Value :=
  match Pair.of? true a b with
  | some (.ints m n) => if n = 0 then .error .invalid else intOf (m % n)
  | some (.floats x y) => .ok (.float (Decimal.remainder x y))
  | _ => .error .invalid

/-- The power of a number. -/
def power (a b : Value) : Except Halt Value :=
  match Pair.of? true a b with
  | some (.ints m (.ofNat n)) =>
    if n < Nat.pow 2 32 then
      if m.natAbs ≤ 1 then
        .ok (.integer (if m = -1 then (if n % 2 = 0 then 1 else -1) else if n = 0 then 1 else m))
      else if n ≤ 128 then intOf (Int.pow m n)
      else .error .invalid
    else .error .invalid
  | some (.floats x y) => .ok (.float (Float.pow x y))
  | _ => .error .invalid

/-- The number with the other sign. The least integer has none; written as a number with a sign in
front it stands for the number without it. -/
def negate : Value → Except Halt Value
  | .int n signed => if n = (Nat.pow 2 127 : Nat) then .ok (.int n signed) else intOf (-n)
  | .float x => .ok (.float (-x))
  | _ => .error .invalid

/-- A text stands in another. -/
def textContains (s part : String) : Bool :=
  (Occurrences.cut part.toList s.toList).isSome

/-- Whether a container holds a value: a text a part, a map a key, a row an element. -/
def contains (container v : Value) : Except Halt Bool :=
  match container with
  | .undefined => .ok false
  | .map .. | .fields .. | .view .. => .ok (container.at? v).isSome
  | .seq .. | .iterable .. | .repeated .. | .group .. =>
    .ok ((container.elements?.getD []).any (·.same v))
  | .context | .document | .function _ | .routine .. | .cell .. => .ok false
  | _ =>
    match container.text? with
    | some s =>
      match v.text? with
      | some part => .ok (textContains s part)
      | Option.none => .ok (textContains s v.print)
    | Option.none => .error .invalid

/-- An operator applied to the values of its operands. -/
def binary (op : BinaryOp) (a b : Value) : Except Halt Value :=
  match op with
  | .equal => .ok (.bool (a.same b))
  | .unequal => .ok (.bool (!a.same b))
  | .less => .ok (.bool (a.order b = .lt))
  | .lessOrEqual => .ok (.bool (a.order b ≠ .gt))
  | .greater => .ok (.bool (a.order b = .gt))
  | .greaterOrEqual => .ok (.bool (a.order b ≠ .lt))
  | .and => .ok (.bool (a.isTrue && b.isTrue))
  | .or => .ok (if a.isTrue then a else b)
  | .add => a.add b
  | .subtract => a.subtract b
  | .multiply => a.multiply b
  | .divide => a.divide b
  | .floorDivide => a.floorDivide b
  | .remainder => a.remainder b
  | .power => a.power b
  | .concat => .ok (text (a.print ++ b.print))
  | .contains => .bool <$> b.contains a

/-- An operator applied to the value of its operand. -/
def unary (op : UnaryOp) (v : Value) : Except Halt Value :=
  match op with
  | .not => .ok (.bool (!v.isTrue))
  | .negate => v.negate

/-- The value of a constant. -/
def ofLiteral : Literal → Value
  | .none => .none
  | .bool b => .bool b
  | .int n => .count n
  | .float x => .float x
  | .string s => text s

mutual

/-- The value of an expression of constants. -/
def constant? : Tree → Option Value
  | .literal _ value => some (ofLiteral value)
  | .unary _ op operand => (constant? operand).bind fun v => (unary op v).toOption
  | .binary _ op left right => do
    (binary op (← constant? left) (← constant? right)).toOption
  | .list _ items => (constants? items).map .seq
  | .map _ entries => (constantPairs? entries).map fun entries => .map (setEntries [] entries) .plain
  | _ => Option.none

/-- The values of expressions of constants. -/
def constants? : List Tree → Option (List Value)
  | [] => some []
  | t :: ts => do return (← constant? t) :: (← constants? ts)

/-- The values of pairs of expressions of constants. -/
def constantPairs? : List (Tree × Tree) → Option (List (Value × Value))
  | [] => some []
  | (key, value) :: entries => do
    return (← constant? key, ← constant? value) :: (← constantPairs? entries)

end

end Scaffold.Expr.Value

import Scaffold.Decimal
import Scaffold.Expr.Arguments

/-!
# Number — filters on numbers
-/

set_option autoImplicit false

namespace Scaffold.Expr.Filter

open Params

/-- A number without its sign. -/
def abs : Arguments → Except Halt Value :=
  positional do
    let v ← value
    noMore
    match v with
    | .int n _ => if n < 0 then lift (Value.intOf n.natAbs) else return v
    | .float x => return .float x.abs
    | _ => fail .invalidOperation

/-- The integer of 128 bits on the near side of zero. -/
def truncate (x : Float) : Int :=
  let most : Int := (Nat.pow 2 127 - 1 : Nat)
  match Decimal.truncated? x with
  | some n => if most < n then most else if n < -most - 1 then -most - 1 else n
  | none => if x.isNaN then 0 else if 0.0 < x then most else -most - 1

/-- The integer that a text spells. -/
def integerOf? (text : List Char) : Option Int :=
  let (negative, digits) := match text with
    | '-' :: rest => (true, rest)
    | '+' :: rest => (false, rest)
    | rest => (false, rest)
  if digits.isEmpty || !digits.all Decimal.isDigit then none
  else
    let n : Int := Decimal.natOf digits
    let n := if negative then -n else n
    if fits 128 n then some n else none

/-- The double that a text spells: a decimal, or one of the values that have no digits. -/
def doubleOf? (text : List Char) : Option Float :=
  let (negative, rest) := match text with
    | '-' :: rest => (true, rest)
    | '+' :: rest => (false, rest)
    | rest => (false, rest)
  let signed (x : Float) : Float := if negative then -x else x
  match String.ofList (rest.map Char.toLower) with
  | "inf" | "infinity" => some (signed (1.0 / 0.0))
  | "nan" => some (0.0 / 0.0)
  | _ => Decimal.decimal? text

/-- The integer of a number or text. -/
def int : Arguments → Except Halt Value :=
  positional do
    let v ← value
    noMore
    match v with
    | .undefined | .none => return .integer 0
    | .bool b => return .integer (if b then 1 else 0)
    | .int .. => return v
    | .float x => return .integer (truncate x)
    | .string s _ =>
      match integerOf? s.toList, doubleOf? s.toList with
      | some n, _ => return .integer n
      | none, some x => return .integer (truncate x)
      | none, none => fail .invalidOperation
    | _ => fail .invalidOperation

/-- The double of a number or text. -/
def float : Arguments → Except Halt Value :=
  positional do
    let v ← value
    noMore
    match v with
    | .undefined | .none => return .float 0.0
    | .bool b => return .float (if b then 1.0 else 0.0)
    | .int n _ => return .float (floatOfInt n)
    | .float x => return .float x
    | .string s _ =>
      match doubleOf? s.toList with
      | some x => return .float x
      | none => fail .invalidOperation
    | _ => fail .invalidOperation

/-- A power of ten. -/
def powerOfTen (n : Int) : Float :=
  match n with
  | .ofNat m => Float.ofScientific 1 false (min m 400)
  | .negSucc m => 1.0 / Float.ofScientific 1 false (min (m + 1) 400)

/-- A number rounded to so many places; a half goes away from zero. -/
def round : Arguments → Except Halt Value :=
  positional do
    let v ← value
    let places := (← optional asInt).getD 0
    noMore
    match v with
    | .int .. => return v
    | .float x =>
      if fits 32 places then
        let scale := powerOfTen places
        return .float ((scale * x).round / scale)
      else fail .invalidOperation
    | _ => fail .invalidOperation

/-- Whether a value counts as true. -/
def bool : Arguments → Except Halt Value :=
  positional do
    return .bool (← value).isTrue

/-- The filters on numbers by name. -/
def numberFilters : List (String × (Arguments → Except Halt Value)) := [
  ("abs", abs), ("int", int), ("float", float), ("round", round), ("bool", bool)]

end Scaffold.Expr.Filter

import Scaffold.Decimal
import Scaffold.Script.Quoting
import Scaffold.Script.Tree

/-!
# Numeral — numbers in scripts
-/

set_option autoImplicit false

/-!
## Floating — numbers with a fraction that texts begin with

A number has digits with at most one point and may have an exponent; numbers in base sixteen, those
beyond all bounds and those that are none are spelled as well.
-/

namespace Scaffold.Script.Floating

/-- The digits of a number at the start of a text, with its point and its exponent. -/
def numeral (cs : List Char) : List Char :=
  let whole := cs.takeWhile Decimal.isDigit
  let rest := cs.drop whole.length
  let fraction := match rest with
    | '.' :: rest => '.' :: rest.takeWhile Decimal.isDigit
    | _ => []
  let body := whole ++ fraction
  if !body.any Decimal.isDigit then []
  else
    let exponent := match cs.drop body.length with
      | e :: rest =>
        if e == 'e' || e == 'E' then
          let sign := (rest.take 1).filter fun c => c == '+' || c == '-'
          let digits := (rest.drop sign.length).takeWhile Decimal.isDigit
          if digits.isEmpty then [] else e :: sign ++ digits
        else []
      | [] => []
    body ++ exponent

/-- The digits of a number in base sixteen that a text begins with. -/
def hexDigits : List Char → Option (List Char)
  | '0' :: x :: rest =>
    let digits := rest.takeWhile fun c => (spelledNumber 16 1 [c]).isSome
    if (x == 'x' || x == 'X') && !digits.isEmpty then some digits else none
  | _ => none

/-- The number without a sign that a text begins with, and what follows it. -/
def magnitudeAt? (cs : List Char) : Option (Float × List Char) :=
  let word (name : String) : Bool := name.toList.isPrefixOf (cs.map Char.toLower)
  match hexDigits cs with
  | some digits => some (Float.ofNat ((Decimal.digits? 16 digits).getD 0), cs.drop (2 + digits.length))
  | none =>
    if word "infinity" then some (1.0 / 0.0, cs.drop 8)
    else if word "inf" then some (1.0 / 0.0, cs.drop 3)
    else if word "nan" then some (0.0 / 0.0, cs.drop 3)
    else
      match numeral cs with
      | [] => none
      | digits => (Decimal.unsigned? digits).map fun x => (x, cs.drop digits.length)

/-- The number that a text begins with, behind blanks, and what follows it. -/
def at? (text : String) : Option (Float × List Char) :=
  let isBlank (c : Char) : Bool := c == ' ' || ('\t' ≤ c && c ≤ '\r')
  match text.toList.dropWhile isBlank with
  | '-' :: rest => (magnitudeAt? rest).map fun (x, rest) => (-x, rest)
  | '+' :: rest => magnitudeAt? rest
  | rest => magnitudeAt? rest

/-- The number that all of a text spells. -/
def whole? (text : String) : Option Float :=
  match at? text with
  | some (x, rest) =>
    if rest.all fun c => c == ' ' || ('\t' ≤ c && c ≤ '\r') then some x else none
  | none => none

end Scaffold.Script.Floating

/-!
## Numeral — how scripts spell numbers

A number begins with a digit. `0x` in front stands for base sixteen and `0` for base eight; in the
extended shell a base and a hash in front stand for any base up to 64. Numbers have 64 bits.
-/

namespace Scaffold.Script.Numeral

/-- A number of 64 bits. -/
def wrapped (n : Int) : Int := Int.bmod n (Nat.pow 2 64)

/-- The greatest number. -/
def greatest : Nat := Nat.pow 2 63 - 1

/-- What is wrong with a number. -/
inductive Fault
  /-- A digit does not belong to the base. -/
  | digit
  /-- There are two bases. -/
  | twoBases
  | base
  /-- No digit follows the base. -/
  | noDigit
  deriving DecidableEq, Repr

/-- The value of a digit in a base; letters mean the same in both cases up to base 36. -/
def digit? (base : Nat) (c : Char) : Option Nat :=
  if c.isDigit then some (c.toNat - 48)
  else if c.isLower then some (c.toNat - 87)
  else if c.isUpper then some (c.toNat - (if base ≤ 36 then 55 else 29))
  else if c == '@' then some 62
  else if c == '_' then some 63
  else none

/-- The character may stand in a number of the extended shell. -/
def isNumberChar (c : Char) : Bool := c.isAlphanum || c == '#' || c == '@' || c == '_'

/-- Goes on with a number; `given` tells that its base is known. -/
def extendedFrom (base : Nat) (given : Bool) (n : Nat) : List Char → Except Fault Nat
  | [] => .ok n
  | '#' :: rest =>
    if given then .error .twoBases
    else if n < 2 || 64 < n then .error .base
    else if !(rest.head?.any fun c => (digit? 10 c).isSome) then .error .noDigit
    else extendedFrom n true 0 rest
  | c :: rest =>
    match digit? base c with
    | none => .ok n
    | some d =>
      if base ≤ d then .error .digit
      else extendedFrom base given ((n * base + d) % Nat.pow 2 64) rest

/-- The number that characters spell in the extended shell. -/
def extended : List Char → Except Fault Nat
  | ['0'] => .ok 0
  | '0' :: 'x' :: rest | '0' :: 'X' :: rest => extendedFrom 16 true 0 rest
  | '0' :: rest => extendedFrom 8 true 0 rest
  | cs => extendedFrom 10 false 0 cs

/-- The number that a text begins with in the plain shell, and what follows it. -/
def plain (text : List Char) : Nat × List Char :=
  let isOf (base : Nat) (c : Char) : Bool :=
    c.isAlphanum && (digit? base c).any (decide <| · < base)
  let within (base : Nat) (rest : List Char) : Nat × List Char :=
    let digits := rest.takeWhile (isOf base)
    (digits.foldl (fun n c => n * base + (digit? base c).getD 0) 0, rest.drop digits.length)
  match text with
  | '0' :: x :: d :: rest =>
    if (x == 'x' || x == 'X') && isOf 16 d then within 16 (d :: rest) else within 8 text
  | '0' :: _ => within 8 text
  | text => within 10 text

/-- The number that the value of a variable spells in the plain shell: blanks may stand around it
and a sign in front. -/
def value? (text : String) : Option Int :=
  let isBlank (c : Char) : Bool := c == ' ' || ('\t' ≤ c && c ≤ '\r')
  let cs := text.toList.dropWhile isBlank
  let (negative, digits) := match cs with
    | '-' :: rest => (true, rest)
    | '+' :: rest => (false, rest)
    | rest => (false, rest)
  if cs.isEmpty then some 0
  else
    let (n, rest) := plain digits
    if rest.length = digits.length || !rest.all isBlank then none
    else if negative then (if greatest + 1 < n then none else some (-(n : Int)))
    else if greatest < n then none
    else some n

end Scaffold.Script.Numeral

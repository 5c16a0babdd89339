/-!
# Decimal — doubles and their decimal texts

The exact value of a double, which digits it is written with, how they are laid out, and how they
are read again.
-/

set_option autoImplicit false

/-!
## Binary — the exact value of a double

A finite double is `mantissa * 2 ^ exponent` with a sign. Everything that has to be exact about
floating point numbers is computed on these parts.
-/

namespace Scaffold.Decimal

/-- The magnitude of a finite double, `mantissa * 2 ^ exponent`. -/
structure Binary where
  mantissa : Nat
  exponent : Int
  deriving DecidableEq, Repr

/-- The classes of doubles. -/
inductive Double
  | nan
  | infinite (negative : Bool)
  | finite (negative : Bool) (magnitude : Binary)
  deriving DecidableEq, Repr

/-- The class and the parts of a double. -/
def Double.ofFloat (x : Float) : Double :=
  let bits : Nat := x.toBits.toNat
  let negative := bits / Nat.pow 2 63 == 1
  let exponent : Nat := bits / Nat.pow 2 52 % 2048
  let fraction : Nat := bits % Nat.pow 2 52
  if exponent == 2047 then
    if fraction == 0 then .infinite negative else .nan
  else if exponent == 0 then .finite negative ⟨fraction, -1074⟩
  else .finite negative ⟨fraction + Nat.pow 2 52, Int.ofNat exponent - 1075⟩

/-- The integral part of a magnitude. -/
def Binary.floor (b : Binary) : Nat :=
  match b.exponent with
  | .ofNat e => b.mantissa * Nat.pow 2 e
  | .negSucc e => b.mantissa / Nat.pow 2 (e + 1)

/-- The magnitude has no fractional part. -/
def Binary.isIntegral (b : Binary) : Bool :=
  match b.exponent with
  | .ofNat _ => true
  | .negSucc e => b.mantissa % Nat.pow 2 (e + 1) == 0

/-- The integer that a finite double without fractional part stands for. -/
def integer? (x : Float) : Option Int :=
  match Double.ofFloat x with
  | .finite negative b =>
    if b.isIntegral then some (if negative then -(b.floor : Int) else b.floor) else none
  | _ => none

/-- The integer nearest to zero's side of a finite double. -/
def truncated? (x : Float) : Option Int :=
  match Double.ofFloat x with
  | .finite negative b => some (if negative then -(b.floor : Int) else b.floor)
  | _ => none

end Scaffold.Decimal

/-!
## Remainder — what is left when doubles are divided

Both doubles are whole multiples of one power of two, so that the remainder is that of whole numbers.
-/

namespace Scaffold.Decimal

/-- The double `m * 2 ^ e`, which has at most 53 significant bits. -/
def scaled (m : Nat) (e : Int) : Float :=
  let extra := m.log2 - 52
  Float.scaleB (Float.ofNat (m >>> extra)) (e + extra)

/-- The remainder of two doubles, with the sign of the first. -/
def remainder (x y : Float) : Float :=
  match Double.ofFloat x, Double.ofFloat y with
  | .finite negative a, .finite _ b =>
    if b.mantissa = 0 then 0.0 / 0.0
    else
      let e := min a.exponent b.exponent
      let aligned (c : Binary) : Nat := c.mantissa * Nat.pow 2 (c.exponent - e).toNat
      let m := aligned a % aligned b
      let r := scaled m e
      if negative then -r else r
  | .finite .., .infinite _ => x
  | _, _ => 0.0 / 0.0

end Scaffold.Decimal

/-!
## Shortest — the fewest digits that read back

A double is the only one that the reals of a small interval round to. `shortest` looks, on the
grids of one to seventeen digits, for a neighbour of the value inside that interval; the first
grid with a hit gives the digits, of two hits the nearer one.
-/

namespace Scaffold.Decimal

/-- A decimal `0.d₁d₂… * 10 ^ point`: the digits without zeros at either end, and where the
point stands. Zero has no digits. -/
structure Digits where
  digits : List Nat
  point : Int
  deriving DecidableEq, Repr

/-- The reals that round to a value: `low`, the value itself and `high` as numerators over one
denominator; whether the ends belong to it. -/
structure Interval where
  low : Nat
  value : Nat
  high : Nat
  denominator : Nat
  closed : Bool

/-- The rounding interval of a magnitude. Below a power of two the values lie twice as dense. -/
def Interval.ofBinary (b : Binary) : Interval :=
  let low := if b.mantissa == Nat.pow 2 52 && -1074 < b.exponent then 4 * b.mantissa - 1
    else 4 * b.mantissa - 2
  let closed := b.mantissa % 2 == 0
  match b.exponent - 2 with
  | .ofNat e =>
    let unit := Nat.pow 2 e
    ⟨low * unit, 4 * b.mantissa * unit, (4 * b.mantissa + 2) * unit, 1, closed⟩
  | .negSucc e => ⟨low, 4 * b.mantissa, 4 * b.mantissa + 2, Nat.pow 2 (e + 1), closed⟩

/-- Whether `numerator / denominator` lies in the interval, both over its denominator. -/
def Interval.holds (i : Interval) (numerator scale : Nat) : Bool :=
  if i.closed then i.low * scale ≤ numerator && numerator ≤ i.high * scale
  else i.low * scale < numerator && numerator < i.high * scale

/-- The decimal digits of a number, most significant first; none for zero. -/
def digitsOf (n : Nat) : List Nat :=
  if n = 0 then [] else digitsOf (n / 10) ++ [n % 10]

/-- Drops the zeros at the end. -/
def dropTrailingZeros (digits : List Nat) : List Nat :=
  (digits.reverse.dropWhile (· == 0)).reverse

/-- The number of digits before the point of `numerator / denominator`; for values below one,
less the zeros that follow the point. -/
def pointOf (numerator denominator : Nat) : Int :=
  if denominator ≤ numerator then (digitsOf (numerator / denominator)).length
  else
    let rec search (fuel : Nat) (scaled : Nat) (point : Int) : Int :=
      match fuel with
      | 0 => point
      | fuel + 1 =>
        if denominator ≤ scaled * 10 then point else search fuel (scaled * 10) (point - 1)
    search 400 numerator 0

/-- The neighbour on the grid of `count` digits that lies in the interval, as a multiple of the
grid's unit. -/
def Interval.pick (i : Interval) (point : Int) (count : Nat) : Option Nat :=
  let (up, down) : Nat × Nat := match point - count with
    | .ofNat e => (1, Nat.pow 10 e)
    | .negSucc e => (Nat.pow 10 (e + 1), 1)
  -- the unit of the grid is `down / up`
  let unit := i.denominator * down
  let below := i.value * up / unit
  let rest := i.value * up - below * unit
  let fits (n : Nat) := i.holds (n * unit) up
  match fits below, fits (below + 1) with
  | true, true =>
    if 2 * rest < unit then some below
    else if unit < 2 * rest then some (below + 1)
    else if below % 2 == 0 then some below else some (below + 1)
  | true, false => some below
  | false, true => some (below + 1)
  | false, false => none

/-- The fewest digits that read back to this magnitude, and of those the nearest. -/
def shortest (b : Binary) : Digits :=
  if b.mantissa == 0 then ⟨[], 0⟩
  else
    let i := Interval.ofBinary b
    let point := pointOf i.value i.denominator
    match (List.range 17).findSome? fun n =>
        (i.pick point (n + 1)).map fun multiple => (n + 1, multiple) with
    | none => ⟨[], 0⟩
    | some (count, multiple) =>
      let digits := digitsOf multiple
      ⟨dropTrailingZeros digits, point + (digits.length : Int) - count⟩

end Scaffold.Decimal

/-!
## Layout — how the digits of a number are written

A layout says which numbers are written positionally, how an exponent looks, and which texts
stand for the values that have no digits.
-/

namespace Scaffold.Decimal

/-- The decisions of one way to write floating point numbers. -/
structure Layout where
  /-- The least exponent that is written positionally; `none`: all are. -/
  least : Option Int
  /-- The largest exponent that is written positionally; `none`: all are. -/
  most : Option Int
  /-- The sign in front of an exponent that is not negative. -/
  plus : String
  /-- The least number of digits of an exponent. -/
  width : Nat
  nan : String
  infinite : String
  negativeInfinite : String

/-- The character of a digit. -/
def digitChar (d : Nat) : Char :=
  Char.ofNat (48 + d)

/-- Digits as text. -/
def digitText (digits : List Nat) : String :=
  String.ofList (digits.map digitChar)

/-- Writes digits around a point, with at least one digit on either side. -/
def positional (d : Digits) : String :=
  let count : Int := d.digits.length
  if d.digits.isEmpty then "0.0"
  else if d.point ≤ 0 then
    "0." ++ digitText (List.replicate (-d.point).toNat 0 ++ d.digits)
  else if count ≤ d.point then
    digitText (d.digits ++ List.replicate (d.point - count).toNat 0) ++ ".0"
  else
    digitText (d.digits.take d.point.toNat) ++ "." ++ digitText (d.digits.drop d.point.toNat)

/-- Pads a number with zeros in front. -/
def padded (width n : Nat) : String :=
  let text := toString n
  String.ofList (List.replicate (width - text.length) '0') ++ text

/-- Writes digits with an exponent. -/
def scientific (layout : Layout) (d : Digits) : String :=
  let exponent := d.point - 1
  let sign := if exponent < 0 then "-" else layout.plus
  let lead := digitText (d.digits.take 1)
  let rest := if d.digits.length ≤ 1 then "" else "." ++ digitText (d.digits.drop 1)
  lead ++ rest ++ "e" ++ sign ++ padded layout.width exponent.natAbs

/-- Whether an exponent lies in the positional range. -/
def Layout.isPositional (layout : Layout) (exponent : Int) : Bool :=
  layout.least.all (· ≤ exponent) && layout.most.all (exponent ≤ ·)

/-- The text of a double. -/
def Layout.render (layout : Layout) (x : Float) : String :=
  match Double.ofFloat x with
  | .nan => layout.nan
  | .infinite negative => if negative then layout.negativeInfinite else layout.infinite
  | .finite negative b =>
    let d := shortest b
    let text :=
      if d.digits.isEmpty || layout.isPositional (d.point - 1) then positional d
      else scientific layout d
    if negative then "-" ++ text else text

/-- Positional always. -/
def plain : Layout := ⟨none, none, "", 1, "NaN", "inf", "-inf"⟩

/-- No two whole numbers are written in the same way. -/
theorem toString_injective {m n : Nat} (h : toString m = toString n) : m = n := by
  have hdigits : Nat.toDigits 10 m = Nat.toDigits 10 n := by
    rw [← Nat.toList_repr, ← Nat.toList_repr]
    exact congrArg String.toList h
  rw [← Nat.ofDigitChars_ten_toDigits (n := m), hdigits, Nat.ofDigitChars_ten_toDigits]

end Scaffold.Decimal

/-!
## Rounded — doubles with a number of digits that is asked for

The exact value of a double is rounded on the grid of the digits that are asked for; a value in
the middle between two of them goes to the even one.
-/

namespace Scaffold.Decimal

/-- The whole number nearest to a quotient; of two that are as near, the even one. -/
def nearestWhole (numerator denominator : Nat) : Nat :=
  let below := numerator / denominator
  let rest := numerator % denominator
  if 2 * rest < denominator then below
  else if denominator < 2 * rest then below + 1
  else if below % 2 == 0 then below else below + 1

/-- A magnitude as a quotient. -/
def Binary.quotient (b : Binary) : Nat × Nat :=
  match b.exponent with
  | .ofNat e => (b.mantissa * Nat.pow 2 e, 1)
  | .negSucc e => (b.mantissa, Nat.pow 2 (e + 1))

/-- The magnitude nearest to a quotient whose mantissa has so many bits. -/
def Binary.nearestTo (bits numerator denominator : Nat) : Binary :=
  let size : Int := (Nat.log2 numerator : Int) - Nat.log2 denominator - bits
  let scaled (exponent : Int) : Nat := match exponent with
    | .ofNat e => nearestWhole numerator (denominator * Nat.pow 2 e)
    | .negSucc e => nearestWhole (numerator * Nat.pow 2 (e + 1)) denominator
  if numerator = 0 then ⟨0, 0⟩
  else if scaled size < Nat.pow 2 bits then ⟨scaled size, size⟩
  else ⟨scaled (size + 1), size + 1⟩

/-- A magnitude in units of `10 ^ -places`. -/
def Binary.inUnits (b : Binary) (places : Int) : Nat :=
  let (numerator, denominator) := b.quotient
  match places with
  | .ofNat n => nearestWhole (numerator * Nat.pow 10 n) denominator
  | .negSucc n => nearestWhole numerator (denominator * Nat.pow 10 (n + 1))

/-- The digits of a number, at least one. -/
def someDigits (n : Nat) : List Nat :=
  if n = 0 then [0] else digitsOf n

/-- Digits with zeros in front up to a length. -/
def paddedDigits (length : Nat) (digits : List Nat) : List Nat :=
  List.replicate (length - digits.length) 0 ++ digits

/-- Digits with a point behind the first ones; the point may be asked for where none follows. -/
def pointed (whole : List Nat) (point : Bool) (fraction : List Nat) : String :=
  digitText whole ++ (if point || !fraction.isEmpty then "." else "") ++ digitText fraction

/-- A magnitude rounded to so many places behind the point: the digits on either side of it. -/
def Binary.fixed (b : Binary) (places : Nat) : List Nat × List Nat :=
  let digits := paddedDigits (places + 1) (someDigits (b.inUnits places))
  (digits.take (digits.length - places), digits.drop (digits.length - places))

/-- A magnitude rounded to one digit in front of the point and so many behind it: the digits, and
the power of ten that belongs to the first of them. -/
def Binary.leading (b : Binary) (places : Nat) : List Nat × Int :=
  if b.mantissa = 0 then (List.replicate (places + 1) 0, 0)
  else
    let (numerator, denominator) := b.quotient
    let exponent := pointOf numerator denominator - 1
    let digits := someDigits (b.inUnits (places - exponent))
    (digits.take (places + 1), exponent + (digits.length : Int) - (places + 1))

end Scaffold.Decimal

/-!
## Read — numbers from text

`decimal?` reads a decimal with optional fraction and exponent and gives the nearest double.
`digits?` reads an unsigned number in some base.
-/

namespace Scaffold.Decimal

/-- The value of a digit in bases up to 36. -/
def digitValue? (c : Char) : Option Nat :=
  if '0' ≤ c && c ≤ '9' then some (c.toNat - 48)
  else if 'a' ≤ c && c ≤ 'z' then some (c.toNat - 87)
  else if 'A' ≤ c && c ≤ 'Z' then some (c.toNat - 55)
  else none

/-- Whether a character is a decimal digit. -/
def isDigit (c : Char) : Bool :=
  '0' ≤ c && c ≤ '9'

/-- Reads one or more digits of a base. -/
def digits? (base : Nat) (text : List Char) : Option Nat :=
  if text.isEmpty then none
  else text.foldlM (fun n c => do
    let d ← digitValue? c
    if d < base then return n * base + d else none) 0

/-- The number that decimal digits stand for. -/
def natOf (digits : List Char) : Nat :=
  digits.foldl (fun n c => n * 10 + (c.toNat - 48)) 0

/-- The double nearest to `mantissa * 10 ^ exponent`. -/
def nearest (mantissa : Nat) (exponent : Int) : Float :=
  if mantissa = 0 then 0.0
  else
    let size : Int := (toString mantissa).length
    if 400 < exponent + size then 1.0 / 0.0
    else if exponent + size < -400 then 0.0
    else match exponent with
      | .ofNat e => Float.ofScientific mantissa false e
      | .negSucc e => Float.ofScientific mantissa true (e + 1)

/-- Reads `12`, `1.5`, `.5`, `5.`, `1e-7`: digits with at most one point, at least one digit, and
an optional exponent; no sign. The number is the first part of the answer, times ten to the power of
the second one. -/
def scientific? (text : List Char) : Option (Nat × Int) :=
  let whole := text.takeWhile isDigit
  let rest := text.dropWhile isDigit
  let (fraction, rest) := match rest with
    | '.' :: rest => (rest.takeWhile isDigit, rest.dropWhile isDigit)
    | rest => ([], rest)
  if whole.isEmpty && fraction.isEmpty then none
  else
    let mantissa := natOf (whole ++ fraction)
    let value (exponent : Int) := some (mantissa, exponent - fraction.length)
    match rest with
    | [] => value 0
    | e :: rest =>
      if e == 'e' || e == 'E' then
        let (negative, digits) := match rest with
          | '-' :: digits => (true, digits)
          | '+' :: digits => (false, digits)
          | digits => (false, digits)
        if digits.isEmpty || !digits.all isDigit then none
        else value (if negative then -(natOf digits : Int) else natOf digits)
      else none

/-- Reads a decimal without a sign as the nearest double. -/
def unsigned? (text : List Char) : Option Float :=
  (scientific? text).map fun (mantissa, exponent) => nearest mantissa exponent

/-- Reads a decimal with an optional sign. -/
def decimal? (text : List Char) : Option Float :=
  match text with
  | '-' :: rest => (unsigned? rest).map (fun x => -x)
  | '+' :: rest => unsigned? rest
  | rest => unsigned? rest

end Scaffold.Decimal

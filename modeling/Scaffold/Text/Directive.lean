import Scaffold.Decimal

/-!
# Directive — values at marked places of a text

A directive begins with a percent sign and ends with the letter of a conversion. Between them may
stand the name of an argument in brackets, flags, a width and a precision. A directive without
name takes the next argument.
-/

set_option autoImplicit false

namespace Scaffold.Text

/-- A width or precision. -/
inductive Measure
  | absent
  | given (n : Nat)
  /-- The next argument tells. -/
  | argument

/-- How a value is written at a marked place. -/
structure Directive where
  name : Option String := none
  flags : List Char := []
  width : Measure := .absent
  precision : Measure := .absent
  conversion : Char

namespace Directive

/-- The flags of a directive. -/
def isFlag (c : Char) : Bool := ['-', '+', ' ', '0', '#'].contains c

/-- Reads a width or precision: digits, or a star; none at all stands for `otherwise`. -/
def readMeasure (otherwise : Measure) : List Char → Measure × List Char
  | '*' :: rest => (.argument, rest)
  | text =>
    let digits := text.takeWhile Char.isDigit
    if digits.isEmpty then (otherwise, text)
    else (.given (digits.foldl (fun n c => n * 10 + (c.toNat - 48)) 0), text.dropWhile Char.isDigit)

/-- Reads a name in brackets, if one comes first. -/
def readName : List Char → Option (Option String × List Char)
  | '(' :: text =>
    match text.dropWhile (· != ')') with
    | _ :: rest => some (some (String.ofList (text.takeWhile (· != ')'))), rest)
    | [] => none
  | text => some (none, text)

/-- Reads digits as a number, if there are any. -/
def readNumber (text : List Char) : Option Nat × List Char :=
  match readMeasure .absent text with
  | (.given n, rest) => (some n, rest)
  | _ => (none, text)

/-- Reads what follows a percent sign, where no argument tells a width or precision and a point
without digits asks for no precision. One letter of a size may stand in front of the conversion and
says nothing. -/
def read (text : List Char) : Option (Directive × List Char) := do
  let (name, text) ← readName text
  let flags := text.takeWhile isFlag
  let (width, text) := readNumber (text.dropWhile isFlag)
  let (precision, text) := match text with
    | '.' :: rest => readNumber rest
    | text => (none, text)
  let measure (n : Option Nat) : Measure := (n.map Measure.given).getD .absent
  let text := match text with
    | c :: rest => if ['h', 'l', 'L'].contains c then rest else text
    | [] => []
  match text with
  | conversion :: rest =>
    return ({ name, flags, width := measure width, precision := measure precision, conversion },
      rest)
  | [] => none

/-- Writes a part with its sign in a width: blanks stand in front of it, or zeros behind the sign,
or blanks behind it. -/
def place (flags : List Char) (width : Nat) (zeros : Bool) (sign body : String) : String :=
  let missing := width - sign.length - body.length
  let fill (c : Char) : String := String.ofList (List.replicate missing c)
  if flags.contains '-' then sign ++ body ++ fill ' '
  else if zeros && flags.contains '0' then sign ++ fill '0' ++ body
  else fill ' ' ++ sign ++ body

/-- The sign of a number. -/
def signOf (flags : List Char) (negative : Bool) : String :=
  if negative then "-"
  else if flags.contains '+' then "+"
  else if flags.contains ' ' then " "
  else ""

/-- The digits of a number in a base up to sixteen. -/
def baseDigits (base : Nat) (n : Nat) : String :=
  String.ofList (Nat.toDigits base n)

/-- Digits with an exponent of at least two digits. -/
def exponential (point : Bool) (digits : List Nat) (exponent : Int) : String :=
  Decimal.pointed (digits.take 1) point (digits.drop 1) ++ "e"
    ++ (if exponent < 0 then "-" else "+") ++ Decimal.padded 2 exponent.natAbs

/-- A magnitude as one of the conversions of doubles writes it. -/
def magnitude (conversion : Char) (point : Bool) (precision : Nat) (b : Decimal.Binary) : String :=
  match conversion with
  | 'f' =>
    let (whole, fraction) := b.fixed precision
    Decimal.pointed whole point fraction
  | 'e' =>
    let (digits, exponent) := b.leading precision
    exponential point digits exponent
  | _ =>
    -- as many digits as are asked for, without zeros at the end
    let count := max precision 1
    let (digits, exponent) := b.leading (count - 1)
    let kept (digits : List Nat) : List Nat :=
      if point then digits else Decimal.dropTrailingZeros digits
    if -4 ≤ exponent && exponent < count then
      let (whole, fraction) := b.fixed ((count : Int) - 1 - exponent).toNat
      Decimal.pointed whole point (kept fraction)
    else exponential point (digits.take 1 ++ kept (digits.drop 1)) exponent

/-- Writes a number with a fraction. -/
def double (d : Directive) (width : Nat) (precision : Nat) (x : Decimal.Double) : String :=
  let small := d.conversion.toLower
  let text (s : String) : String := if d.conversion = small then s else s.map Char.toUpper
  match x with
  | .nan => place d.flags width false (signOf d.flags false) (text "nan")
  | .infinite negative => place d.flags width false (signOf d.flags negative) (text "inf")
  | .finite negative b =>
    place d.flags width true (signOf d.flags negative)
      (text (magnitude small (d.flags.contains '#') precision b))

/-- Writes an integer in a base, with at least so many digits. -/
def integer (d : Directive) (width : Nat) (digits : Nat) (n : Int) : String :=
  let (base, mark) : Nat × String := match d.conversion with
    | 'o' => (8, "0o")
    | 'x' => (16, "0x")
    | 'X' => (16, "0X")
    | _ => (10, "")
  let body := baseDigits base n.natAbs
  let body := if d.conversion = 'X' then body.map Char.toUpper else body
  let body := String.ofList (List.replicate (digits - body.length) '0') ++ body
  let mark := if d.flags.contains '#' then mark else ""
  place d.flags width true (signOf d.flags (n < 0) ++ mark) body

end Directive

end Scaffold.Text

import Scaffold.Decimal
import Scaffold.Script.Awk.Token
import Scaffold.Text.Directive

/-!
# Datum — texts that count as numbers, and numbers as texts

A text that comes from the input counts as a number in comparisons if it looks like one. A number is
written as an integer if it is one, and in a format otherwise.
-/

set_option autoImplicit false

namespace Scaffold.Script.Awk

open Scaffold.Text (Directive Measure)

/-- A value. -/
inductive Datum
  /-- The value of what nothing was assigned to: zero and the empty text. -/
  | absent
  | number (x : Float)
  | text (s : String)
  /-- A text of the input. -/
  | given (s : String)
  deriving Inhabited

namespace Datum

/-- The number that a value counts as. -/
def toNumber : Datum → Float
  | .absent => 0
  | .number x => x
  | .text s | .given s => ((Floating.at? s).map Prod.fst).getD 0

/-- The number that a value is; a text of the input is one if it looks like one. -/
def number? : Datum → Option Float
  | .absent => some 0
  | .number x => some x
  | .text _ => none
  | .given s => Floating.whole? s

/-- A condition on a value holds. -/
def isTrue : Datum → Bool
  | .absent => false
  | .number x => x != 0
  | .text s => !s.isEmpty
  | .given s => (Floating.whole? s).elim (!s.isEmpty) (· != 0)

end Datum

/-! ## Formats -/

/-- The integer on zero's side of a number; what is none becomes the largest one. -/
def wholePart (x : Float) : Int :=
  let most : Int := (Nat.pow 2 63 : Nat) - 1
  match Decimal.truncated? x with
  | some n => if n < -most - 1 then -most - 1 else if 2 * most + 1 < n then 2 * most + 1 else n
  | none => if x < 0 then -most - 1 else most

/-- Writes an integer as one of the conversions of integers does. -/
def integerText (d : Directive) (width : Nat) (precision : Option Nat) (n : Int) : String :=
  let bits : Nat := (n % (Nat.pow 2 64 : Nat)).toNat
  let digits (base m : Nat) : String := String.ofList (Nat.toDigits base m)
  let isMarked := d.flags.contains '#' && bits != 0
  let (sign, body) := match d.conversion with
    | 'o' => ((if isMarked then "0" else ""), digits 8 bits)
    | 'x' => ((if isMarked then "0x" else ""), digits 16 bits)
    | 'X' => ((if isMarked then "0X" else ""), (digits 16 bits).map Char.toUpper)
    | 'u' => ("", digits 10 bits)
    | _ => (Directive.signOf d.flags (n < 0), digits 10 n.natAbs)
  let body := String.ofList (List.replicate ((precision.getD 1) - body.length) '0') ++ body
  Directive.place d.flags width precision.isNone sign body

/-- Writes a number with a fraction as one of the conversions of such numbers does. -/
def fractionText (d : Directive) (width : Nat) (precision : Option Nat) (x : Float) : String :=
  match Decimal.Double.ofFloat x with
  | .nan => Directive.place d.flags width false "-" "nan"
  | x => d.double width (precision.getD 6) x

/-- Why values cannot be written in a format. -/
inductive FormatFault
  /-- No value is left for a place. -/
  | tooFew
  /-- What stands at a place is no conversion; places are counted. -/
  | improper (n : Nat)

/-- Writes a text in a width. -/
def padded (d : Directive) (width : Nat) (s : String) : String :=
  let gap := String.ofList (List.replicate (width - s.length) ' ')
  if d.flags.contains '-' then s ++ gap else gap ++ s

/-- The number of a width or precision, and the values that are left. -/
def measured (args : List Datum) : Measure → Except FormatFault (Option Int × List Datum)
  | .absent => .ok (none, args)
  | .given n => .ok (some n, args)
  | .argument =>
    match args with
    | [] => .error .tooFew
    | a :: args => .ok (some (wholePart a.toNumber), args)

mutual

/-- The text of a number in a format. -/
def numberText : Nat → String → Float → String
  | 0, _, _ => ""
  | fuel + 1, format, x =>
    let most : Int := (Nat.pow 2 64 : Nat)
    match Decimal.integer? x with
    | some n =>
      if -most ≤ 2 * n && n ≤ most then toString (min n (most - 1))
      else written fuel format x
    | none => written fuel format x

/-- Writes a number in a format. -/
def written : Nat → String → Float → String
  | 0, _, _ => ""
  | fuel + 1, format, x =>
    match format.toList with
    | '%' :: '.' :: rest =>
      match Directive.readNumber rest with
      | (precision, [c]) => fractionText { conversion := c } 0 (some (precision.getD 0)) x
      | _ => (formatted fuel 1 format format.toList [.number x]).toOption.getD ""
    | cs => (formatted fuel 1 format cs [.number x]).toOption.getD ""

/-- Writes values in a format; `conversions` is the text of numbers in places of texts. -/
def formatted : Nat → Nat → String → List Char → List Datum → Except FormatFault String
  | 0, _, _, _, _ | _, _, _, [], _ => .ok ""
  | fuel + 1, n, conversions, '%' :: '%' :: rest, args => do
    return "%" ++ (← formatted fuel n conversions rest args)
  | fuel + 1, n, conversions, '%' :: rest, args => do
    let flags := rest.takeWhile Directive.isFlag
    let (width, rest) := Directive.readMeasure .absent (rest.dropWhile Directive.isFlag)
    let (precision, rest) := match rest with
      | '.' :: rest => Directive.readMeasure (.given 0) rest
      | rest => (.absent, rest)
    let rest := rest.dropWhile fun c => c == 'h' || c == 'l' || c == 'L'
    match rest with
    | [] => throw (.improper n)
    | c :: rest =>
      if !(['d', 'i', 'o', 'x', 'X', 'u', 'c', 's', 'e', 'E', 'f', 'F', 'g', 'G'].contains c) then
        throw (.improper n)
      else
        let (width, args) ← measured args width
        let (precision, args) ← measured args precision
        let flags := if width.any (· < 0) then '-' :: flags else flags
        let width := (width.getD 0).natAbs
        let precision := (precision.filter (0 ≤ ·)).map Int.toNat
        let d : Directive := { flags, conversion := c }
        match args with
        | [] => throw .tooFew
        | a :: args =>
          let text :=
            if c == 's' || (c == 'c' && a.number?.isNone) then
              let s := match a with
                | .absent => ""
                | .number x => numberText fuel conversions x
                | .text s | .given s => s
              if c == 'c' then padded d width (String.ofList ((s.toList ++ ['\x00']).take 1))
              else padded d width (precision.elim s fun n => String.ofList (s.toList.take n))
            else if c == 'c' then
              let code := (wholePart a.toNumber % 256).toNat
              padded d width (String.singleton (Char.ofNat code))
            else if ['e', 'E', 'f', 'F', 'g', 'G'].contains c then
              fractionText d width precision a.toNumber
            else integerText d width precision (wholePart a.toNumber)
          return text ++ (← formatted fuel (n + 1) conversions rest args)
  | fuel + 1, n, conversions, c :: rest, args => do
    return String.singleton c ++ (← formatted fuel n conversions rest args)

end

/-- How deep formats are gone through: once for a place, and once for a number in it. -/
def formatFuel (format conversions : String) : Nat := format.length + conversions.length + 10

/-- Writes values in a format. -/
def format (format conversions : String) (args : List Datum) : Except FormatFault String :=
  formatted (formatFuel format conversions) 1 conversions format.toList args

/-- The text of a value; numbers that are no integers are written in a format. -/
def Datum.toText (d : Datum) (conversions : String) : String :=
  match d with
  | .absent => ""
  | .number x => numberText (formatFuel "" conversions) conversions x
  | .text s | .given s => s

/-! ## Tables -/

/-- Values at places that are texts. The order in which places are gone through is that of a number
made of their texts; places with the same number come in the order of their last use. -/
structure Table where
  rows : Array (List (String × Datum)) := Array.replicate 64 []

namespace Table

/-- The number of a place: every byte is mixed in and the result is spread. -/
def hash (place : String) : Nat :=
  place.toList.foldl (fun h c => (h ^^^ c.toNat) * 16777619 % Nat.pow 2 32) 2166136261

/-- The row of a place. -/
def rowOf (t : Table) (place : String) : Nat := hash place % t.rows.size

/-- The value at a place. -/
def get? (t : Table) (place : String) : Option Datum :=
  ((t.rows[t.rowOf place]?).getD []).lookup place

/-- Puts a value at a place. -/
def set (t : Table) (place : String) (v : Datum) : Table :=
  let n := t.rowOf place
  let row := (t.rows[n]?).getD []
  { t with rows := t.rows.setIfInBounds n ((place, v) :: row.filter (·.1 != place)) }

/-- Removes a place. -/
def erase (t : Table) (place : String) : Table :=
  let n := t.rowOf place
  { t with rows := t.rows.setIfInBounds n (((t.rows[n]?).getD []).filter (·.1 != place)) }

/-- The places. -/
def places (t : Table) : List String := t.rows.toList.flatMap fun row => row.map Prod.fst

/-- The number of places. -/
def size (t : Table) : Nat := t.rows.foldl (fun n row => n + row.length) 0

end Table

end Scaffold.Script.Awk

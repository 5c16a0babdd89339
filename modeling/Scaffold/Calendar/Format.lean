/-!
# Format — moments and how they are written
-/

set_option autoImplicit false

/-!
## Moment — days and times of day

An instant is a number of seconds since the first of January 1970 and a part of the next one, a
moment the date and the time of day that it has somewhere. The days of all 400 years are the same in
number, so a day's date follows from its place in such a span.
-/

namespace Scaffold.Calendar

/-- Where a time of day is told. -/
inductive Zone
  /-- Everywhere, by the time that has a name of its own. -/
  | universal
  /-- Where clocks are so many seconds ahead of that time. -/
  | ahead (seconds : Int)
  deriving DecidableEq, Repr

/-- How many seconds the clocks of a zone are ahead. -/
def Zone.offset : Zone → Int
  | .universal => 0
  | .ahead seconds => seconds

/-- No billionths of a second. -/
def noFraction : Fin 1000000000 := ⟨0, by decide⟩

/-- An instant, and the zone that it is told in. -/
structure Instant where
  /-- The seconds since the first of January 1970. -/
  seconds : Int
  /-- The billionths of a second behind them. -/
  fraction : Fin 1000000000 := noFraction
  zone : Zone := .universal
  deriving DecidableEq, Repr

/-- A date with its time of day. -/
structure Moment where
  year : Int
  /-- 1 to 12. -/
  month : Nat
  /-- 1 to 31. -/
  day : Nat
  /-- Seconds since midnight. -/
  second : Nat
  /-- The days since the first of January 1970. -/
  days : Int
  /-- Billionths of a second. -/
  fraction : Nat := 0
  zone : Zone := .universal
  deriving DecidableEq, Repr

/-- The days of the months of a year that begins in March. -/
def monthLengths : List Nat := [31, 30, 31, 30, 31, 31, 30, 31, 30, 31, 31, 29]

/-- The place of a day in its month, and of the month in its year, given the lengths of the months
from there on. -/
def monthAt : List Nat → Nat → Nat → Nat × Nat
  | [], month, day => (month, day)
  | length :: rest, month, day =>
    if day < length then (month, day) else monthAt rest (month + 1) (day - length)

/-- The year, month and day of a day since the first of January 1970. -/
def civil (days : Int) : Int × Nat × Nat :=
  -- days since the first of March of the year 0
  let days := days + 719468
  let era := days / 146097
  let inEra : Nat := (days % 146097).toNat
  let century := min (inEra / 36524) 3
  let inCentury := inEra - century * 36524
  let four := inCentury / 1461
  let inFour := inCentury % 1461
  let one := min (inFour / 365) 3
  let inYear := inFour - one * 365
  let (march, day) := monthAt monthLengths 0 inYear
  let year : Int := era * 400 + (century * 100 + four * 4 + one : Nat)
  if march < 10 then (year, march + 3, day + 1) else (year + 1, march - 9, day + 1)

/-- The moment at a number of seconds. -/
def Moment.ofSeconds (seconds : Int) : Moment :=
  let days := seconds / 86400
  let (year, month, day) := civil days
  { year, month, day, second := (seconds % 86400).toNat, days }

/-- The moment that an instant is where it is told. -/
def Moment.ofInstant (i : Instant) : Moment :=
  { Moment.ofSeconds (i.seconds + i.zone.offset) with fraction := i.fraction, zone := i.zone }

/-- The moment of an instant, if its year has a calendar here. -/
def Moment.ofInstant? (i : Instant) : Option Moment :=
  let m := Moment.ofInstant i
  if -262143 ≤ m.year && m.year ≤ 262142 then some m else none

/-- The year has a leap day. -/
def isLeap (year : Int) : Bool :=
  year % 4 == 0 && (year % 100 != 0 || year % 400 == 0)

namespace Moment

/-- The place of the day in its year, from 1. -/
def ordinal (m : Moment) : Nat :=
  let lengths := [31, if isLeap m.year then 29 else 28, 31, 30, 31, 30, 31, 31, 30, 31, 30, 31]
  (lengths.take (m.month - 1)).foldl (· + ·) m.day

/-- The day of the week: Sunday is 0. -/
def weekday (m : Moment) : Nat :=
  ((m.days + 4) % 7).toNat

/-- The day of the week: Monday is 1, Sunday 7. -/
def isoWeekday (m : Moment) : Nat :=
  if m.weekday = 0 then 7 else m.weekday

/-- The number of weeks of a year that are counted by their Thursdays. -/
def isoWeeks (year : Int) : Nat :=
  let shift (y : Int) : Int := (y + y / 4 - y / 100 + y / 400) % 7
  if shift year = 4 || shift (year - 1) = 3 then 53 else 52

/-- The year and week that the Thursday of the day's week lies in. -/
def isoWeek (m : Moment) : Int × Nat :=
  let week : Int := ((m.ordinal : Int) - m.isoWeekday + 10) / 7
  if week < 1 then (m.year - 1, isoWeeks (m.year - 1))
  else if (isoWeeks m.year : Int) < week then (m.year + 1, 1)
  else (m.year, week.toNat)

/-- The week of the year when weeks begin on a Sunday; the days before the first are in week 0. -/
def weekFromSunday (m : Moment) : Nat :=
  (m.ordinal + 6 - m.weekday) / 7

/-- The week of the year when weeks begin on a Monday; the days before the first are in week 0. -/
def weekFromMonday (m : Moment) : Nat :=
  (m.ordinal + 6 - (m.weekday + 6) % 7) / 7

/-- The hour, from 0 to 23. -/
def hour (m : Moment) : Nat := m.second / 3600

/-- The minute. -/
def minute (m : Moment) : Nat := m.second / 60 % 60

/-- The hour on a clock of twelve. -/
def clockHour (m : Moment) : Nat :=
  if m.hour % 12 = 0 then 12 else m.hour % 12

/-- The seconds since the first of January 1970. -/
def seconds (m : Moment) : Int := m.days * 86400 + m.second - m.zone.offset

end Moment

end Scaffold.Calendar

/-!
## Format — moments as text

A format is text with directives in it: a percent sign, perhaps a sign that says how a number is
padded, and a letter. A format with an unknown directive writes nothing at all.
-/

namespace Scaffold.Calendar

/-- What stands in front of a number that is too short. -/
inductive Padding
  | none
  | zero
  | space
  deriving DecidableEq

/-- A number with at least `width` characters. -/
def padNumber (padding : Padding) (width : Nat) (n : Int) (signed : Bool) : String :=
  let sign := if n < 0 then "-" else if signed then "+" else ""
  let digits := toString n.natAbs
  let fill (c : Char) : String :=
    String.ofList (List.replicate (width - (sign.length + digits.length)) c)
  match padding with
  | .none => sign ++ digits
  | .zero => sign ++ fill '0' ++ digits
  | .space => fill ' ' ++ sign ++ digits

/-- A number of two digits. What lies beyond 99 is written by the characters that follow the digit
nine in place of the tens, and the number is taken modulo 256. -/
def twoDigits (padding : Padding) (n : Int) : String :=
  let n := (n % 256).toNat
  let digit (d : Nat) : Char := Char.ofNat ('0'.toNat + d)
  let ones := String.singleton (digit (n % 10))
  match n / 10, padding with
  | 0, .none => ones
  | 0, .space => " " ++ ones
  | tens, _ => String.singleton (digit tens) ++ ones

/-- Hours, minutes and seconds of two digits each, as many of these parts as are asked for. -/
def partsText (between : String) (parts : Nat) (seconds : Nat) : String :=
  let all : List Nat := [seconds / 3600, seconds / 60 % 60, seconds % 60]
  between.intercalate ((all.take parts).map fun (n : Nat) => twoDigits .zero n)

/-- The sign of how far the clocks of a zone are ahead. -/
def aheadSign (offset : Int) : String := if offset < 0 then "-" else "+"

/-- How far the clocks of a zone are ahead; what is shorter than the last part is dropped. -/
def aheadText (between : String) (parts : Nat) (offset : Int) : String :=
  aheadSign offset ++ partsText between parts offset.natAbs

/-- How far the clocks of a zone are ahead, to the nearest minute. -/
def aheadMinutes (between : String) (offset : Int) : String :=
  aheadSign offset ++ partsText between 2 ((offset.natAbs + 30) / 60 * 60)

/-- The name of a zone. One without a name of its own is called by how far it is ahead. -/
def Zone.name : Zone → String
  | .universal => "UTC"
  | .ahead offset => aheadText ":" (if offset % 60 = 0 then 2 else 3) offset

/-- A year: four digits, with a sign outside of the years 0 to 9999. -/
def yearText (padding : Padding) (year : Int) : String :=
  let inside : Bool := 0 ≤ year && year ≤ 9999
  padNumber padding (if inside then 4 else 5) year !inside

/-- The names of the months. -/
def monthNames : List String := ["January", "February", "March", "April", "May", "June", "July",
  "August", "September", "October", "November", "December"]

/-- The names of the days, from Sunday. -/
def dayNames : List String :=
  ["Sunday", "Monday", "Tuesday", "Wednesday", "Thursday", "Friday", "Saturday"]

/-- A name by its place. -/
def nameAt (names : List String) (n : Nat) : String := (names[n]?).getD ""

/-- The first three letters of a name. -/
def short (name : String) : String := String.ofList (name.toList.take 3)

/-- The number of two digits that a letter asks for, and how it is padded by itself. -/
def pairOf (m : Moment) : Char → Option (Int × Padding)
  | 'C' => some (m.year / 100, .zero)
  | 'y' => some (m.year % 100, .zero)
  | 'm' => some (m.month, .zero)
  | 'd' => some (m.day, .zero)
  | 'e' => some (m.day, .space)
  | 'U' => some (m.weekFromSunday, .zero)
  | 'W' => some (m.weekFromMonday, .zero)
  | 'g' => some (m.isoWeek.1 % 100, .zero)
  | 'V' => some (m.isoWeek.2, .zero)
  | 'H' => some (m.hour, .zero)
  | 'k' => some (m.hour, .space)
  | 'I' => some (m.clockHour, .zero)
  | 'l' => some (m.clockHour, .space)
  | 'M' => some (m.minute, .zero)
  | 'S' => some (m.second % 60, .zero)
  | _ => none

/-- The number that a letter asks for: its value, its width and how it is padded by itself. -/
def numberOf (m : Moment) : Char → Option (Int × Nat × Padding)
  | 'q' => some ((m.month - 1) / 3 + 1, 1, .none)
  | 'w' => some (m.weekday, 1, .none)
  | 'u' => some (m.isoWeekday, 1, .none)
  | 'j' => some (m.ordinal, 3, .zero)
  | 'f' => some (m.fraction, 9, .zero)
  | 's' => some (m.seconds, 9, .none)
  | _ => none

/-- A number as a letter asks for it, padded in another way if that is said. -/
def numberText (m : Moment) (padding : Option Padding) (c : Char) : Option String :=
  match c with
  | 'Y' => some (yearText (padding.getD .zero) m.year)
  | 'G' => some (yearText (padding.getD .zero) m.isoWeek.1)
  | c =>
    match pairOf m c with
    | some (n, own) => some (twoDigits (padding.getD own) n)
    | none => (numberOf m c).map fun (n, width, own) => padNumber (padding.getD own) width n false

/-- What a letter stands for that is no number: a text, or another format. -/
def wordText (m : Moment) : Char → Option String
  | 'b' | 'h' => some (short (nameAt monthNames (m.month - 1)))
  | 'B' => some (nameAt monthNames (m.month - 1))
  | 'a' => some (short (nameAt dayNames m.weekday))
  | 'A' => some (nameAt dayNames m.weekday)
  | 'P' => some (if m.hour < 12 then "am" else "pm")
  | 'p' => some (if m.hour < 12 then "AM" else "PM")
  | 'Z' => some m.zone.name
  | 'z' => some (aheadMinutes "" m.zone.offset)
  | 't' => some "\t"
  | 'n' => some "\n"
  | '%' => some "%"
  | _ => none

/-- The format that a letter abbreviates. -/
def abbreviated : Char → Option String
  | 'D' | 'x' => some "%m/%d/%y"
  | 'F' => some "%Y-%m-%d"
  | 'v' => some "%e-%b-%Y"
  | 'R' => some "%H:%M"
  | 'T' | 'X' => some "%H:%M:%S"
  | 'r' => some "%I:%M:%S %p"
  | 'c' => some "%a %b %e %H:%M:%S %Y"
  | '+' => some "%Y-%m-%dT%H:%M:%S%.f%:z"
  | _ => none

/-- The padding that a sign behind the percent sign asks for. -/
def padding? : Char → Option Padding
  | '-' => some .none
  | '0' => some .zero
  | '_' => some .space
  | _ => none

/-- The first digits of the fraction of a second. -/
def fractionText (digits : Nat) (m : Moment) : String :=
  padNumber .zero digits (m.fraction / Nat.pow 10 (9 - digits) : Nat) false

/-- The fraction of a second behind a point, in thousandths, millionths or billionths; none if the
second is full. -/
def pointText (m : Moment) : String :=
  if m.fraction = 0 then ""
  else
    let digits := if m.fraction % 1000000 = 0 then 3 else if m.fraction % 1000 = 0 then 6 else 9
    "." ++ fractionText digits m

/-- Fractions of a second and distances between zones, which are spelled with several signs. -/
def longDirectives : List (String × (Moment → String)) := [
  (".f", pointText), (".3f", ("." ++ fractionText 3 ·)), (".6f", ("." ++ fractionText 6 ·)),
  (".9f", ("." ++ fractionText 9 ·)), ("3f", fractionText 3), ("6f", fractionText 6),
  ("9f", fractionText 9), (":::z", fun m => aheadText ":" 1 m.zone.offset),
  ("::z", fun m => aheadText ":" 3 m.zone.offset), (":z", fun m => aheadMinutes ":" m.zone.offset)]

/-- The text of a format from a place on, where a letter may also stand for a longer text. Every step
takes a character at least, so that their number bounds the steps. -/
def formatWithin (m : Moment) (longer : Char → Option (List Char)) :
    Nat → List Char → Option (List Char)
  | _, [] => some []
  | 0, _ :: _ => none
  | left + 1, '%' :: rest =>
    match longDirectives.find? fun (name, _) => name.toList.isPrefixOf rest with
    | some (name, text) => do
      return (text m).toList ++ (← formatWithin m longer left (rest.drop name.length))
    | none =>
      match rest with
      | [] => none
      | c :: rest =>
        match padding? c, rest with
        | some padding, d :: rest => do
          let text ← numberText m (some padding) d
          return text.toList ++ (← formatWithin m longer left rest)
        | some _, [] => none
        | none, rest => do
          let text ← (numberText m none c <|> wordText m c).map String.toList <|> longer c
          return text ++ (← formatWithin m longer left rest)
  | left + 1, c :: rest => do
    return c :: (← formatWithin m longer left rest)

/-- The text of a format in which nothing is abbreviated. -/
def plainFormat? (m : Moment) (format : List Char) : Option (List Char) :=
  formatWithin m (fun _ => none) format.length format

/-- The text of a format; nothing if the format has an unknown directive. -/
def format? (m : Moment) (format : String) : Option String :=
  let longer (c : Char) : Option (List Char) :=
    (abbreviated c).bind fun format => plainFormat? m format.toList
  (formatWithin m longer format.toList.length format.toList).map String.ofList

end Scaffold.Calendar

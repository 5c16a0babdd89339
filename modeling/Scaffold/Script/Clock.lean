import Scaffold.Calendar.Format
import Scaffold.Text.Directive
import Scaffold.Script.Utility

/-!
# Clock — moments in formats, and moments from numbers

A directive of a format may have flags and a width between its percent sign and its letter. What is
no directive stands for itself. All times are those of Greenwich.
-/

set_option autoImplicit false

namespace Scaffold.Script.Clock

open Scaffold.Calendar (Moment)

/-! ## Numbers -/

/-- The days from the first of January 1970 to the first of a month; the month may lie outside of
the year. -/
def daysToMonth (year month : Int) : Int :=
  let months := year * 12 + (month - 1)
  let (year, month) := (months / 12, months % 12 + 1)
  -- years that begin in March
  let marchYear := if month ≤ 2 then year - 1 else year
  let fromMarch : Nat := ((month + 9) % 12).toNat
  let inYear : Nat := (Calendar.monthLengths.take fromMarch).foldl (· + ·) 0
  marchYear * 365 + marchYear / 4 - marchYear / 100 + marchYear / 400 + inYear - 719468

/-- The seconds of a date and a time; each number may lie outside of its bounds. -/
def secondsOf (year month day hour minute second : Int) : Int :=
  (daysToMonth year month + day - 1) * 86400 + hour * 3600 + minute * 60 + second

/-! ## Formats -/

/-- What stands between a percent sign and a letter. -/
structure Field where
  flags : List Char := []
  width : Option Nat := none

/-- A number in a field. -/
def Field.number (f : Field) (pad : Char) (width : Nat) (n : Int) : String :=
  let width := f.width.getD width
  let digits := toString n.natAbs
  let sign := if n < 0 then "-" else ""
  let fill (c : Char) : String :=
    String.ofList (List.replicate (width - digits.length - sign.length) c)
  match f.flags.reverse.find? ['-', '_', '0', '+'].contains with
  | some '-' => sign ++ digits
  | some '_' => fill ' ' ++ sign ++ digits
  | some _ => sign ++ fill '0' ++ digits
  | none => if pad == ' ' then fill ' ' ++ sign ++ digits else sign ++ fill pad ++ digits

/-- A text in a field. -/
def Field.text (f : Field) (isLowered : Bool) (text : String) : String :=
  let text :=
    if f.flags.contains '^' then text.toUpper
    else if f.flags.contains '#' then if isLowered then text.toLower else text.toUpper
    else text
  let pad := if f.flags.contains '0' then '0' else ' '
  if f.flags.contains '-' then text
  else String.ofList (List.replicate (f.width.getD 0 - text.length) pad) ++ text

/-- The format that a letter stands for. -/
def longer? : Char → Option String
  | 'c' => some "%a %b %e %H:%M:%S %Y"
  | 'D' | 'x' => some "%m/%d/%y"
  | 'F' => some "%Y-%m-%d"
  | 'r' => some "%I:%M:%S %p"
  | 'R' => some "%H:%M"
  | 'T' | 'X' => some "%H:%M:%S"
  | _ => none

/-- What a letter stands for in a field. -/
def directive? (m : Moment) (nanos : Nat) (f : Field) (c : Char) : Option String :=
  let two (pad : Char) (n : Int) : Option String := some (f.number pad 2 n)
  let name (names : List String) (n : Nat) : String := Calendar.nameAt names n
  match c with
  | 'a' => some (f.text false (Calendar.short (name Calendar.dayNames m.weekday)))
  | 'A' => some (f.text false (name Calendar.dayNames m.weekday))
  | 'b' | 'h' => some (f.text false (Calendar.short (name Calendar.monthNames (m.month - 1))))
  | 'B' => some (f.text false (name Calendar.monthNames (m.month - 1)))
  | 'p' => some (f.text true (if m.hour < 12 then "AM" else "PM"))
  | 'P' => some (f.text true (if m.hour < 12 then "am" else "pm"))
  | 'C' => two '0' (m.year / 100)
  | 'y' => two '0' (m.year % 100)
  | 'g' => two '0' (m.isoWeek.1 % 100)
  | 'm' => two '0' m.month
  | 'd' => two '0' m.day
  | 'e' => two ' ' m.day
  | 'H' => two '0' m.hour
  | 'I' => two '0' m.clockHour
  | 'k' => two ' ' m.hour
  | 'l' => two ' ' m.clockHour
  | 'M' => two '0' m.minute
  | 'S' => two '0' (m.second % 60 : Nat)
  | 'U' => two '0' m.weekFromSunday
  | 'V' => two '0' m.isoWeek.2
  | 'W' => two '0' m.weekFromMonday
  | 'G' => some (f.number '0' 4 m.isoWeek.1)
  | 'Y' => some (f.number '0' 4 m.year)
  | 'j' => some (f.number '0' 3 m.ordinal)
  | 'q' => some (f.number '0' 1 ((m.month - 1) / 3 + 1 : Nat))
  | 'u' => some (f.number '0' 1 m.isoWeekday)
  | 'w' => some (f.number '0' 1 m.weekday)
  | 's' => some (f.number '0' 1 m.seconds)
  | 'N' =>
    let digits := Text.Directive.baseDigits 10 (nanos + 1000000000)
    let places := String.ofList (digits.toList.drop 1)
    some (match f.width with
      | some n => String.ofList (places.toList.take n)
      | none => places)
  | 'Z' => some (f.text true "UTC")
  | 'z' => some (f.text false "+0000")
  | 'n' => some "\n"
  | 't' => some "\t"
  | '%' => some "%"
  | _ => none

/-- Distances from Greenwich with colons. -/
def colonDirectives : List (String × String) :=
  [(":z", "+00:00"), ("::z", "+00:00:00"), (":::z", "+00")]

/-- A moment in a format; letters stand for other formats as long as `depth` allows. -/
def stampWithin (m : Moment) (nanos : Nat) : Nat → Nat → List Char → List Char
  | _, 0, _ | _, _, [] => []
  | depth, fuel + 1, '%' :: rest =>
    let flags := rest.takeWhile ['-', '_', '0', '+', '^', '#'].contains
    let digits := (rest.drop flags.length).takeWhile Char.isDigit
    let behind := (rest.drop flags.length).drop digits.length
    let field : Field := { flags, width := (String.ofList digits).toNat? }
    let behind := if (behind.head?.any ['E', 'O'].contains) && 1 < behind.length then behind.drop 1
      else behind
    match colonDirectives.find? fun (name, _) => name.toList.isPrefixOf behind with
    | some (name, text) =>
      (field.text false text).toList ++ stampWithin m nanos depth fuel (behind.drop name.length)
    | none =>
      match behind with
      | [] => '%' :: rest
      | c :: more =>
        match directive? m nanos field c, longer? c, depth with
        | some text, _, _ => text.toList ++ stampWithin m nanos depth fuel more
        | none, some format, inner + 1 =>
          let text := String.ofList (stampWithin m nanos inner fuel format.toList)
          (field.text false text).toList ++ stampWithin m nanos depth fuel more
        | _, _, _ =>
          '%' :: rest.take (rest.length - more.length) ++ stampWithin m nanos depth fuel more
  | depth, fuel + 1, c :: rest => c :: stampWithin m nanos depth fuel rest

/-- A moment in a format. -/
def stamp (m : Moment) (nanos : Nat) (format : String) : String :=
  String.ofList (stampWithin m nanos 1 (format.length + 32) format.toList)

end Scaffold.Script.Clock

/-!
## Dating — a program that tells dates

A date is given by numbers and names of months and units, by the seconds since 1970, or by a
distance from another one.
-/

namespace Scaffold.Script

namespace Dating

/-! ## Reading dates -/

/-- What a text tells of a moment. -/
structure Given where
  date : Option (Int × Int × Int) := none
  time : Option (Int × Int × Int) := none
  nanos : Nat := 0
  /-- Seconds that the place is in front of Greenwich. -/
  zone : Int := 0
  /-- Seconds since 1970. -/
  whole : Option Int := none
  months : Int := 0
  days : Int := 0
  seconds : Int := 0

/-- A part of a date as it is written. -/
inductive Word
  | digits (text : String)
  | name (text : String)
  | sign (c : Char)
  deriving DecidableEq

/-- The words of a text; blanks and commas set them apart, and what stands in brackets is left
out. -/
def wordsWithin : Nat → List Char → List Word
  | 0, _ | _, [] => []
  | fuel + 1, c :: rest =>
    if c.isDigit then
      let text := (c :: rest).takeWhile Char.isDigit
      .digits (String.ofList text) :: wordsWithin fuel ((c :: rest).drop text.length)
    else if c.isAlpha then
      let text := (c :: rest).takeWhile fun c => c.isAlpha || c == '.'
      .name ((String.ofList (text.filter (· != '.'))).toLower)
        :: wordsWithin fuel ((c :: rest).drop text.length)
    else if c == ' ' || c == '\t' || c == '\n' || c == ',' then wordsWithin fuel rest
    else if c == '(' then wordsWithin fuel ((rest.dropWhile (· != ')')).drop 1)
    else .sign c :: wordsWithin fuel rest

/-- The number of a month by its name or the first three letters of it. -/
def monthOf? (text : String) : Option Int :=
  let names := Calendar.monthNames.map String.toLower
  (names.findIdx? fun n => n == text || Calendar.short n == text || (text == "sept" && n == "september"))
    |>.map fun (n : Nat) => (n : Int) + 1

/-- A unit of time: months, days and seconds. -/
def unitOf? (text : String) : Option (Int × Int × Int) :=
  let units : List (String × Int × Int × Int) := [("year", 12, 0, 0), ("month", 1, 0, 0),
    ("fortnight", 0, 14, 0), ("week", 0, 7, 0), ("day", 0, 1, 0), ("hour", 0, 0, 3600),
    ("minute", 0, 0, 60), ("min", 0, 0, 60), ("second", 0, 0, 1), ("sec", 0, 0, 1)]
  units.lookup text <|> units.lookup (if text.endsWith "s" then (text.dropEnd 1).toString else text)

/-- A distance of so many units. -/
def Given.shift (g : Given) (n : Int) (unit : Int × Int × Int) : Given :=
  { g with
    months := g.months + n * unit.1
    days := g.days + n * unit.2.1
    seconds := g.seconds + n * unit.2.2 }

/-- The value of digits. -/
def number (text : String) : Int := (text.toNat?.getD 0 : Nat)

/-- The seconds of a distance from Greenwich: hours, or hours and minutes. -/
def distance (c : Char) (hours : String) (minutes : Option String) : Int :=
  let n := number hours
  let away := match minutes with
    | some m => n * 3600 + number m * 60
    | none => if hours.length ≤ 2 then n * 3600 else n / 100 * 3600 + n % 100 * 60
  if c == '-' then -away else away

/-- A time of day, on a clock of twelve hours where a word says which half of the day is meant. -/
def Given.clock (g : Given) (hour minute second : Int) (nanos : Nat) (rest : List Word) :
    Option (Given × List Word) :=
  let half := match rest with
    | .name word :: _ => if word == "am" || word == "pm" then some word else none
    | _ => none
  let isRight := g.time.isNone && minute ≤ 59 && second ≤ 60
    && (if half.isSome then 1 ≤ hour && hour ≤ 12 else hour ≤ 24)
  let hour := match half with
    | some "am" => hour % 12
    | some _ => hour % 12 + 12
    | none => hour
  let rest := if half.isSome then rest.drop 1 else rest
  let g := { g with time := some (hour, minute, second), nanos }
  let isSign (c : Char) : Bool := c == '+' || c == '-'
  if !isRight then none
  else
    match rest with
    | .sign c :: .digits h :: .sign ':' :: .digits m :: more =>
      if isSign c then some ({ g with zone := distance c h (some m) }, more) else some (g, rest)
    | .sign c :: .digits h :: more =>
      let isUnit := match more with
        | .name n :: _ => (unitOf? n).isSome
        | _ => false
      if isSign c && !isUnit then some ({ g with zone := distance c h none }, more)
      else some (g, rest)
    | rest => some (g, rest)

/-- A date that is there. -/
def Given.on (g : Given) (year month day : Int) : Option Given :=
  let lengths : List Int := [31, if Calendar.isLeap year then 29 else 28, 31, 30, 31, 30, 31, 31, 30,
    31, 30, 31]
  if g.date.isSome || month < 1 || day < 1 || (lengths[(month - 1).toNat]?).all (· < day) then none
  else some { g with date := some (year, month, day) }

/-- A year of two digits is near ours. -/
def yearOf (text : String) : Int :=
  let n := number text
  if text.length ≤ 2 then if n < 69 then n + 2000 else n + 1900 else n

/-- The nanoseconds of a fraction. -/
def nanosOf (digits : String) : Nat :=
  (String.ofList ((digits.toList ++ List.replicate 9 '0').take 9)).toNat?.getD 0

/-- Takes the first words of a date. -/
def Given.next (g : Given) : List Word → Option (Given × List Word)
  | .sign '@' :: .sign '-' :: .digits n :: rest => some ({ g with whole := some (-(number n)) }, rest)
  | .sign '@' :: .digits n :: .sign '.' :: .digits f :: rest =>
    some ({ g with whole := some (number n), nanos := nanosOf f }, rest)
  | .sign '@' :: .digits n :: rest => some ({ g with whole := some (number n) }, rest)
  | .digits y :: .sign '-' :: .digits m :: .sign '-' :: .digits d :: rest => do
    let g ← g.on (yearOf y) (number m) (number d)
    match rest with
    | .name "t" :: rest => return (g, rest)
    | rest => return (g, rest)
  | .digits a :: .sign '/' :: .digits b :: .sign '/' :: .digits c :: rest => do
    let g ← if 2 < a.length then g.on (number a) (number b) (number c)
      else g.on (yearOf c) (number a) (number b)
    return (g, rest)
  | .digits h :: .sign ':' :: .digits m :: .sign ':' :: .digits s :: .sign '.' :: .digits f :: rest =>
    g.clock (number h) (number m) (number s) (nanosOf f) rest
  | .digits h :: .sign ':' :: .digits m :: .sign ':' :: .digits s :: rest =>
    g.clock (number h) (number m) (number s) 0 rest
  | .digits h :: .sign ':' :: .digits m :: rest => g.clock (number h) (number m) 0 0 rest
  | .digits d :: .sign '-' :: .name m :: .sign '-' :: .digits y :: rest => do
    let g ← g.on (yearOf y) (← monthOf? m) (number d)
    return (g, rest)
  | .digits n :: .name m :: rest =>
    match monthOf? m, unitOf? m, rest with
    | some month, _, .digits y :: rest => do return (← g.on (yearOf y) month (number n), rest)
    | none, some unit, .name "ago" :: rest => some (g.shift (-(number n)) unit, rest)
    | none, some unit, rest => some (g.shift (number n) unit, rest)
    | _, _, _ =>
      if m == "am" || m == "pm" then g.clock (number n) 0 0 0 (.name m :: rest) else none
  | .sign c :: .digits n :: .name m :: rest => do
    let unit ← unitOf? m
    let n := if c == '-' then -(number n) else number n
    if c != '-' && c != '+' then none
    match rest with
    | .name "ago" :: rest => return (g.shift (-n) unit, rest)
    | rest => return (g.shift n unit, rest)
  | .name m :: .digits d :: .digits y :: rest => do
    return (← g.on (yearOf y) (← monthOf? m) (number d), rest)
  | .name "next" :: .name m :: rest => do return (g.shift 1 (← unitOf? m), rest)
  | .name "last" :: .name m :: rest => do return (g.shift (-1) (← unitOf? m), rest)
  | .digits n :: rest =>
    if n.length = 8 then do
      let all := number n
      return (← g.on (all / 10000) (all / 100 % 100) (all % 100), rest)
    else if n.length = 4 && g.date.isSome then
      g.clock (number n / 100) (number n % 100) 0 0 rest
    else none
  | .name m :: rest =>
    match m with
    | "utc" | "gmt" | "z" | "today" | "now" => some (g, rest)
    | "tomorrow" => some (g.shift 1 (0, 1, 0), rest)
    | "yesterday" => some (g.shift (-1) (0, 1, 0), rest)
    | m =>
      match unitOf? m with
      | some unit =>
        match rest with
        | .name "ago" :: rest => some (g.shift (-1) unit, rest)
        | rest => some (g.shift 1 unit, rest)
      | none =>
        let names := Calendar.dayNames.map String.toLower
        if names.any fun n => n == m || Calendar.short n == m then some (g, rest) else none
  | _ => none

/-- Reads all words. -/
def readWords : Nat → Given → List Word → Option Given
  | _, g, [] => some g
  | 0, _, _ => none
  | fuel + 1, g, words => do
    let (g, rest) ← g.next words
    readWords fuel g rest

/-- The moment that a text tells: seconds since 1970 and nanoseconds. One that tells no date stands
for the first of January 1970. -/
def momentOf? (text : String) : Option (Int × Nat) := do
  let words := wordsWithin (text.length + 1) text.toList
  let g ← readWords (words.length + 1) {} words
  match g.whole with
  | some n => return (n + g.days * 86400 + g.seconds, g.nanos)
  | none =>
    let (year, month, day) := g.date.getD (1970, 1, 1)
    let (hour, minute, second) := g.time.getD (0, 0, 0)
    return (Clock.secondsOf year (month + g.months) (day + g.days) hour minute second - g.zone
      + g.seconds, g.nanos)

/-! ## Telling dates -/

/-- The format of a standard with dates and times down to a unit. -/
def standardFormat? (separator zone : String) (unit : String) : Option String :=
  let parts := [("date", ""), ("hours", "%H"), ("minutes", "%H:%M"), ("seconds", "%H:%M:%S"),
    ("ns", "%H:%M:%S,%N")]
  (parts.find? fun (n, _) => n == unit || (!unit.isEmpty && n.startsWith unit)).map fun (n, time) =>
    if n == "date" then "%Y-%m-%d" else "%Y-%m-%d" ++ separator ++ time ++ zone

/-- The format that options and operands ask for, or what is wrong with them. -/
def formatOf (o : Settings) : Except String String :=
  match o.operands with
  | a :: _ :: _ => .error ("extra operand " ++ Quoting.path ((o.operands[1]?).getD a))
  | [a] =>
    if a.startsWith "+" then .ok (a.drop 1).toString
    else .error ("invalid date " ++ Quoting.path a)
  | [] =>
    match o.value? 'I', o.value? 'ρ' with
    | some unit, _ =>
      match standardFormat? "T" "%:z" (if unit.isEmpty then "date" else unit) with
      | some format => .ok format
      | none => .error ("invalid argument " ++ Quoting.path unit ++ " for '--iso-8601'")
    | none, some unit =>
      match standardFormat? " " "%:z" unit with
      | some format => .ok (String.ofList (format.toList.map fun c => if c == ',' then '.' else c))
      | none => .error ("invalid argument " ++ Quoting.path unit ++ " for '--rfc-3339'")
    | none, none =>
      .ok (if o.has 'R' then "%a, %d %b %Y %H:%M:%S %z" else "%a %b %e %H:%M:%S %Z %Y")

/-- Tells a date in a format. -/
def date : Tool where
  name := "date"
  flags := "uR"
  valued := "drsfρ"
  optional := "I"
  names := [("utc", 'u'), ("universal", 'u'), ("rfc-email", 'R'), ("rfc-2822", 'R'), ("date", 'd'),
    ("reference", 'r'), ("set", 's'), ("file", 'f'), ("iso-8601", 'I'), ("rfc-3339", 'ρ')]
  run o _ s :=
    match formatOf o with
    | .error text =>
      if text.startsWith "extra" then Tool.misused "date" text 1 s
      else Utility.bad 1 (err ("date: " ++ text ++ "\n")) s
    | .ok format =>
      let text := (o.value? 'd').getD ""
      match momentOf? text with
      | none => Utility.bad 1 (err ("date: invalid date " ++ Quoting.path text ++ "\n")) s
      | some (seconds, nanos) =>
        let m := Calendar.Moment.ofSeconds seconds
        Utility.good (out (Clock.stamp m nanos format ++ "\n")) s

end Dating

end Scaffold.Script

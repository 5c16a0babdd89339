/-!
# Punycode — labels in ASCII

A label with other characters is written as its ASCII characters and a run of digits that tells
where the others go: they are added in the order of their numbers, and each is told by its distance
from the one before, in digits whose weights adapt.
-/

set_option autoImplicit false

namespace Scaffold.Url.Punycode

/-- A digit: a letter, then the numerals. -/
def digit (n : Nat) : Char :=
  if n < 26 then Char.ofNat (97 + n) else Char.ofNat (48 + (n - 26))

/-- The threshold of a digit. -/
def threshold (place bias : Nat) : Nat :=
  if place ≤ bias then 1 else if bias + 26 ≤ place then 26 else place - bias

/-- Divides a distance until it is small, and counts the places. -/
def settle (distance place : Nat) : Nat × Nat :=
  if 455 < distance then settle (distance / 35) (place + 36) else (distance, place)
termination_by distance
decreasing_by exact Nat.div_lt_self (by omega) (by omega)

/-- The bias behind a distance. -/
def adapt (distance count : Nat) (isFirst : Bool) : Nat :=
  let halved := if isFirst then distance / 700 else distance / 2
  let (rest, place) := settle (halved + halved / count) 0
  place + 36 * rest / (rest + 38)

/-- The digits of a distance; each place takes at least a digit's worth from it. -/
def digitsWithin (bias : Nat) : Nat → Nat → Nat → List Char
  | 0, _, _ => []
  | fuel + 1, place, distance =>
    let t := threshold place bias
    if distance < t then [digit distance]
    else
      digit (t + (distance - t) % (36 - t)) ::
        digitsWithin bias fuel (place + 36) ((distance - t) / (36 - t))

/-- The state of the encoding. -/
structure State where
  distance : Nat := 0
  bias : Nat := 72
  /-- How many characters are told. -/
  told : Nat
  out : List Char

/-- Tells where a character stands that is to be added. -/
def tell (ascii : Nat) (n : Nat) (s : State) (c : Char) : State :=
  if c.toNat < n then { s with distance := s.distance + 1 }
  else if c.toNat = n then
    { distance := 0
      bias := adapt s.distance (s.told + 1) (s.told = ascii)
      told := s.told + 1
      out := s.out ++ digitsWithin s.bias (s.distance + 1) 36 s.distance }
  else s

/-- Tells the characters of every number, from the smallest on. -/
def tellAll (label : List Char) (ascii : Nat) : Nat → List Nat → State → State
  | _, [], s => s
  | n, m :: more, s =>
    let s := { s with distance := s.distance + (m - n) * (s.told + 1) }
    let s := label.foldl (tell ascii m) s
    tellAll label ascii (m + 1) more { s with distance := s.distance + 1 }

/-- A label in ASCII, without the mark that says so. -/
def encode (label : List Char) : List Char :=
  let ascii := label.filter (·.toNat < 128)
  let others := ((label.map Char.toNat).filter (128 ≤ ·)).eraseDups.mergeSort
  let lead := if ascii.isEmpty then [] else ascii ++ ['-']
  (tellAll label ascii.length 128 others { told := ascii.length, out := lead }).out

/-- The worth of a digit. -/
def worth? (c : Char) : Option Nat :=
  if 'a' ≤ c && c ≤ 'z' then some (c.toNat - 97)
  else if 'A' ≤ c && c ≤ 'Z' then some (c.toNat - 65)
  else if '0' ≤ c && c ≤ '9' then some (c.toNat - 48 + 26)
  else none

/-- What the decoding has found: the characters, and where the last one was added. -/
structure Found where
  /-- The number of the last character that was added. -/
  number : Nat := 128
  /-- The place behind the last character that was added. -/
  place : Nat := 0
  bias : Nat := 72
  isFirst : Bool := true
  out : List Char

/-- Adds the character that a distance tells; none if the distance leads beyond all characters. -/
def Found.add? (f : Found) (distance : Nat) : Option Found :=
  let count := f.out.length + 1
  let total := f.place + distance
  let number := f.number + total / count
  if number.isValidChar then
    let (front, back) := f.out.splitAt (total % count)
    some {
      number
      place := total % count + 1
      bias := adapt distance count f.isFirst
      isFirst := false
      out := front ++ Char.ofNat number :: back }
  else none

/-- Adds the characters that digits tell. `place`, `weight` and `distance` belong to the distance
that is being read, if one has begun. -/
def addAll? (f : Found) (begun : Bool) (place weight distance : Nat) : List Char → Option Found
  | [] => if begun then none else some f
  | c :: rest =>
    (worth? c).bind fun d =>
      let t := threshold place f.bias
      let distance := distance + d * weight
      if d < t then (f.add? distance).bind fun f => addAll? f false 36 1 0 rest
      else addAll? f true (place + 36) (weight * (36 - t)) distance rest

/-- The label that an encoded one stands for, read without its mark. -/
def decode? (text : List Char) : Option (List Char) :=
  let digits := (text.reverse.takeWhile (· != '-')).reverse
  let front := text.take (text.length - digits.length)
  if front == ['-'] then none
  else (addAll? { out := front.dropLast } false 36 1 0 digits).map Found.out

end Scaffold.Url.Punycode

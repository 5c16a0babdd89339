import Scaffold.Text.Blank

/-!
# Ranges — sets of code points

A set of code points is given by the numbers at which membership changes: the first number
begins a range, the second ends it (and is outside), and so on. Where the last range has no end
it goes on for ever.
-/

set_option autoImplicit false

namespace Scaffold.Text

/-- A set of code points by its boundaries in increasing order. -/
structure Ranges where
  boundaries : Array Nat

namespace Ranges

/-- The number of boundaries up to `n`, searched between `low` and `low + width`. -/
def rank (r : Ranges) (n : Nat) : Nat → Nat → Nat
  | low, 0 => low
  | low, width + 1 =>
    let half := (width + 1) / 2
    let middle := low + half
    if (r.boundaries[middle]?).any (· ≤ n) then rank r n (middle + 1) (width - half)
    else rank r n low half
termination_by _ width => width
decreasing_by all_goals omega

/-- Whether a code point belongs to the set: an odd number of boundaries lies at or below it. -/
def holds (r : Ranges) (n : Nat) : Bool :=
  r.rank n 0 r.boundaries.size % 2 == 1

/-- Whether a character belongs to the set. -/
def contains (r : Ranges) (c : Char) : Bool :=
  r.holds c.toNat

/-- The set without code points. -/
def none : Ranges := ⟨#[]⟩

/-- The set of all code points. -/
def all : Ranges := ⟨#[0]⟩

/-- The largest code point. -/
def last : Nat := 0x10FFFF

/-- The ranges between boundaries, each with its first and last code point. -/
def pairsFrom : List Nat → List (Nat × Nat)
  | [] => []
  | [first] => [(first, last)]
  | first :: next :: rest => (first, next - 1) :: pairsFrom rest

/-- The ranges of a set, each with its first and last code point. -/
def toPairs (r : Ranges) : List (Nat × Nat) :=
  (pairsFrom r.boundaries.toList).filter fun pair => pair.1 ≤ pair.2

/-- Puts a range behind others, the last one first: it makes one with the last if they touch. -/
def append (done : List (Nat × Nat)) (pair : Nat × Nat) : List (Nat × Nat) :=
  match done with
  | (first, end_) :: rest =>
    if pair.1 ≤ end_ + 1 then (first, max end_ pair.2) :: rest else pair :: done
  | [] => [pair]

/-- The set of all code points in ranges, which may stand in any order. -/
def ofPairs (pairs : List (Nat × Nat)) : Ranges :=
  let sorted := (pairs.filter fun pair => pair.1 ≤ pair.2).mergeSort fun a b => a.1 ≤ b.1
  let merged := (sorted.foldl append []).reverse
  ⟨(merged.flatMap fun pair => [pair.1, pair.2 + 1]).toArray⟩

/-- The code points from one up to another. -/
def between (first last : Nat) : Ranges := ofPairs [(first, last)]

/-- The set of one character. -/
def single (c : Char) : Ranges := between c.toNat c.toNat

/-- The code points of either set. -/
def union (a b : Ranges) : Ranges := ofPairs (a.toPairs ++ b.toPairs)

/-- The code points that do not belong to a set. -/
def complement (r : Ranges) : Ranges :=
  if r.boundaries[0]? = some 0 then ⟨r.boundaries.extract 1 r.boundaries.size⟩
  else ⟨#[0] ++ r.boundaries⟩

/-- The code points of both sets. -/
def inter (a b : Ranges) : Ranges := (a.complement.union b.complement).complement

/-- The code points of the first set that do not belong to the second. -/
def minus (a b : Ranges) : Ranges := (a.complement.union b).complement

/-- The code points of one set that do not belong to the other. -/
def either (a b : Ranges) : Ranges := (a.minus b).union (b.minus a)

/-- All code points of a set are ASCII characters. -/
def isAscii (r : Ranges) : Bool := r.toPairs.all fun pair => pair.2 < 128

/-- The number that digits in base sixteen write. -/
def codeOf (digits : List Char) : Nat :=
  digits.foldl (fun n c => n * 16 + (if c.isDigit then c.toNat - 48 else c.toNat - 55)) 0

/-- The ranges of an item of a list: a code point, two with a hyphen between them for all from the
first to the last, or with `/2` behind them for every second one of these. -/
def itemPairs (item : List Char) : List (Nat × Nat) :=
  let first := codeOf (item.takeWhile (· != '-'))
  match item.dropWhile (· != '-') with
  | _ :: rest =>
    let end_ := codeOf (rest.takeWhile (· != '/'))
    if rest.contains '/' then
      (List.range ((end_ - first) / 2 + 1)).map fun n => (first + 2 * n, first + 2 * n)
    else [(first, end_)]
  | [] => [(first, first)]

/-- The set that a list of items with blanks between them writes. -/
def ofText (text : String) : Ranges :=
  ofPairs ((words text).flatMap fun item => itemPairs item.toList)

end Ranges

end Scaffold.Text

/-!
## Partition — code points in parts with names

Every code point belongs to one part of a partition. A part has a short name and may have others;
names are compared without regard to case, blanks, hyphens, low lines and an `is` in front.
-/

namespace Scaffold.Text

/-- A name in the form in which names are compared. A single `c` behind `is` is the name of
something else. -/
def looseName (name : String) : List Char :=
  let (begins, letters) := match name.toList with
    | i :: s :: rest => if i.toLower == 'i' && s.toLower == 's' then (true, rest)
      else (false, i :: s :: rest)
    | letters => (false, letters)
  let letters := letters.filter fun c =>
    !(c == ' ' || c == '_' || c == '-') && c.toNat < 128
  let letters := letters.map Char.toLower
  if begins && letters == ['c'] then ['i', 's', 'c'] else letters

/-- The same name. -/
def sameName (a b : String) : Bool := looseName a == looseName b

/-- A partition of the code points. -/
structure Partition where
  /-- The names of each part, the short one first, with semicolons between the parts. -/
  names : String
  /-- Where the parts begin, each with its short name behind it. -/
  starts : String

namespace Partition

/-- The names of the parts. -/
def namesOfParts (p : Partition) : List (List String) :=
  (p.names.splitOn ";").map words

/-- The short names of the parts. -/
def shortNames (p : Partition) : List String :=
  p.namesOfParts.filterMap List.head?

/-- The short name of the part that goes by a name. -/
def named? (p : Partition) (name : String) : Option String :=
  (p.namesOfParts.find? (·.any (sameName name))).bind List.head?

/-- The ranges of some parts, given where all of them begin. -/
def pairsFrom (parts : List String) : List String → List (Nat × Nat)
  | start :: name :: rest =>
    let first := Ranges.codeOf start.toList
    let next := match rest with
      | next :: _ => Ranges.codeOf next.toList
      | [] => Ranges.last + 1
    let pairs := pairsFrom parts rest
    if parts.contains name then (first, next - 1) :: pairs else pairs
  | _ => []

/-- The code points of some parts. -/
@[noinline] def part (p : Partition) (parts : List String) : Ranges :=
  if parts.isEmpty then .none else .ofPairs (pairsFrom parts (words p.starts))

/-- The short name of a code point's part, given where all parts begin; `found` is the name of the
last part that begins before. -/
def nameFrom (n : Nat) (found : Option String) : List String → Option String
  | start :: name :: rest =>
    if n < Ranges.codeOf start.toList then found else nameFrom n (some name) rest
  | _ => found

/-- The short name of the part that a code point belongs to. -/
@[noinline] def nameAt? (p : Partition) (n : Nat) : Option String := nameFrom n none (words p.starts)

end Partition

end Scaffold.Text

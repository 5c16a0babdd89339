import Scaffold.Script.Session

/-!
# Pattern — texts with wild cards

In a pattern a star stands for any text, a question mark for any character and a set in brackets for
any of its characters; a quoted character stands for itself.
-/

set_option autoImplicit false

namespace Scaffold.Script

/-- A character of an expanded word, and whether it is quoted. -/
abbrev Marked := Char × Bool

namespace Pattern

/-- The text of marked characters. -/
def plain (field : List Marked) : String := String.ofList (field.map Prod.fst)

/-- A text of which every character stands for itself. -/
def literal (text : String) : List Marked := text.toList.map (·, true)

/-- There is a wild card. -/
def isPattern (field : List Marked) : Bool :=
  field.any fun (c, quoted) => !quoted && (c == '*' || c == '?' || c == '[')

/-- The character belongs to a class with a name. -/
def classHolds (name : String) (c : Char) : Bool :=
  match name with
  | "upper" => c.isUpper
  | "lower" => c.isLower
  | "digit" => c.isDigit
  | "alpha" => c.isAlpha
  | "alnum" => c.isAlphanum
  | "space" => [' ', '\t', '\n', '\x0b', '\x0c', '\x0d'].contains c
  | "blank" => c == ' ' || c == '\t'
  | "punct" => 32 < c.toNat && c.toNat < 127 && !c.isAlphanum
  | "xdigit" => c.isDigit || ('a' ≤ c && c ≤ 'f') || ('A' ≤ c && c ≤ 'F')
  | _ => false

/-- The name between `[:` and `:]`, and what follows it. -/
def className : List Marked → Option (List Char × List Marked)
  | (':', false) :: (']', false) :: rest => some ([], rest)
  | (c, _) :: rest => (className rest).map fun (name, rest) => (c :: name, rest)
  | [] => none

/-- The items of a set, and what follows the bracket that closes it; a closing bracket in front of
all other items is one of them. -/
def setItems : Nat → Bool → List Marked → Option (List (Char → Bool) × List Marked)
  | 0, _, _ | _, _, [] => none
  | fuel + 1, isFirst, (c, quoted) :: rest =>
    let more (item : Char → Bool) (rest : List Marked) :
        Option (List (Char → Bool) × List Marked) :=
      (setItems fuel false rest).map fun (items, rest) => (item :: items, rest)
    if c == ']' && !quoted && !isFirst then some ([], rest)
    else
      match c, quoted, rest with
      | '[', false, (':', false) :: rest =>
        match className rest with
        | some (name, rest) => more (classHolds (String.ofList name)) rest
        | none => more (· == '[') ((':', false) :: rest)
      | c, _, ('-', false) :: (d, dQuoted) :: rest =>
        if d == ']' && !dQuoted then more (· == c) (('-', false) :: (d, dQuoted) :: rest)
        else more (fun x => c ≤ x && x ≤ d) rest
      | c, _, rest => more (· == c) rest

/-- Whether a character belongs to the set that begins a text, and what follows the set. -/
def setHolds? (set : List Marked) (c : Char) : Option (Bool × List Marked) :=
  let (isOther, items) := match set with
    | ('!', false) :: rest | ('^', false) :: rest => (true, rest)
    | rest => (false, rest)
  (setItems (items.length + 1) true items).map fun (items, rest) =>
    (items.any (· c) != isOther, rest)

/-- A pattern fits a text. -/
def fitsWithin : Nat → List Marked → List Char → Bool
  | 0, _, _ => false
  | _, [], text => text.isEmpty
  | fuel + 1, (p, quoted) :: pattern, text =>
    if quoted then
      match text with
      | c :: text => p == c && fitsWithin fuel pattern text
      | [] => false
    else
      match p, text with
      | '*', text =>
        fitsWithin fuel pattern text ||
          match text with
          | _ :: text => fitsWithin fuel (('*', false) :: pattern) text
          | [] => false
      | '?', _ :: text => fitsWithin fuel pattern text
      | '[', c :: text =>
        match setHolds? pattern c with
        | some (holds, pattern) => holds && fitsWithin fuel pattern text
        | none => c == '[' && fitsWithin fuel pattern text
      | p, c :: text => p == c && fitsWithin fuel pattern text
      | _, [] => false

/-- A pattern fits a text. -/
def fits (pattern : List Marked) (text : List Char) : Bool :=
  fitsWithin (pattern.length + text.length + 1) pattern text

/-- The lengths of the texts at the start of a text that a pattern fits, the smallest first. -/
def startLengths (pattern : List Marked) (text : List Char) : List Nat :=
  (List.range (text.length + 1)).filter fun n => fits pattern (text.take n)

/-- The lengths of the texts at the end of a text that a pattern fits, the smallest first. -/
def endLengths (pattern : List Marked) (text : List Char) : List Nat :=
  (List.range (text.length + 1)).filter fun n => fits pattern (text.drop (text.length - n))

/-- One of the numbers: the largest, or the smallest. -/
def chosen (longest : Bool) (numbers : List Nat) : Option Nat :=
  if longest then numbers.getLast? else numbers.head?

/-- A text without what a pattern fits at one end. -/
def trim (atEnd longest : Bool) (pattern : List Marked) (text : List Char) : List Char :=
  if atEnd then
    match chosen longest (endLengths pattern text) with
    | some n => text.take (text.length - n)
    | none => text
  else
    match chosen longest (startLengths pattern text) with
    | some n => text.drop n
    | none => text

/-- A text with another one in place of what a pattern fits, at the first place or at all. -/
def replaceFrom (everywhere : Bool) (pattern : List Marked) (by_ : List Char) :
    Nat → List Char → List Char
  | 0, text => text
  | _, [] => []
  | fuel + 1, c :: text =>
    match ((startLengths pattern (c :: text)).filter (0 < ·)).getLast? with
    | some n =>
      let rest := (c :: text).drop n
      by_ ++ if everywhere then replaceFrom everywhere pattern by_ fuel rest else rest
    | none => c :: replaceFrom everywhere pattern by_ fuel text

/-- The pattern as an expression, in which quoted characters stand for themselves. -/
def expression (pattern : List Marked) : String :=
  String.ofList <| pattern.flatMap fun (c, quoted) =>
    if quoted && "\\.+*?()|[]\x7b\x7d^$#".toList.contains c then ['\\', c] else [c]

end Pattern

end Scaffold.Script

/-!
## Expansion — from words to fields

What a word expands to is cut into fields where an unquoted expansion has separators, and a field
with an unquoted pattern becomes the paths that it fits.
-/

namespace Scaffold.Script

/-- A part of an expanded word. Text of the script itself is not cut. -/
structure Segment where
  text : String
  quoted : Bool
  isCut : Bool := false
  /-- A new field begins behind the segment. -/
  ends : Bool := false

/-- The characters of a segment. -/
def Segment.marked (s : Segment) : List Marked := s.text.toList.map (·, s.quoted)

namespace Expansion

/-- The fields in front of a place, and the one that is open. -/
structure Cutting where
  done : List (List Marked) := []
  /-- None as long as nothing belongs to the field. -/
  current : Option (List Marked) := none
  /-- The last field ended at a blank: a separator that is no blank belongs to the same end. -/
  isAtBlank : Bool := false

namespace Cutting

/-- The current field ends. -/
def close (c : Cutting) : Cutting := { c with done := c.done ++ c.current.toList, current := none }

/-- Adds characters to the current field. -/
def add (c : Cutting) (text : List Marked) : Cutting :=
  { c with current := some (c.current.getD [] ++ text), isAtBlank := false }

/-- Adds a character of an expansion, which may be a separator. -/
def addCut (separators : List Char) (c : Cutting) (x : Char) : Cutting :=
  if !separators.contains x then c.add [(x, false)]
  else if x == ' ' || x == '\t' || x == '\n' then
    if c.current.isSome then { c.close with isAtBlank := true } else c
  else if c.isAtBlank && c.current.isNone then { c with isAtBlank := false }
  else { c with done := c.done ++ [c.current.getD []], current := none, isAtBlank := false }

/-- Adds a segment. -/
def addSegment (separators : List Char) (c : Cutting) (s : Segment) : Cutting :=
  let c :=
    if s.isCut then s.text.toList.foldl (addCut separators) c
    else if s.text.isEmpty && !s.quoted then c
    else c.add s.marked
  if s.ends then { c.close with isAtBlank := false } else c

end Cutting

/-- The fields of segments. -/
def cut (separators : List Char) (segments : List Segment) : List (List Marked) :=
  (segments.foldl (Cutting.addSegment separators) {}).close.done

/-- The parts of a field between slashes. -/
def parts (field : List Marked) : List (List Marked) :=
  field.foldr (fun m parts =>
    if m.1 == '/' then [] :: parts
    else match parts with
      | part :: more => (m :: part) :: more
      | [] => [[m]]) [[]]

/-- The paths that the parts of a pattern fit, from a path on. -/
def paths (t : FileTree) : List (List Marked) → String → List String
  | [], path => [path]
  | part :: more, path =>
    let next (name : String) : String := if path.isEmpty then name else path ++ name
    let slash (p : String) : String := if more.isEmpty then p else p ++ "/"
    if !Pattern.isPattern part then paths t more (slash (next (Pattern.plain part)))
    else
      match t.place (if path.isEmpty then "." else path) with
      | .error _ => []
      | .ok p =>
        let hidden := part.head?.map Prod.fst == some '.'
        let names := (t.names p).filter fun n =>
          Pattern.fits part n.toList && (hidden || n.toList.head? != some '.')
        (names.mergeSort fun a b => a ≤ b).flatMap fun n => paths t more (slash (next n))

/-- The texts of a field: the paths that it fits, or itself. -/
def fieldTexts (s : Session) (field : List Marked) : List String :=
  if !Pattern.isPattern field || s.keepsPatterns then [Pattern.plain field]
  else
    match (paths s.tree (parts field) "").filter fun p => (s.tree.named? p).isSome with
    | [] => if s.options.contains "nullglob" then [] else [Pattern.plain field]
    | found => found

end Expansion

end Scaffold.Script

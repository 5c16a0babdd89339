import Scaffold.Occurrences
import Scaffold.Regex.Syntax
import Scaffold.Text.Age
import Scaffold.Text.Break
import Scaffold.Text.Case
import Scaffold.Text.Property
import Scaffold.Text.Script

/-!
# Escape — escapes and the classes that they name
-/

set_option autoImplicit false

/-!
## Cursor — the part of a pattern that is not yet read

A reading takes characters from the front of a pattern under the flags that are in force there.
-/

namespace Scaffold.Regex

open Scaffold.Text (Ranges)

/-- The flags in force at a place of a pattern. -/
structure Flags where
  caseless : Bool := false
  multiLine : Bool := false
  dotAll : Bool := false
  swapGreed : Bool := false
  unicode : Bool := true
  spaced : Bool := false
  anyLineEnd : Bool := false

/-- Where a reading stands. -/
structure Cursor where
  text : List Char
  flags : Flags := {}
  /-- The number of the next group. -/
  group : Nat := 1
  names : List (String × Nat) := []

/-- Reads a part of a pattern; nothing if it is malformed. -/
abbrev Reading := StateT Cursor Option

/-- A set with all characters that do not differ from it under the flags. -/
def Flags.fold (flags : Flags) (set : Ranges) : Ranges :=
  if !flags.caseless then set else if flags.unicode then set.caseless else set.caselessAscii

namespace Reading

/-- The pattern is malformed. -/
def fail {α : Type} : Reading α := fun _ => none

/-- The rest of the text. -/
def rest : Reading (List Char) := do
  return (← get).text

/-- Moves to another place of the text. -/
def Cursor.moved (c : Cursor) (text : List Char) : Cursor := { c with text }

/-- Sets the rest of the text. -/
def moveTo (text : List Char) : Reading Unit :=
  modify (Cursor.moved · text)

/-- Skips blanks and comments where they do not count. -/
def skipSpace (spaced : Bool) : Nat → List Char → List Char
  | 0, text => text
  | _, [] => []
  | fuel + 1, c :: text =>
    if !spaced then c :: text
    else if Text.isBlank c then skipSpace spaced fuel text
    else if c == '#' then skipSpace spaced fuel ((text.dropWhile (· != '\n')).drop 1)
    else c :: text

/-- The rest of the text without blanks that do not count. -/
def significant : Reading (List Char) := do
  let c ← get
  let text := skipSpace c.flags.spaced (c.text.length + 1) c.text
  moveTo text
  return text

/-- Takes a character. -/
def take : Reading Char := do
  match ← rest with
  | c :: text =>
    moveTo text
    return c
  | [] => fail

/-- Takes the characters that satisfy a test, and what does not count behind each of them. -/
def takeWhile (p : Char → Bool) : Nat → Reading (List Char)
  | 0 => return []
  | fuel + 1 => do
    match ← rest with
    | c :: text =>
      if p c then
        moveTo text
        let _ ← significant
        return c :: (← takeWhile p fuel)
      else return []
    | [] => return []

/-- Takes the characters at the head of the text that satisfy a test, and what does not count
behind each of them. -/
def taken (p : Char → Bool) : Reading (List Char) := do
  takeWhile p (← rest).length

/-- Takes a number of characters, and what does not count behind each of them. -/
def takeCount : Nat → Reading (List Char)
  | 0 => return []
  | n + 1 => do
    let c ← take
    let _ ← significant
    return c :: (← takeCount n)

/-- Takes a character that must come next. -/
def expect (c : Char) : Reading Unit := do
  if (← take) == c then return () else fail

/-- A set under the flags, or what does not belong to it. Without Unicode only ASCII can be
matched by sets. -/
def chosen (negated : Bool) (set : Ranges) : Reading Ranges := do
  let flags := (← get).flags
  let set := flags.fold set
  let set := if negated then set.complement else set
  if flags.unicode || set.isAscii then return set else fail

end Reading

end Scaffold.Regex

/-!
## Property — sets of characters by the names of their properties

A name stands for a property that characters have or do not have, for a general category, or for a
script. A property with values is written with one of them behind a sign.
-/

namespace Scaffold.Regex.Property

open Scaffold.Text (Ranges sameName)

/-- The characters of a general category; three sets besides count among them. -/
def category? (name : String) : Option Ranges :=
  if sameName name "any" then some .all
  else if sameName name "ascii" then some (.between 0 127)
  else if sameName name "assigned" then (Text.Category.named? "Cn").map Ranges.complement
  else Text.Category.named? name

/-- The characters that a name stands for. Three names of categories are names of properties
too. -/
def named? (name : String) : Option Ranges :=
  if ["cf", "sc", "lc"].any (sameName name) then category? name
  else Text.Property.named? name <|> category? name <|> Text.Script.named? name

/-- The characters for which a property has a value. -/
def valued? (property value : String) : Option Ranges :=
  let goesBy (names : List String) : Bool := names.any (sameName property)
  if goesBy ["gc", "General_Category"] then category? value
  else if goesBy ["sc", "Script"] then Text.Script.named? value
  else if goesBy ["scx", "Script_Extensions"] then Text.Script.extended? value
  else if goesBy ["age"] then Text.Age.upTo? value
  else if goesBy ["gcb", "Grapheme_Cluster_Break"] then Text.Break.character? value
  else if goesBy ["wb", "Word_Break"] then Text.Break.word? value
  else if goesBy ["sb", "Sentence_Break"] then Text.Break.sentence? value
  else none

/-- The characters that a text in braces stands for; the flag tells that all others are meant. -/
def ofText? (text : String) : Option (Bool × Ranges) :=
  let cut (sign : String) : Option (String × String) :=
    (Occurrences.cut sign.toList text.toList).map fun (before, after) =>
      (String.ofList before, String.ofList after)
  match cut "!=", cut ":" <|> cut "=" with
  | some (property, value), _ => (valued? property value).map (true, ·)
  | none, some (property, value) => (valued? property value).map (false, ·)
  | none, none => (named? text).map (false, ·)

end Scaffold.Regex.Property

/-!
## Escape — what stands behind a backslash

A backslash takes the meaning of a sign away, or gives one to a letter: a character by its number,
a set of characters, or something that is said about a place.
-/

namespace Scaffold.Regex

open Scaffold.Text (Ranges)

namespace Reading

/-- The characters with a meaning of their own. -/
def metaCharacters : List Char :=
  ['\\', '.', '+', '*', '?', '(', ')', '|', '[', ']', '\x7b', '\x7d', '^', '$', '#', '&', '-',
    '~']

/-- A character that stands for itself behind a backslash. -/
def isEscapable (c : Char) : Bool :=
  metaCharacters.contains c
    || (c.toNat < 128 && !c.isAlphanum && c != '<' && c != '>')

/-- The value of a digit in base sixteen. -/
def hexValue? (c : Char) : Option Nat :=
  if '0' ≤ c && c ≤ '9' then some (c.toNat - 48)
  else if 'a' ≤ c && c ≤ 'f' then some (c.toNat - 87)
  else if 'A' ≤ c && c ≤ 'F' then some (c.toNat - 55)
  else none

/-- The character of a number. -/
def charOf (n : Nat) : Reading Char :=
  if n < 0xD800 || (0xDFFF < n && n < 0x110000) then return Char.ofNat n else fail

/-- The number of digits in base sixteen. -/
def hexNumber (digits : List Char) : Reading Nat := do
  if digits.isEmpty then fail
  else
    let some n := digits.foldlM (fun n c => (hexValue? c).map (n * 16 + ·)) 0 | fail
    return n

/-- Reads what stands in braces, behind the opening one. -/
def braced : Reading (List Char) := do
  let _ ← significant
  let inner ← taken (· != '\x7d')
  expect '\x7d'
  return inner

/-- Reads a character by its number, in braces or with a fixed count of digits. -/
def numbered (count : Nat) : Reading Char := do
  match ← significant with
  | '\x7b' :: text =>
    moveTo text
    charOf (← hexNumber (← braced))
  | _ => charOf (← hexNumber (← takeCount count))

/-- What stands behind a backslash. -/
inductive Escape
  | char (c : Char)
  | set (s : Ranges)
  | assertion (a : Assertion)

/-- The decimal digits, in the reach of the flags. -/
def digitSet (unicode : Bool) : Ranges :=
  if unicode then Text.digitRanges else .ofText "30-39"

/-- The blanks, in the reach of the flags. -/
def spaceSet (unicode : Bool) : Ranges :=
  if unicode then Text.blankRanges else .ofText "9-D 20"

/-- A character of a word, in the reach of the flags. -/
def wordSet (unicode : Bool) : Ranges :=
  if unicode then Text.wordRanges else .ofText "30-39 41-5A 5F 61-7A"

/-- One of these sets, or what does not belong to it; the latter is not ASCII alone. -/
def shorthand (negated : Bool) (set : Bool → Ranges) : Reading Escape := do
  let unicode := (← get).flags.unicode
  if !negated then return .set (set unicode)
  else if unicode then return .set (set unicode).complement
  else fail

/-- Reads a property behind its letter. -/
def property (negated : Bool) : Reading Escape := do
  let name ← match ← significant with
    | '\x7b' :: text => do
      moveTo text
      String.ofList <$> braced
    | c :: text => do
      moveTo text
      pure (String.singleton c)
    | [] => fail
  let some (other, set) := Property.ofText? name | fail
  if (← get).flags.unicode then return .set (← chosen (negated != other) set) else fail

/-- The assertions about words that are written out in braces. -/
def wordAssertions : List (String × WordPlace) := [("start", .start), ("end", .stop),
  ("start-half", .startHalf), ("end-half", .stopHalf)]

/-- Reads what makes a boundary of words a special one. -/
def boundary : Reading WordPlace := do
  let before ← rest
  match before with
  | '\x7b' :: text =>
    moveTo text
    let isName (c : Char) : Bool := c.isAlpha || c == '-'
    if ((← significant).head?.map isName).getD false then
      let name ← taken isName
      expect '\x7d'
      let some place := wordAssertions.lookup (String.ofList name) | fail
      return place
    else
      moveTo before
      return .boundary
  | _ => return .boundary

/-- A character by two digits; without Unicode it is a byte, which must be ASCII. -/
def byteNumbered : Reading Char := do
  let inBraces := (← significant).head? == some '\x7b'
  let c ← numbered 2
  if inBraces || (← get).flags.unicode || c.toNat < 128 then return c else fail

/-- Reads what stands behind a backslash. -/
def escape : Reading Escape := do
  let ascii := !(← get).flags.unicode
  let c ← take
  if c.isDigit then fail
  else if isEscapable c then return .char c
  else match c with
    | 'x' => .char <$> byteNumbered
    | 'u' => .char <$> numbered 4
    | 'U' => .char <$> numbered 8
    | 'p' => property false
    | 'P' => property true
    | 'd' => shorthand false digitSet
    | 'D' => shorthand true digitSet
    | 's' => shorthand false spaceSet
    | 'S' => shorthand true spaceSet
    | 'w' => shorthand false wordSet
    | 'W' => shorthand true wordSet
    | 'a' => return .char '\x07'
    | 'f' => return .char '\x0c'
    | 't' => return .char '\t'
    | 'n' => return .char '\n'
    | 'r' => return .char '\r'
    | 'v' => return .char '\x0b'
    | 'A' => return .assertion .textStart
    | 'z' => return .assertion .textEnd
    | 'b' => return .assertion (.word (← boundary) ascii)
    | 'B' => return .assertion (.word .noBoundary ascii)
    | '<' => return .assertion (.word .start ascii)
    | '>' => return .assertion (.word .stop ascii)
    | _ => fail

end Reading

end Scaffold.Regex

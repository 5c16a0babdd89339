import Scaffold.Regex.Reading.Escape

/-!
# Class — sets of characters in square brackets

A class holds characters, ranges of them, sets by name and other classes. Operators between its
parts combine all that stands on either side. Where case does not count, the parts of an operator
are closed under it before it is applied, and so is the whole before it is negated.
-/

set_option autoImplicit false

namespace Scaffold.Regex

open Scaffold.Text (Ranges)

namespace Reading

/-- The classes that are written by name inside of a class. -/
def namedClasses : List (String × String) := [
  ("alnum", "30-39 41-5A 61-7A"), ("alpha", "41-5A 61-7A"), ("ascii", "0-7F"),
  ("blank", "9 20"), ("cntrl", "0-1F 7F"), ("digit", "30-39"), ("graph", "21-7E"),
  ("lower", "61-7A"), ("print", "20-7E"), ("punct", "21-2F 3A-40 5B-60 7B-7E"),
  ("space", "9-D 20"), ("upper", "41-5A"), ("word", "30-39 41-5A 5F 61-7A"),
  ("xdigit", "30-39 41-46 61-66")]

/-- A class by name at the head of the text: whether it is negated, its characters, and what
follows it. -/
def namedClass? (text : List Char) : Option (Bool × Ranges × List Char) := do
  let text ← ['[', ':'].isPrefixOf? text
  let (negated, text) := match text with
    | '^' :: text => (true, text)
    | text => (false, text)
  let set ← namedClasses.lookup (String.ofList (text.takeWhile Char.isAlpha))
  let text ← [':', ']'].isPrefixOf? (text.dropWhile Char.isAlpha)
  return (negated, .ofText set, text)

/-- A character of a class by itself: without Unicode it must be ASCII. -/
def classChar (c : Char) : Reading Char := do
  if (← get).flags.unicode || c.toNat < 128 then return c else fail

/-- A set and how deep the parts of what writes it nest. -/
abbrev Measured := Ranges × Nat

/-- Sets in a row: their union, their number, and the depth of the deepest. -/
structure Row where
  set : Ranges := .none
  size : Nat := 0
  depth : Nat := 0

/-- Puts a set at the end of a row. -/
def Row.add (r : Row) (m : Measured) : Row :=
  ⟨.union r.set m.1, r.size + 1, max r.depth m.2⟩

/-- How deep the parts of a row nest; several sets make a part of their own. -/
def Row.height (r : Row) : Nat := if 1 < r.size then r.depth + 1 else r.depth

/-- An end of a range: a character, or a set that cannot be one. -/
def classItem : Reading (Char ⊕ Ranges) := do
  let c ← take
  if c == '\\' then
    match ← escape with
    | .char c => .inl <$> classChar c
    | .set s => return .inr s
    | .assertion _ => fail
  else .inl <$> classChar c

/-- The next character that counts, as far as a blank or the sign of a comment hides it. -/
def nextSignificant (spaced : Bool) (text : List Char) : Option Char :=
  if !spaced then text.head?
  else match text.dropWhile Text.isBlank with
    | '#' :: text => (text.dropWhile Text.isBlank).head?
    | text => text.head?

/-- A character or range inside of a class. -/
def classRange : Reading Ranges := do
  let first ← classItem
  let text ← significant
  let isRange ← match text with
    | '-' :: _ => do
      let after := nextSignificant (← get).flags.spaced (text.drop 1)
      pure (after != some ']' && after != some '-')
    | _ => pure false
  if isRange then
    moveTo (text.drop 1)
    let _ ← significant
    match first, ← classItem with
    | .inl first, .inl last => if first ≤ last then return .between first.toNat last.toNat else fail
    | _, _ => fail
  else match first with
    | .inl c => return .single c
    | .inr s => return s

/-- The operators between the parts of a class. -/
def classOperator? : List Char → Option ((Ranges → Ranges → Ranges) × List Char)
  | '&' :: '&' :: text => some (.inter, text)
  | '-' :: '-' :: text => some (.minus, text)
  | '~' :: '~' :: text => some (.either, text)
  | _ => none

/-- Takes hyphens and, if there is none, a bracket at the beginning of a class: they stand for
themselves there. -/
def classLead : Nat → Row → Reading Row
  | 0, row => return row
  | fuel + 1, row => do
    match ← significant with
    | '-' :: text =>
      moveTo text
      classLead fuel (row.add (.single '-', 0))
    | ']' :: text =>
      if row.size = 0 then
        moveTo text
        return row.add (.single ']', 0)
      else return row
    | _ => return row

/-- Reads the parts of a class up to its closing bracket: `before` combines with what follows an
operator, `row` is what was read since. -/
def classFrom (nested : Reading Measured) :
    Nat → Option ((Ranges → Ranges) × Nat) → Row → Reading Measured
  | 0, _, _ => fail
  | fuel + 1, before, row => do
    let fold := (← get).flags.fold
    let whole : Measured := match before with
      | some (combined, depth) => (combined (fold row.set), max depth row.height + 1)
      | none => (row.set, row.height)
    let text ← significant
    match text with
    | [] => fail
    | ']' :: text =>
      moveTo text
      return whole
    | '[' :: inner =>
      match namedClass? text with
      | some (negated, set, text) =>
        moveTo text
        classFrom nested fuel before (row.add (← chosen negated set, 0))
      | none =>
        moveTo inner
        classFrom nested fuel before (row.add (← nested))
    | _ =>
      match classOperator? text with
      | some (op, text) =>
        moveTo text
        classFrom nested fuel (some (op (fold whole.1), whole.2)) {}
      | none => classFrom nested fuel before (row.add (← classRange, 0))

/-- Reads a class behind its opening bracket; the number bounds how classes nest. -/
def classWithin : Nat → Reading Measured
  | 0 => fail
  | fuel + 1 => do
    let negated ← match ← significant with
      | '^' :: text => do
        moveTo text
        pure true
      | _ => pure false
    let lead ← classLead ((← rest).length + 1) {}
    let (set, depth) ← classFrom (classWithin fuel) ((← rest).length + 1) none lead
    return (← chosen negated set, depth + 1)

end Reading

end Scaffold.Regex

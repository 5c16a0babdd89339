import Scaffold.Regex.Reading.Class
import Scaffold.Regex.Syntax

/-!
# Reading — patterns from text

The notation knows groups with and without names, flags, classes with set operations, lazy and
counted repetitions and assertions. It has no references to groups and no conditions on the text
around a match.
-/

set_option autoImplicit false

namespace Scaffold.Regex

open Scaffold.Text (Ranges)

namespace Reading

/-- Reads a decimal number with blanks around it. -/
def decimal : Reading Nat := do
  moveTo ((← rest).dropWhile Text.isBlank)
  let digits ← taken Char.isDigit
  moveTo ((← rest).dropWhile Text.isBlank)
  let n : Nat := digits.foldl (fun n c => n * 10 + (c.toNat - 48)) 0
  if digits.isEmpty || Nat.pow 2 32 ≤ n then fail else return n

/-- Reads how often a part is repeated, behind the opening brace. -/
def count : Reading (Nat × Option Nat) := do
  let _ ← significant
  let least ← decimal
  match ← significant with
  | ',' :: text =>
    moveTo text
    match ← significant with
    | '\x7d' :: text =>
      moveTo text
      return (least, none)
    | _ =>
      let most ← decimal
      expect '\x7d'
      if least ≤ most then return (least, some most) else fail
  | '\x7d' :: text =>
    moveTo text
    return (least, some least)
  | _ => fail

/-- Reads a flag. -/
def Flags.set (flags : Flags) (on : Bool) : Char → Option Flags
  | 'i' => some { flags with caseless := on }
  | 'm' => some { flags with multiLine := on }
  | 's' => some { flags with dotAll := on }
  | 'U' => some { flags with swapGreed := on }
  | 'u' => some { flags with unicode := on }
  | 'x' => some { flags with spaced := on }
  | 'R' => some { flags with anyLineEnd := on }
  | _ => none

/-- Reads flags up to the sign that ends them, which is not taken. No flag stands twice, and a
flag follows a minus. -/
def flagsFrom : Nat → List Char → Bool → Flags → Reading Flags
  | 0, _, _, _ => fail
  | fuel + 1, seen, on, flags => do
    match ← rest with
    | ')' :: _ | ':' :: _ => if seen.head? == some '-' then fail else return flags
    | '-' :: text =>
      if seen.contains '-' then fail
      else
        moveTo text
        flagsFrom fuel ('-' :: seen) false flags
    | c :: text =>
      if seen.contains c then fail
      else
        let some flags := Flags.set flags on c | fail
        moveTo text
        flagsFrom fuel (c :: seen) on flags
    | [] => fail

/-- A character that a name of a group may hold. -/
def isGroupName (first : Bool) (c : Char) : Bool :=
  c == '_' || Text.isAlphabetic c
    || (!first && (c == '.' || c == '[' || c == ']' || Text.isAlphanumeric c))

/-- Reads the name of a group and its closing sign. -/
def groupName : Reading String := do
  let text ← rest
  let name := text.takeWhile (isGroupName false)
  moveTo (text.dropWhile (isGroupName false))
  expect '>'
  if (name.head?.map (isGroupName true)).getD false then return String.ofList name else fail

/-- Takes the number of the next group, under a name if it has one. -/
def openGroup (name : Option String) : Reading Nat := do
  let c ← get
  match name with
  | some n =>
    if (c.names.lookup n).isSome then fail
    else set { c with group := c.group + 1, names := (n, c.group) :: c.names }
  | none => set { c with group := c.group + 1 }
  return c.group

/-- One character that the flags may free from its case. -/
def literal (c : Char) : Reading Node := do
  return .one ((← get).flags.fold (.single c))

/-- Any character, line ends only where the flags say so. -/
def dot : Reading Node := do
  let flags := (← get).flags
  let left : String := if flags.dotAll then "" else if flags.anyLineEnd then "A D" else "A"
  if flags.unicode then return .one (Ranges.ofText left).complement else fail

/-- The assertion of the beginning of the text or of a line. -/
def startAssertion (flags : Flags) : Assertion :=
  if !flags.multiLine then .textStart else if flags.anyLineEnd then .lineStartAny else .lineStart

/-- The assertion of the end of the text or of a line. -/
def endAssertion (flags : Flags) : Assertion :=
  if !flags.multiLine then .textEnd else if flags.anyLineEnd then .lineEndAny else .lineEnd

/-- Sets the flags. -/
def Cursor.flagged (c : Cursor) (flags : Flags) : Cursor := { c with flags }

/-- A part of a pattern, which is none if it is flags alone, and how deep what writes it nests. -/
structure Item where
  node : Option Node
  depth : Nat := 0

/-- Reads the inside of a group with its closing bracket; the flags before it hold behind it. -/
def closed (inner : Reading (Node × Nat)) (flags : Flags) (build : Node → Node) :
    Reading Item := do
  let outer := (← get).flags
  modify (Cursor.flagged · flags)
  let (node, depth) ← inner
  modify (Cursor.flagged · outer)
  expect ')'
  return ⟨some (build node), depth + 1⟩

/-- Reads a group or flags behind the opening bracket. -/
def group (inner : Reading (Node × Nat)) : Reading Item := do
  let flags := (← get).flags
  let named (text : List Char) : Reading Item := do
    moveTo text
    let index ← openGroup (some (← groupName))
    closed inner flags (.group index)
  match ← significant with
  | '?' :: 'P' :: '<' :: text => named text
  | '?' :: '<' :: text => named text
  | '?' :: ')' :: _ => fail
  | '?' :: text =>
    moveTo text
    let changed ← flagsFrom (text.length + 1) [] true flags
    match ← take with
    | ':' => closed inner changed id
    | _ =>
      modify (Cursor.flagged · changed)
      return ⟨none, 0⟩
  | _ =>
    let index ← openGroup none
    closed inner flags (.group index)

/-- Reads the sign that makes a repetition lazy. -/
def greed : Reading Bool := do
  let swap := (← get).flags.swapGreed
  match ← rest with
  | '?' :: text =>
    moveTo text
    return swap
  | _ => return !swap

/-- Puts the parts of a sequence together, of which the last comes first; several make a part of
their own. -/
def joined (items : List Item) : Node × Nat :=
  let node := match items.filterMap Item.node with
    | [] => .empty
    | node :: nodes => nodes.foldl (fun after node => .sequence node after) node
  let depth := (items.map Item.depth).foldl max 0
  (node, if items.length < 2 then depth else depth + 1)

/-- Repeats the last part of a sequence. -/
def repeatLast (items : List Item) (least : Nat) (most : Option Nat) : Reading (List Item) := do
  match items with
  | ⟨some node, depth⟩ :: items =>
    return ⟨some (.repetition least most (← greed) node), depth + 1⟩ :: items
  | _ => fail

/-- Reads sequences with bars between them up to a closing bracket or the end; `before` holds the
choice between those in front, `items` the parts of the current sequence, the last one first. -/
def sequencesFrom (inner : Reading (Node × Nat)) (classes : Reading Measured) :
    Nat → Option (Node × Nat) → List Item → Reading (Node × Nat)
  | 0, _, _ => fail
  | fuel + 1, before, items => do
    let flags := (← get).flags
    let sequences := sequencesFrom inner classes fuel
    let chosen (_ : Unit) : Node × Nat :=
      let (node, depth) := joined items
      match before with
      | some (first, height) => (.choice first node, max height depth)
      | none => (node, depth)
    let finish (_ : Unit) : Node × Nat :=
      let (node, depth) := chosen ()
      (node, if before.isSome then depth + 1 else depth)
    let put (node : Node) : List Item := ⟨some node, 0⟩ :: items
    match ← significant with
    | [] => return finish ()
    | ')' :: _ => return finish ()
    | '|' :: text =>
      moveTo text
      -- the first branch of all is the outermost one of the choices
      sequences (some (chosen ())) []
    | '(' :: text =>
      moveTo text
      sequences before ((← group inner) :: items)
    | '[' :: text =>
      moveTo text
      let (set, depth) ← classes
      sequences before (⟨some (.one set), depth⟩ :: items)
    | '*' :: text =>
      moveTo text
      sequences before (← repeatLast items 0 none)
    | '+' :: text =>
      moveTo text
      sequences before (← repeatLast items 1 none)
    | '?' :: text =>
      moveTo text
      sequences before (← repeatLast items 0 (some 1))
    | '\x7b' :: text =>
      moveTo text
      match items with
      | ⟨some _, _⟩ :: _ =>
        let (least, most) ← count
        let _ ← significant
        sequences before (← repeatLast items least most)
      | _ => fail
    | '.' :: text =>
      moveTo text
      sequences before (put (← dot))
    | '^' :: text =>
      moveTo text
      sequences before (put (.assertion (startAssertion flags)))
    | '$' :: text =>
      moveTo text
      sequences before (put (.assertion (endAssertion flags)))
    | '\\' :: text =>
      moveTo text
      match ← escape with
      | .char c => sequences before (put (← literal c))
      | .set s => sequences before (put (.one s))
      | .assertion a => sequences before (put (.assertion a))
    | c :: text =>
      moveTo text
      sequences before (put (← literal c))

/-- Reads a whole pattern or the inside of a group; the number bounds the nesting. -/
def nodeWithin : Nat → Reading (Node × Nat)
  | 0 => fail
  | fuel + 1 => do
    let length := (← rest).length
    sequencesFrom (nodeWithin fuel) (classWithin fuel) (length + 1) none []

end Reading

/-- How deep the parts of a pattern nest. -/
def maxNesting : Nat := 250

/-- The pattern that a text writes. -/
def ofText? (text : String) : Option Pattern := do
  let ((node, depth), c) ← (Reading.nodeWithin (maxNesting + 2)).run { text := text.toList }
  if c.text.isEmpty && depth ≤ maxNesting && node.fits then
    return { node := .group 0 node, groups := c.group, names := c.names }
  else none

end Scaffold.Regex

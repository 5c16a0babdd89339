import Scaffold.Regex.Syntax
import Scaffold.Text.Classes

/-!
# Search — running a pattern over a text
-/

set_option autoImplicit false

/-!
## Program — a pattern as a list of steps

Each step takes a character, asks about a place, notes a place, or goes on at one or two other
steps, the first of which is preferred. A repetition is written out as often as it must be.
-/

namespace Scaffold.Regex

/-- A step of a match. -/
inductive Step
  | one (set : Text.Ranges)
  | assertion (a : Assertion)
  /-- Notes the place; even slots begin groups, odd ones end them. -/
  | note (slot : Nat)
  | jump (target : Nat)
  | fork (preferred other : Nat)
  | done

instance : Inhabited Step := ⟨.done⟩

/-- A fork that prefers to go on with a part or to leave it. -/
def forkTo (greedy : Bool) (into past : Nat) : Step :=
  if greedy then .fork into past else .fork past into

/-- The number of steps of a pattern. -/
def Node.length : Node → Nat
  | .empty => 0
  | .one _ | .assertion _ => 1
  | .group _ inner => inner.length + 2
  | .sequence a b => a.length + b.length
  | .choice a b => a.length + b.length + 2
  | .repetition least (some most) _ inner =>
    least * inner.length + (most - least) * (inner.length + 1)
  | .repetition 0 none _ inner => inner.length + 2
  | .repetition least none _ inner => least * inner.length + 1

/-- Does something a number of times. -/
def times {α : Type} : Nat → (α → α) → α → α
  | 0, _, a => a
  | n + 1, f, a => times n f (f a)

/-- Puts the steps of a pattern behind others. A part that is repeated without end and can match
nothing is entered at most once without progress. -/
def Node.emit : Node → Array Step → Array Step
  | .empty, out => out
  | .one set, out => out.push (.one set)
  | .assertion a, out => out.push (.assertion a)
  | .group index inner, out =>
    (inner.emit (out.push (.note (2 * index)))).push (.note (2 * index + 1))
  | .sequence a b, out => b.emit (a.emit out)
  | .choice a b, out =>
    let second := out.size + a.length + 2
    let first := a.emit (out.push (.fork (out.size + 1) second))
    b.emit (first.push (.jump (second + b.length)))
  | .repetition least (some most) greedy inner, out =>
    let out := times least inner.emit out
    let past := out.size + (most - least) * (inner.length + 1)
    times (most - least) (fun out => inner.emit (out.push (forkTo greedy (out.size + 1) past))) out
  | .repetition 0 none greedy inner, out =>
    let start := out.size
    let past := start + inner.length + 2
    let steps := inner.emit (out.push (forkTo greedy (start + 1) past))
    steps.push (if inner.isNullable then forkTo greedy (start + 1) past else .jump start)
  | .repetition (least + 1) none greedy inner, out =>
    let last := times least inner.emit out
    (inner.emit last).push (forkTo greedy last.size (last.size + inner.length + 1))

/-- The steps of a whole pattern. -/
def Pattern.program (p : Pattern) : Array Step :=
  (p.node.emit #[]).push .done

end Scaffold.Regex

/-!
## Search — the leftmost match and the one preferred among those

All ways to match are followed side by side, character by character, in the order of preference;
of two ways that stand at the same step only the preferred one goes on. So a search takes a time
that is bounded by the sizes of pattern and text.
-/

namespace Scaffold.Regex

/-- The places that were noted, by slot. -/
abbrev Slots := Array (Option Nat)

/-- A way to match: the step it stands at and the places it has noted. -/
structure Thread where
  step : Nat
  slots : Slots

/-- A place in a text and the characters on both sides of it. -/
structure Place where
  index : Nat
  before : Option Char
  after : Option Char

/-- The place at an index of a text. -/
def placeAt (text : Array Char) (index : Nat) : Place :=
  ⟨index, if index = 0 then none else text[index - 1]?, text[index]?⟩

/-- The character belongs to a word. -/
def isWord (ascii : Bool) (c : Option Char) : Bool :=
  c.any fun c => if ascii then c.isAlphanum || c == '_' else Text.isWordPart c

/-- Whether something about words holds at a place, given whether words reach it from the left and
go on behind it. -/
def WordPlace.holds (before after : Bool) : WordPlace → Bool
  | .boundary => before != after
  | .noBoundary => before == after
  | .start => !before && after
  | .stop => before && !after
  | .startHalf => !before
  | .stopHalf => !after

/-- Whether an assertion holds at a place. -/
def Assertion.holds (p : Place) : Assertion → Bool
  | .textStart => p.before.isNone
  | .textEnd => p.after.isNone
  | .lineStart => p.before.isNone || p.before == some '\n'
  | .lineEnd => p.after.isNone || p.after == some '\n'
  | .lineStartAny =>
    p.before.isNone || p.before == some '\n' || (p.before == some '\r' && p.after != some '\n')
  | .lineEndAny =>
    p.after.isNone || p.after == some '\r' || (p.after == some '\n' && p.before != some '\r')
  | .word place ascii => place.holds (isWord ascii p.before) (isWord ascii p.after)

/-- The ways that stand at a place: which steps are taken, and the threads, the last one first. -/
structure Threads where
  taken : Array Bool
  list : List Thread

/-- Adds a way with all that it can reach without taking a character. -/
def Threads.add (program : Array Step) (p : Place) : Nat → Threads → Nat → Slots → Threads
  | 0, ts, _, _ => ts
  | fuel + 1, ts, step, slots =>
    if ts.taken.getD step true then ts
    else
      let ts := { ts with taken := ts.taken.setIfInBounds step true }
      match program[step]? with
      | some (.jump target) => ts.add program p fuel target slots
      | some (.fork preferred other) =>
        (ts.add program p fuel preferred slots).add program p fuel other slots
      | some (.note slot) => ts.add program p fuel (step + 1) (slots.setIfInBounds slot p.index)
      | some (.assertion a) => if a.holds p then ts.add program p fuel (step + 1) slots else ts
      | some (.one _) | some .done => { ts with list := ⟨step, slots⟩ :: ts.list }
      | none => ts

/-- No way at all. -/
def Threads.none (program : Array Step) : Threads :=
  ⟨Array.replicate program.size false, []⟩

/-- Moves the ways over a character, in the order of preference: those that survive, and the match
of the first one that is done, behind which the others do not count. -/
def advance (program : Array Step) (p next : Place) :
    List Thread → Threads → Threads × Option Slots
  | [], ts => (ts, Option.none)
  | t :: rest, ts =>
    match program[t.step]? with
    | some .done => (ts, some t.slots)
    | some (.one set) =>
      let ts := if p.after.any set.contains then
          ts.add program next (program.size + 1) (t.step + 1) t.slots
        else ts
      advance program p next rest ts
    | _ => advance program p next rest ts

/-- Follows all ways from an index on, given the number of characters left. -/
def follow (program : Array Step) (slots : Nat) (text : Array Char) :
    Nat → Nat → Threads → Option Slots → Option Slots
  | fuel, index, ts, found =>
    let p := placeAt text index
    let ts := if found.isNone then
        ts.add program p (program.size + 1) 0 (Array.replicate slots Option.none)
      else ts
    let (next, done) :=
      advance program p (placeAt text (index + 1)) ts.list.reverse (Threads.none program)
    let found := done <|> found
    match fuel with
    | 0 => found
    | fuel + 1 =>
      if next.list.isEmpty && found.isSome then found
      else follow program slots text fuel (index + 1) next found

/-- A match: the places where its groups begin and end. -/
structure Match where
  slots : Slots

/-- The places where a group begins and ends. -/
def Match.group? (m : Match) (index : Nat) : Option (Nat × Nat) := do
  return (← (m.slots[2 * index]?).join, ← (m.slots[2 * index + 1]?).join)

/-- The first match that begins at or behind an index. -/
def find? (p : Pattern) (program : Array Step) (text : Array Char) (start : Nat) : Option Match :=
  if text.size < start then none
  else
    (follow program (2 * p.groups) text (text.size - start) start (Threads.none program) none).map
      Match.mk

/-- Some part of the text matches. -/
def Pattern.matches (p : Pattern) (text : String) : Bool :=
  (find? p p.program text.toList.toArray 0).isSome

/-- All matches from the left that do not overlap. An empty match does not touch the one before
it. -/
def findAllFrom (p : Pattern) (program : Array Step) (text : Array Char) :
    Nat → Nat → Option Nat → List Match
  | 0, _, _ => []
  | fuel + 1, start, last =>
    match find? p program text start with
    | none => []
    | some m =>
      match m.group? 0 with
      | none => []
      | some (b, e) =>
        if b == e && some e == last then
          findAllFrom p program text fuel (start + 1) none
        else m :: findAllFrom p program text fuel e (some e)

/-- All matches from the left that do not overlap. -/
def Pattern.findAll (p : Pattern) (text : Array Char) : List Match :=
  findAllFrom p p.program text (2 * text.size + 2) 0 none

end Scaffold.Regex

/-!
## Replace — matches in exchange for a text

A dollar sign in the new text with a number or a name behind it stands for what a group matched;
two of them stand for the sign itself.
-/

namespace Scaffold.Regex

/-- A part of a new text. -/
inductive Part
  | char (c : Char)
  | group (name : String)

/-- A character of the name of a group. -/
def isReferencePart (c : Char) : Bool :=
  c.isAlphanum || c == '_'

/-- The parts of a new text. -/
def partsFrom : Nat → List Char → List Part
  | 0, _ => []
  | _, [] => []
  | fuel + 1, '$' :: '$' :: rest => .char '$' :: partsFrom fuel rest
  | fuel + 1, '$' :: '\x7b' :: rest =>
    let name := rest.takeWhile (· != '\x7d')
    match rest.dropWhile (· != '\x7d') with
    | _ :: after => .group (String.ofList name) :: partsFrom fuel after
    | [] => .char '$' :: partsFrom fuel ('\x7b' :: rest)
  | fuel + 1, '$' :: rest =>
    let name := rest.takeWhile isReferencePart
    if name.isEmpty then .char '$' :: partsFrom fuel rest
    else .group (String.ofList name) :: partsFrom fuel (rest.dropWhile isReferencePart)
  | fuel + 1, c :: rest => .char c :: partsFrom fuel rest

/-- The number of a group by number or name. -/
def Pattern.groupIndex? (p : Pattern) (name : String) : Option Nat :=
  if !name.isEmpty && name.toList.all Char.isDigit then
    some (name.toList.foldl (fun n c => n * 10 + (c.toNat - 48)) 0)
  else p.names.lookup name

/-- The characters between two places. -/
def between (text : Array Char) (b e : Nat) : List Char :=
  (text.extract b e).toList

/-- The text that a part stands for in a match. -/
def Part.chars (p : Pattern) (text : Array Char) (m : Match) : Part → List Char
  | .char c => [c]
  | .group name =>
    match (p.groupIndex? name).bind m.group? with
    | some (b, e) => between text b e
    | none => []

/-- Puts new texts in the place of matches. -/
def replaceFrom (p : Pattern) (parts : List Part) (text : Array Char) :
    Nat → List Match → List Char
  | last, [] => between text last text.size
  | last, m :: rest =>
    match m.group? 0 with
    | none => replaceFrom p parts text last rest
    | some (b, e) =>
      between text last b ++ parts.flatMap (Part.chars p text m)
        ++ replaceFrom p parts text e rest

/-- A text with all matches replaced. -/
def Pattern.replaceAll (p : Pattern) (text new : String) : String :=
  let chars := text.toList.toArray
  let parts := partsFrom (new.length + 1) new.toList
  String.ofList (replaceFrom p parts chars 0 (p.findAll chars))

end Scaffold.Regex

import Scaffold.Text.Ranges
import Scaffold.Text.Utf8

/-!
# Syntax — regular expressions as trees

A pattern is built from sets of characters, assertions about the place between two characters,
groups, sequences, choices and repetitions. A repetition prefers many rounds unless it is lazy; a
choice prefers its first branch.
-/

set_option autoImplicit false

namespace Scaffold.Regex

open Scaffold.Text (Ranges)

/-- What can be said about a place and the words around it. -/
inductive WordPlace
  | boundary
  | noBoundary
  | start
  | stop
  /-- No word reaches the place from the left. -/
  | startHalf
  /-- No word goes on behind the place. -/
  | stopHalf
  deriving DecidableEq, Repr

/-- What can be said about a place between two characters. -/
inductive Assertion
  | textStart
  | textEnd
  | lineStart
  | lineEnd
  /-- Line ends may be a carriage return, a line feed or both. -/
  | lineStartAny
  | lineEndAny
  /-- Words may be made of all characters or of ASCII alone. -/
  | word (place : WordPlace) (ascii : Bool)
  deriving DecidableEq, Repr

/-- A pattern. -/
inductive Node
  | empty
  | one (set : Ranges)
  | assertion (a : Assertion)
  | group (index : Nat) (inner : Node)
  | sequence (a b : Node)
  | choice (a b : Node)
  | repetition (least : Nat) (most : Option Nat) (greedy : Bool) (inner : Node)

instance : Inhabited Node := ⟨.empty⟩

/-- The pattern can match between two characters. -/
def Node.isNullable : Node → Bool
  | .empty | .assertion _ => true
  | .one _ => false
  | .group _ inner => inner.isNullable
  | .sequence a b => a.isNullable && b.isNullable
  | .choice a b => a.isNullable || b.isNullable
  | .repetition least _ _ inner => least == 0 || inner.isNullable

/-- A pattern with its groups: the number of groups, the whole counted in, and their names. -/
structure Pattern where
  node : Node
  groups : Nat
  names : List (String × Nat)

end Scaffold.Regex

/-!
## Normal — patterns as they are written out

Before a pattern is written out as an automaton, characters that follow each other are put together
as texts, sequences in sequences and choices in choices are made flat, and choices between single
characters or between sets become sets.
-/

namespace Scaffold.Regex

open Scaffold.Text (Ranges)

/-- A pattern with flat sequences and choices. -/
inductive Normal
  | empty
  | text (bytes : Bytes)
  | set (s : Ranges)
  | assertion (a : Assertion)
  | group (inner : Normal)
  | repetition (least : Nat) (most : Option Nat) (inner : Normal)
  | sequence (parts : List Normal)
  | choice (branches : List Normal)

instance : Inhabited Normal := ⟨.empty⟩

namespace Normal

mutual

/-- The pattern matches nothing but places. -/
def isPlace : Normal → Bool
  | .empty | .assertion _ => true
  | .text _ | .set _ => false
  | .group inner | .repetition _ _ inner => inner.isPlace
  | .sequence parts | .choice parts => allPlaces parts

/-- The patterns match nothing but places. -/
def allPlaces : List Normal → Bool
  | [] => true
  | part :: parts => part.isPlace && allPlaces parts

end

mutual

/-- The pattern matches no place. -/
def takesText : Normal → Bool
  | .empty | .assertion _ => false
  | .text _ => true
  | .set s => !s.toPairs.isEmpty
  | .group inner => inner.takesText
  | .repetition least _ inner => least != 0 && inner.takesText
  | .sequence parts => anyTakesText parts
  | .choice branches => allTakeText branches

/-- One of the patterns matches no place. -/
def anyTakesText : List Normal → Bool
  | [] => false
  | part :: parts => part.takesText || anyTakesText parts

/-- No pattern matches a place. -/
def allTakeText : List Normal → Bool
  | [] => true
  | part :: parts => part.takesText && allTakeText parts

end

mutual

/-- Every match of the pattern is at a place for which an assertion holds: its beginning, or its end
if the pattern is read backwards. -/
def isBound (a : Assertion) (backwards : Bool) : Normal → Bool
  | .empty | .text _ | .set _ => false
  | .assertion b => a == b
  | .group inner => inner.isBound a backwards
  | .repetition least _ inner => least != 0 && inner.isBound a backwards
  | .sequence parts =>
    if backwards then lastIsBound a parts else firstIsBound a parts
  | .choice branches => allBound a backwards branches

/-- The first part of a sequence, or one behind parts that match nothing but places, is bound. -/
def firstIsBound (a : Assertion) : List Normal → Bool
  | [] => false
  | part :: parts => part.isBound a false || (part.isPlace && firstIsBound a parts)

/-- The last part of a sequence, or one in front of parts that match nothing but places, is
bound. -/
def lastIsBound (a : Assertion) : List Normal → Bool
  | [] => false
  | part :: parts => lastIsBound a parts || (allPlaces parts && part.isBound a true)

/-- All patterns are bound. -/
def allBound (a : Assertion) (backwards : Bool) : List Normal → Bool
  | [] => true
  | part :: parts => part.isBound a backwards && allBound a backwards parts

end

/-- Puts parts behind each other; texts that touch become one. -/
def join (parts : List Normal) : Normal :=
  let flat := parts.flatMap fun
    | .sequence parts => parts
    | .empty => []
    | part => [part]
  let put (part : Normal) (rest : List Normal) : List Normal :=
    match part, rest with
    | .text a, .text b :: rest => .text (a ++ b) :: rest
    | part, rest => part :: rest
  match flat.foldr put [] with
  | [] => .empty
  | [part] => part
  | parts => .sequence parts

/-- The character that a text is, if it is a single one. -/
def char? : Normal → Option Char
  | .text bytes =>
    match (Utf8.toString? bytes).map String.toList with
    | some [c] => some c
    | _ => none
  | _ => none

/-- The characters of a set. -/
def set? : Normal → Option Ranges
  | .set s => some s
  | _ => none

/-- A set of characters, or the text of its only one. -/
def ofSet (s : Ranges) : Normal :=
  match s.toPairs with
  | [(first, last)] => if first = last then .text (Utf8.encodeChar (Char.ofNat first)) else .set s
  | _ => .set s

/-- A choice between branches. -/
def alternatives (branches : List Normal) : Normal :=
  let flat := branches.flatMap fun
    | .choice branches => branches
    | branch => [branch]
  match flat with
  | [branch] => branch
  | branches =>
    match branches.mapM char?, branches.mapM set? with
    | some chars, _ => ofSet (.ofPairs (chars.map fun c => (c.toNat, c.toNat)))
    | none, some sets => ofSet (sets.foldl Ranges.union .none)
    | none, none => .choice branches

/-- A pattern several times; what matches nothing but places is there once at most. -/
def repeated (least : Nat) (most : Option Nat) (inner : Normal) : Normal :=
  let (least, most) := if inner.isPlace then (min least 1, some (min (most.getD 1) 1))
    else (least, most)
  if most = some 0 then .empty
  else if least = 1 && most = some 1 then inner
  else .repetition least most inner

/-- The branches of a pattern. -/
def branches : Node → List Normal
  | .empty => [.empty]
  | .one s => [ofSet s]
  | .assertion a => [.assertion a]
  | .group _ inner => [.group (alternatives (branches inner))]
  | .sequence a b => [join [alternatives (branches a), alternatives (branches b)]]
  | .choice a b => branches a ++ [alternatives (branches b)]
  | .repetition least most _ inner => [repeated least most (alternatives (branches inner))]

/-- A pattern in its normal form. -/
def ofNode (node : Node) : Normal := alternatives (branches node)

end Normal

end Scaffold.Regex

/-!
### Weight — how much room a pattern takes

A pattern is written out as two automata on bytes, of which the first reads forwards and notes the
groups and the second reads backwards. It is refused if either takes too much room. There is a state
for every byte of a text, two for a group, and as many copies of a repeated part as its counts ask
for. A choice between texts is written out as a tree in which texts that begin alike share their
beginnings. A set is written out as the ranges of bytes that its characters are encoded with: ranges
that end alike share their ends where the automaton reads forwards, and their beginnings where it
reads backwards.
-/

namespace Scaffold.Regex

open Scaffold.Text (Ranges)

/-- The room of a state. -/
def stateRoom : Nat := 32

/-- The room of a way from one state to another, for a byte or without. -/
def wayRoom (forByte : Bool) : Nat := if forByte then 8 else 4

/-- The place where a range must be cut because the characters on both sides of it do not have all
their bytes but the last ones in common: at the ends of what one, two or three bytes encode, at the
surrogates, and at the ends of blocks. -/
def cutPlace? (first last : Nat) : Option Nat :=
  let within (place : Nat) : Option Nat :=
    if first < place && place ≤ last then some place else none
  let blocks (size : Nat) : Option Nat :=
    if first / size = last / size then none
    else if first % size != 0 then within ((first / size + 1) * size)
    else if last % size != size - 1 then within (last / size * size)
    else none
  within 0xD800 <|> within 0xE000 <|> within 0x80 <|> within 0x800 <|> within 0x10000
    <|> (if last < 0x80 then none
      else blocks 64 <|> (if last < 0x800 then none
        else blocks 4096 <|> (if last < 0x10000 then none else blocks 262144)))

/-- The parts of a range that are encoded with one range of bytes at each place. -/
def byteRanges : Nat → Nat → Nat → List (List (UInt8 × UInt8))
  | 0, _, _ => []
  | fuel + 1, first, last =>
    match cutPlace? first last with
    | some place => byteRanges fuel first (place - 1) ++ byteRanges fuel place last
    | none =>
      if 0xD800 ≤ first && first < 0xE000 then []
      else [(Utf8.encodeChar (Char.ofNat first)).zip (Utf8.encodeChar (Char.ofNat last))]

/-- How often a range is cut at most. -/
def maxCuts : Nat := 40

/-- A range of bytes. -/
abbrev ByteRange := UInt8 × UInt8

/-- How many elements two lists have in common at their beginnings. -/
def sharedLength {α : Type} [BEq α] : List α → List α → Nat
  | a :: as, b :: bs => if a == b then sharedLength as bs + 1 else 0
  | _, _ => 0

/-- The number of bytes of some sequences that they do not share with the one in front. -/
def unshared : List ByteRange → List (List ByteRange) → Nat
  | _, [] => 0
  | before, s :: rest => s.length - sharedLength s before + unshared s rest

/-- Sequences by their first elements. -/
def byHead {α : Type} [BEq α] (sequences : List (List α)) : List (α × List (List α)) :=
  let put (sequence : List α) (groups : List (α × List (List α))) : List (α × List (List α)) :=
    match sequence, groups with
    | [], groups => groups
    | a :: rest, (b, tails) :: groups =>
      if a == b then (b, rest :: tails) :: groups else (a, [rest]) :: (b, tails) :: groups
    | a :: rest, [] => [(a, [rest])]
  sequences.foldr put []

/-- What can follow the beginnings of some sequences, once for each beginning. -/
def continuations : Nat → List (List ByteRange) → List (List (List ByteRange))
  | 0, _ => []
  | fuel + 1, sequences =>
    let groups := byHead sequences
    if groups.isEmpty then []
    else sequences :: groups.flatMap fun group => continuations fuel group.2

/-- The most bytes of a character. -/
def maxBytes : Nat := 4

/-- The room of a set of characters of which not all are ASCII. -/
def sequencesRoom (backwards : Bool) (sequences : List (List ByteRange)) : Nat :=
  if backwards then
    stateRoom * (unshared [] sequences + 2) + wayRoom false * sequences.length
  else
    let states := (continuations (maxBytes + 1) sequences).eraseDups
    states.foldl (fun n state => n + stateRoom + wayRoom true * (byHead state).length) stateRoom

/-- The room of a set of characters. -/
def setRoom (backwards : Bool) (set : Ranges) : Nat :=
  let pairs := set.toPairs
  if pairs.all fun pair => pair.2 < 128 then 2 * stateRoom + wayRoom true * pairs.length
  else sequencesRoom backwards (pairs.flatMap fun pair => byteRanges maxCuts pair.1 pair.2)

/-- Texts between those that end at a place: in front of the first, behind it, and so on. The second
of two that end in front of all others does not count. -/
def segments (texts : List Bytes) : List (List Bytes) :=
  let put (state : List (List Bytes) × List Bytes) (text : Bytes) :=
    match text, state with
    | [], (done, current) =>
      if current.isEmpty && done.all List.isEmpty && !done.isEmpty then (done, current)
      else (current :: done, [])
    | text, (done, current) => (done, text :: current)
  let (done, current) := texts.foldl put ([], [])
  ((current :: done).map List.reverse).reverse

/-- Adds a text to those that begin with the same byte. -/
def addText (text : Bytes) (groups : List (UInt8 × List Bytes)) : List (UInt8 × List Bytes) :=
  match text with
  | [] => groups
  | b :: rest =>
    if groups.any (·.1 == b) then
      groups.map fun (c, texts) => if c == b then (c, texts ++ [rest]) else (c, texts)
    else groups ++ [(b, [rest])]

/-- The room of the texts behind a place of a tree. -/
def treeRoom : Nat → List Bytes → Nat
  | 0, _ => 0
  | fuel + 1, texts =>
    let parts := segments texts
    let branches := parts.map fun part => part.foldl (fun groups text => addText text groups) []
    let ways (groups : List (UInt8 × List Bytes)) : Nat :=
      if groups.isEmpty then 0
      else stateRoom + wayRoom false + (if groups.length = 1 then 0 else wayRoom true * groups.length)
    let below := branches.flatten.map fun (_, rest) =>
      if rest.all List.isEmpty then 0 else treeRoom fuel rest
    stateRoom + wayRoom false * (parts.length - 1) + (branches.map ways).foldl (· + ·) 0
      + below.foldl (· + ·) 0

/-- The bytes of patterns that are texts. -/
def texts? (branches : List Normal) : Option (List Bytes) :=
  branches.mapM fun
    | .text bytes => some bytes
    | _ => none

/-- The room of a choice between texts. -/
def textsRoom (backwards : Bool) (texts : List Bytes) : Nat :=
  let texts := if backwards then texts.map List.reverse else texts
  stateRoom + treeRoom ((texts.map List.length).foldl max 0 + 1) texts

/-- The room of a state from which two ways lead. -/
def forkRoom : Nat := stateRoom + 2 * wayRoom false

mutual

/-- The room of a pattern. -/
def Normal.room (backwards : Bool) : Normal → Nat
  | .empty | .assertion _ => stateRoom
  | .text bytes => stateRoom * bytes.length
  | .set s => setRoom backwards s
  | .group inner => inner.room backwards + (if backwards then 0 else 2 * stateRoom)
  | .sequence parts => Normal.roomOfAll backwards parts
  | .choice branches =>
    match texts? branches with
    | some texts => textsRoom backwards texts
    | none =>
      Normal.roomOfAll backwards branches + 2 * stateRoom + wayRoom false * branches.length
  | .repetition 0 (some 1) inner => inner.room backwards + forkRoom + stateRoom
  | .repetition least (some most) inner =>
    let room := inner.room backwards
    let first := if least = 0 then stateRoom else least * room
    if least = most then first else first + stateRoom + (most - least) * (room + forkRoom)
  | .repetition 0 none inner =>
    if inner.takesText then inner.room backwards + forkRoom
    else inner.room backwards + 2 * forkRoom + stateRoom
  | .repetition least none inner => least * inner.room backwards + forkRoom

/-- The room of patterns. -/
def Normal.roomOfAll (backwards : Bool) : List Normal → Nat
  | [] => 0
  | part :: parts => part.room backwards + Normal.roomOfAll backwards parts

end

/-- The room of what leads to a pattern: any bytes, or nothing if its matches are bound to an end of
the text; and of what follows it. -/
def frameRoom (backwards bound : Bool) : Nat :=
  let before := if bound then stateRoom else forkRoom + 2 * stateRoom + wayRoom true
  before + stateRoom + (if backwards then 0 else 2 * stateRoom)

/-- The room of an automaton of a whole pattern. -/
def Normal.automatonRoom (backwards : Bool) (n : Normal) : Nat :=
  let a : Assertion := if backwards then .textEnd else .textStart
  n.room backwards + frameRoom backwards (n.isBound a backwards)

/-- The most room that an automaton may take. -/
def maxRoom : Nat := 10485760

/-- The automata of a pattern do not take too much room. -/
def Node.fits (node : Node) : Bool :=
  let n := Normal.ofNode node
  n.automatonRoom true ≤ maxRoom && n.automatonRoom false ≤ maxRoom

end Scaffold.Regex

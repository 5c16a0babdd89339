import Scaffold.Script.Expression

/-!
# Occurrence — where a pattern matches

Of all matches the leftmost one counts, and of these the longest; its groups are those of the first
way to match as much, where branches are tried in order and repetitions go on as long as they can.

A pattern is written out as steps. The ways through them are tried one after the other, and a step
at a place that was tried before is left out, unless the pattern asks what a group has matched.
-/

set_option autoImplicit false

namespace Scaffold.Script.Expression

/-! ## Steps -/

/-- A step of a match. -/
inductive Step
  | one (members : Members)
  | assertion (a : Assertion)
  /-- Notes the place; even slots begin groups, odd ones end them. -/
  | note (slot : Nat)
  | back (n : Nat)
  /-- Fails where nothing was matched since a place was noted. -/
  | progress (slot : Nat)
  | jump (target : Nat)
  | fork (preferred other : Nat)
  | done

instance : Inhabited Step := ⟨.done⟩

/-- The number of steps of a pattern. -/
def Node.size : Node → Nat
  | .empty => 0
  | .one _ | .assertion _ | .back _ => 1
  | .group _ inner => inner.size + 2
  | .sequence a b => a.size + b.size
  | .choice a b => a.size + b.size + 2
  | .repetition least (some most) inner =>
    least * inner.size + (most - least) * (inner.size + 1)
  | .repetition least none inner => least * inner.size + inner.size + 4

/-- Does something a number of times. -/
def times {α : Type} : Nat → (α → α) → α → α
  | 0, _, a => a
  | n + 1, f, a => times n f (f a)

/-- Puts the steps of a pattern behind others; `slot` notes where a round of a repetition begins. -/
def Node.emit (slot : Nat) : Node → Array Step → Array Step
  | .empty, out => out
  | .one members, out => out.push (.one members)
  | .assertion a, out => out.push (.assertion a)
  | .back n, out => out.push (.back n)
  | .group n inner, out =>
    (inner.emit slot (out.push (.note (2 * n)))).push (.note (2 * n + 1))
  | .sequence a b, out => b.emit slot (a.emit slot out)
  | .choice a b, out =>
    let second := out.size + a.size + 2
    let first := a.emit slot (out.push (.fork (out.size + 1) second))
    b.emit slot (first.push (.jump (second + b.size)))
  | .repetition least (some most) inner, out =>
    let out := times least (inner.emit slot) out
    let past := out.size + (most - least) * (inner.size + 1)
    times (most - least)
      (fun out => inner.emit slot (out.push (.fork (out.size + 1) past))) out
  | .repetition least none inner, out =>
    let out := times least (inner.emit slot) out
    let start := out.size
    let past := start + inner.size + 4
    let round := inner.emit (slot + 1) ((out.push (.fork (start + 1) past)).push (.note slot))
    (round.push (.progress slot)).push (.jump start)

/-- The pattern asks what a group has matched. -/
def Node.asks : Node → Bool
  | .back _ => true
  | .group _ inner | .repetition _ _ inner => inner.asks
  | .sequence a b | .choice a b => a.asks || b.asks
  | .empty | .one _ | .assertion _ => false

/-- How many repetitions stand in each other. -/
def Node.depth : Node → Nat
  | .repetition _ _ inner => inner.depth + 1
  | .group _ inner => inner.depth
  | .sequence a b | .choice a b => max a.depth b.depth
  | .empty | .one _ | .assertion _ | .back _ => 0

/-- A pattern that can be searched for. -/
structure Pattern where
  program : Array Step
  groups : Nat
  /-- How many places are noted. -/
  slots : Nat
  asks : Bool

/-- The pattern that a node and its groups make. -/
def Node.pattern (node : Node) (groups : Nat) : Pattern :=
  let first := 2 * (groups + 1)
  { program := (node.emit first #[]).push .done
    groups
    slots := first + node.depth
    asks := node.asks }

/-! ## Searching -/

/-- The places that were noted, by slot. -/
abbrev Slots := Array (Option Nat)

/-- The character belongs to a word. -/
def isWord (c : Option Char) : Bool := c.any fun c => c.isAlphanum || c == '_'

/-- What is asked holds at a place. -/
def Assertion.holds (text : Array Char) (i : Nat) (a : Assertion) : Bool :=
  let before := if i = 0 then none else text[i - 1]?
  let after := text[i]?
  match a with
  | .start => i = 0
  | .finish => i = text.size
  | .lineStart => i = 0 || before == some '\n'
  | .lineFinish => i = text.size || after == some '\n'
  | .wordStart => !isWord before && isWord after
  | .wordFinish => isWord before && !isWord after
  | .wordEdge => isWord before != isWord after
  | .noWordEdge => isWord before == isWord after
  | .noneBefore => !isWord before
  | .noneAfter => !isWord after

/-- A way through the steps: the next step, the place, and what was noted. -/
structure Way where
  step : Nat
  place : Nat
  slots : Slots

/-- What a search has found. -/
structure Found where
  /-- The steps and places that were tried. -/
  tried : Array Bool
  best : Option (Nat × Slots) := none

/-- The ways that go on behind a step. -/
def onward (p : Pattern) (ignoresCase : Bool) (text : Array Char) (w : Way) : List Way :=
  match p.program[w.step]? with
  | some (.one members) =>
    match text[w.place]? with
    | some c => if members.contains c then [⟨w.step + 1, w.place + 1, w.slots⟩] else []
    | none => []
  | some (.assertion a) => if a.holds text w.place then [{ w with step := w.step + 1 }] else []
  | some (.note slot) =>
    [{ w with step := w.step + 1, slots := w.slots.setIfInBounds slot (some w.place) }]
  | some (.progress slot) =>
    if (w.slots.getD slot none) == some w.place then [] else [{ w with step := w.step + 1 }]
  | some (.back n) =>
    match (w.slots.getD (2 * n) none), (w.slots.getD (2 * n + 1) none) with
    | some b, some e =>
      let fold (c : Char) : Char := if ignoresCase then c.toLower else c
      let part := (text.extract b e).toList.map fold
      if (text.extract w.place (w.place + (e - b))).toList.map fold == part then
        [⟨w.step + 1, w.place + (e - b), w.slots⟩]
      else []
    | _, _ => []
  | some (.jump target) => [{ w with step := target }]
  | some (.fork preferred other) => [{ w with step := preferred }, { w with step := other }]
  | some .done | none => []

/-- Tries ways one after the other. With a goal, only a match that ends there counts; else the
longest one does. -/
def explore (p : Pattern) (ignoresCase : Bool) (text : Array Char) (goal : Option Nat) :
    Nat → List Way → Found → Found
  | 0, _, f | _, [], f => f
  | fuel + 1, w :: ways, f =>
    let key := w.step * (text.size + 1) + w.place
    if !p.asks && f.tried.getD key true then explore p ignoresCase text goal fuel ways f
    else
      let f := if p.asks then f else { f with tried := f.tried.setIfInBounds key true }
      match p.program[w.step]?, goal with
      | some .done, some e =>
        if w.place = e then { f with best := some (w.place, w.slots) }
        else explore p ignoresCase text goal fuel ways f
      | some .done, none =>
        if w.place = text.size then { f with best := some (w.place, w.slots) }
        else if f.best.all fun (e, _) => decide (e < w.place) then
          explore p ignoresCase text goal fuel ways { f with best := some (w.place, w.slots) }
        else explore p ignoresCase text goal fuel ways f
      | _, _ => explore p ignoresCase text goal fuel (onward p ignoresCase text w ++ ways) f

/-- How many steps are taken at most. -/
def Pattern.fuel (p : Pattern) (text : Array Char) : Nat :=
  if p.asks then 2000000 else 2 * p.program.size * (text.size + 1) + 2

/-- Nothing was tried yet. -/
def Pattern.fresh (p : Pattern) (text : Array Char) : Found :=
  { tried := if p.asks then #[] else Array.replicate (p.program.size * (text.size + 1)) false }

/-- A match: the places where its groups begin and end. -/
structure Match where
  slots : Slots

/-- The places where a group begins and ends. -/
def Match.group? (m : Match) (n : Nat) : Option (Nat × Nat) := do
  return (← (m.slots[2 * n]?).join, ← (m.slots[2 * n + 1]?).join)

/-- The match at a place that ends at another one. -/
def Pattern.matchAt (p : Pattern) (ignoresCase : Bool) (text : Array Char) (b e : Nat) : Match :=
  let none : Slots := Array.replicate p.slots Option.none
  let slots := if p.groups = 0 then none
    else
      let f := explore p ignoresCase text (some e) (p.fuel text) [⟨0, b, none⟩] (p.fresh text)
      (f.best.map Prod.snd).getD none
  ⟨(slots.setIfInBounds 0 (some b)).setIfInBounds 1 (some e)⟩

/-- The leftmost match among those that begin at one of so many places. -/
def Pattern.findFrom (p : Pattern) (ignoresCase : Bool) (text : Array Char) :
    Nat → Nat → Found → Option Match
  | 0, _, _ => none
  | count + 1, b, f =>
    let slots : Slots := if p.asks then Array.replicate p.slots none else #[]
    let f := explore p ignoresCase text none (p.fuel text) [⟨0, b, slots⟩] f
    match f.best with
    | none => p.findFrom ignoresCase text count (b + 1) f
    | some (e, slots) =>
      if p.asks then some ⟨(slots.setIfInBounds 0 (some b)).setIfInBounds 1 (some e)⟩
      else some (p.matchAt ignoresCase text b e)

end Scaffold.Script.Expression

namespace Scaffold.Script

/-- A pattern of a program with the case that it looks at. -/
structure Expression extends Expression.Pattern where
  ignoresCase : Bool

namespace Expression

/-- How much of a line a pattern has to match. -/
inductive Extent
  | anywhere | wholeLine | wholeWord
  deriving DecidableEq

/-- The pattern that matches what one of several patterns does, each with the groups in front. -/
def nodeOf (style : Style) : Nat → List (List Char) → Except Fault (Node × Nat)
  | base, [] => .ok (.empty, base)
  | base, text :: more => do
    let (node, g, _) ← branches style (2 * text.length + 2) 0 { base } text
    match more with
    | [] => return (node, base + g.count)
    | more => do
      let (others, groups) ← nodeOf style (base + g.count) more
      return (.choice node others, groups)

/-- The pattern that texts spell, of which any may match. -/
def ofTexts (style : Style) (extent : Extent) (texts : List String) : Except Fault Expression := do
  let (node, groups) ← nodeOf style 0 (texts.map String.toList)
  let around (a b : Assertion) : Node :=
    .sequence (.assertion a) (.sequence node (.assertion b))
  let node := match extent with
    | .anywhere => node
    | .wholeLine => around .start .finish
    | .wholeWord => around .noneBefore .noneAfter
  if 1000000 < node.size then throw .tooBig
  return { node.pattern groups with ignoresCase := style.ignoresCase }

/-- The pattern that a text spells. -/
def ofText (style : Style) (text : String) : Except Fault Expression :=
  ofTexts style .anywhere [text]

/-- The pattern that matches texts as they stand there. -/
def ofLiterals (style : Style) (extent : Extent) (texts : List String) : Expression :=
  let one (text : String) : Node :=
    text.toList.foldr (fun c node => .sequence (style.literal c) node) .empty
  let node := match texts with
    | [] => Node.empty
    | text :: more => more.foldl (fun node text => .choice node (one text)) (one text)
  let around (a b : Assertion) : Node :=
    .sequence (.assertion a) (.sequence node (.assertion b))
  let node := match extent with
    | .anywhere => node
    | .wholeLine => around .start .finish
    | .wholeWord => around .noneBefore .noneAfter
  { node.pattern 0 with ignoresCase := style.ignoresCase }

/-- The first match that begins at or behind a place. -/
def find? (e : Expression) (text : Array Char) (start : Nat) : Option Match :=
  e.toPattern.findFrom e.ignoresCase text (text.size + 1 - start) start (e.fresh text)

/-- The match that begins at a place. -/
def findAt? (e : Expression) (text : Array Char) (place : Nat) : Option Match :=
  e.toPattern.findFrom e.ignoresCase text 1 place (e.fresh text)

/-- Some part of a text matches. -/
def occurs (e : Expression) (text : String) : Bool := (e.find? text.toList.toArray 0).isSome

/-- All matches from a place on that do not overlap. An empty match does not touch the one before
it. -/
def findAllFrom (e : Expression) (text : Array Char) : Nat → Nat → Option Nat → List Match
  | 0, _, _ => []
  | fuel + 1, start, last =>
    if text.size < start then []
    else
      match e.find? text start with
      | none => []
      | some m =>
        match m.group? 0 with
        | none => []
        | some (b, f) =>
          if b == f && some f == last then findAllFrom e text fuel (start + 1) none
          else m :: findAllFrom e text fuel f (some f)

/-- All matches from the left that do not overlap. -/
def findAll (e : Expression) (text : Array Char) : List Match :=
  findAllFrom e text (2 * text.size + 2) 0 none

end Expression

end Scaffold.Script

import Scaffold.Script.LineUtility
import Scaffold.Script.Sorting

/-!
# Comparing — what two files have in common

The lines that two files share are a longest row of lines that is found in both in the same order.
-/

set_option autoImplicit false

namespace Scaffold.Script

namespace Comparing

/-! ## Common lines -/

/-- How a line of one of two rows is used. -/
inductive Use (α : Type)
  | both (line : α)
  | first (line : α)
  | second (line : α)

/-- The lengths of the longest common rows of a line with what follows it and the ends of another
row, from those without the line. -/
def nextLengths {α : Type} (isSame : α → α → Bool) (line : α) : List α → List Nat → List Nat
  | [], below => below
  | b :: bs, below =>
    let rest := nextLengths isSame line bs (below.drop 1)
    let diagonal := (below.drop 1).headD 0
    let n := if isSame line b then diagonal + 1 else max (below.headD 0) (rest.headD 0)
    n :: rest

/-- The lengths of the longest common rows of all ends of two rows. -/
def commonLengths {α : Type} (isSame : α → α → Bool) (bs : List α) : List α → List (List Nat)
  | [] => [List.replicate (bs.length + 1) 0]
  | a :: as =>
    let below := commonLengths isSame bs as
    nextLengths isSame a bs (below.headD []) :: below

/-- Two rows side by side along a longest common one. -/
def align {α : Type} (isSame : α → α → Bool) :
    List (List Nat) → Nat → List α → List α → List (Use α)
  | _, _, [], bs => bs.map .second
  | _, _, as, [] => as.map .first
  | table, place, a :: as, b :: bs =>
    let here (row : List Nat) (n : Nat) : Nat := (row[n]?).getD 0
    let below := table.drop 1
    if isSame a b then .both a :: align isSame below (place + 1) as bs
    else if here (table.headD []) (place + 1) ≤ here (below.headD []) place then
      .first a :: align isSame below place as (b :: bs)
    else .second b :: align isSame table (place + 1) (a :: as) bs
termination_by _ _ as bs => as.length + bs.length

/-- A part of two rows in which they differ: where it begins in each, and its lines. -/
structure Change (α : Type) where
  firstAt : Nat
  secondAt : Nat
  removed : List α := []
  added : List α := []

/-- The parts in which two rows differ. -/
def changes {α : Type} : Nat → Nat → List (Use α) → List (Change α)
  | _, _, [] => []
  | m, n, .both _ :: more => changes (m + 1) (n + 1) more
  | m, n, .first a :: more =>
    match changes (m + 1) n more with
    | c :: cs =>
      if c.firstAt = m + 1 && c.secondAt = n then
        { c with firstAt := m, removed := a :: c.removed } :: cs
      else ⟨m, n, [a], []⟩ :: c :: cs
    | [] => [⟨m, n, [a], []⟩]
  | m, n, .second b :: more =>
    match changes m (n + 1) more with
    | c :: cs =>
      if c.firstAt = m && c.secondAt = n + 1 then
        { c with secondAt := n, added := b :: c.added } :: cs
      else ⟨m, n, [], [b]⟩ :: c :: cs
    | [] => [⟨m, n, [], [b]⟩]

/-! ## Programs -/

/-- Lines with a mark in front; a line without an end is told. -/
def shownLines (mark : String) (lines : List Bytes) : Bytes :=
  lines.flatMap fun line =>
    Raw.bytes mark ++ line ++
      if line.getLast? == some 10 then [] else Raw.bytes "\n\\ No newline at end of file\n"

/-- A range of lines; an empty one is the line in front of it. -/
def rangeText (start count : Nat) : String :=
  if count ≤ 1 then toString (start + count)
  else toString (start + 1) ++ "," ++ toString (start + count)

/-- A change in the plain form. -/
def Change.text (c : Change Bytes) : Bytes :=
  let sign := if c.added.isEmpty then "d" else if c.removed.isEmpty then "a" else "c"
  Raw.bytes (rangeText c.firstAt c.removed.length ++ sign ++ rangeText c.secondAt c.added.length
    ++ "\n")
    ++ shownLines "< " c.removed
    ++ (if c.added.isEmpty || c.removed.isEmpty then [] else Raw.bytes "---\n")
    ++ shownLines "> " c.added

/-- A line as it is compared. -/
def comparedLine (o : Settings) (line : Bytes) : Bytes :=
  let isBlank (c : UInt8) : Bool := c = 32 || c = 9
  let line := if o.has 'i' then line.map fun c => if 65 ≤ c && c ≤ 90 then c + 32 else c else line
  if o.has 'w' then line.filter (!isBlank ·) else line

/-- Tells in which lines two files differ. -/
def diff : Tool where
  name := "diff"
  flags := "abBdiqrsNw"
  names := [("brief", 'q'), ("ignore-case", 'i'), ("ignore-all-space", 'w'),
    ("ignore-space-change", 'b'), ("recursive", 'r'), ("new-file", 'N'),
    ("report-identical-files", 's')]
  misuse := 2
  reads o := o.operands.contains "-"
  run o input s :=
    let inside (path other : String) : String :=
      if s.tree.kind? path = some .directory && s.tree.kind? other != some .directory then
        Path.join path ((Path.fileName? other).getD "")
      else path
    match o.operands with
    | [a, b] =>
      let (a, b) := (inside a b, inside b a)
      match Utility.contentOf (fun path => "diff: " ++ path) input a s,
        Utility.contentOf (fun path => "diff: " ++ path) input b s with
      | .ok x, .ok y =>
        if x = y then
          Utility.good (out (if o.has 's' then "Files " ++ a ++ " and " ++ b ++ " are identical\n"
            else "")) s
        else
          let isSame (x y : Bytes) : Bool := comparedLine o x == comparedLine o y
          let (x, y) := (Utility.lines x, Utility.lines y)
          let found := changes 0 0 (align isSame (commonLengths isSame y x) 0 x y)
          if found.isEmpty then Utility.good [] s
          else if o.has 'q' then
            Utility.bad 1 (out ("Files " ++ a ++ " and " ++ b ++ " differ\n")) s
          else Utility.bad 1 [(1, found.flatMap Change.text)] s
      | .error p, .error q => Utility.bad 2 (p ++ q) s
      | .error p, .ok _ | .ok _, .error p => Utility.bad 2 p s
    | args =>
      let text := match args with
        | [] => "missing operand after 'diff'"
        | [a] => "missing operand after '" ++ a ++ "'"
        | args => "extra operand '" ++ (args[2]?).getD "" ++ "'"
      Utility.bad 2 (err ("diff: " ++ text ++ "\ndiff: " ++ Tool.hint "diff")) s

/-- How many bytes two contents share at their start, and how many lines end among these. -/
def sharedStart : Bytes → Bytes → Nat × Nat
  | x :: xs, y :: ys =>
    if x = y then
      let (bytes, ends) := sharedStart xs ys
      (bytes + 1, if x = 10 then ends + 1 else ends)
    else (0, 0)
  | _, _ => (0, 0)

/-- Tells where two files differ first. -/
def cmp : Tool where
  name := "cmp"
  flags := "bls"
  names := [("print-bytes", 'b'), ("verbose", 'l'), ("silent", 's'), ("quiet", 's')]
  misuse := 2
  reads o := o.operands.length < 2 || o.operands.contains "-"
  run o input s :=
    match o.operands with
    | [] =>
      Utility.bad 2 (err ("cmp: missing operand after 'cmp'\ncmp: " ++ Tool.hint "cmp")) s
    | a :: rest =>
      let b := rest.headD "-"
      match Utility.contentOf (fun path => "cmp: " ++ path) input a s,
        Utility.contentOf (fun path => "cmp: " ++ path) input b s with
      | .ok x, .ok y =>
        if x = y then Utility.good [] s
        else
          let (bytes, ends) := sharedStart x y
          if o.has 's' then Utility.bad 1 [] s
          else if bytes = min x.length y.length then
            let shorter := if x.length < y.length then a else b
            let isOpen := ((x.take bytes).getLast?).any (· != 10)
            let place := if bytes = 0 then " which is empty"
              else " after byte " ++ toString bytes ++
                (if isOpen then ", in line " ++ toString (ends + 1) else ", line " ++ toString ends)
            Utility.bad 1 (err ("cmp: EOF on " ++ shorter ++ place ++ "\n")) s
          else
            Utility.bad 1 (out (a ++ " " ++ b ++ " differ: char " ++ toString (bytes + 1)
              ++ ", line " ++ toString (ends + 1) ++ "\n")) s
      | .error p, _ | _, .error p => Utility.bad 2 p s

/-- Two sorted rows merged. -/
def merge (isBefore : Bytes → Bytes → Bool) : List Bytes → List Bytes → List (Use Bytes)
  | [], bs => bs.map .second
  | as, [] => as.map .first
  | a :: as, b :: bs =>
    if a = b then .both a :: merge isBefore as bs
    else if isBefore a b then .first a :: merge isBefore as (b :: bs)
    else .second b :: merge isBefore (a :: as) bs
termination_by as bs => as.length + bs.length

/-- Bytes stand before others in their order. -/
def bytesBefore : Bytes → Bytes → Bool
  | [], _ => true
  | _ :: _, [] => false
  | x :: xs, y :: ys => x < y || (x == y && bytesBefore xs ys)

/-- Tells which lines two sorted files share. -/
def comm : Tool where
  name := "comm"
  flags := "123z"
  reads o := o.operands.contains "-"
  run o input s :=
    match o.operands with
    | [a, b] =>
      match Utility.contentOf (Utility.titled "comm") input a s,
        Utility.contentOf (Utility.titled "comm") input b s with
      | .ok x, .ok y =>
        let x := (Utility.lines x).map Utility.bareLine
        let y := (Utility.lines y).map Utility.bareLine
        let merged := merge bytesBefore x y
        let tabs (columns : List Char) : Bytes :=
          (columns.filter (!o.has ·)).map fun _ => 9
        let isSorted (ls : List Bytes) : Bool := (Sorting.disorder? bytesBefore 1 ls).isNone
        let complaint (ls : List Bytes) (n : String) : String :=
          if isSorted ls then "" else "comm: file " ++ n ++ " is not in sorted order\n"
        let complaints := complaint x "1" ++ complaint y "2"
        let one : Use Bytes → Bytes
          | .first line => if o.has '1' then [] else line ++ [10]
          | .second line => if o.has '2' then [] else tabs ['1'] ++ line ++ [10]
          | .both line => if o.has '3' then [] else tabs ['1', '2'] ++ line ++ [10]
        let printed : Printed := [(1, merged.flatMap one)]
        if complaints.isEmpty then Utility.good printed s
        else
          Utility.bad 1 (printed ++ err (complaints ++ "comm: input is not in sorted order\n")) s
      | .error p, _ | _, .error p => Utility.bad 1 p s
    | [] => Tool.misused "comm" "missing operand" 1 s
    | [a] => Tool.misused "comm" ("missing operand after '" ++ a ++ "'") 1 s
    | args => Tool.misused "comm" ("extra operand '" ++ (args[2]?).getD "" ++ "'") 1 s

end Comparing

end Scaffold.Script

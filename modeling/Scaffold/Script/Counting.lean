import Scaffold.Script.Occurrence
import Scaffold.Script.Utility

/-!
# Counting — programs that count lines, words and bytes, and number lines

Numbers stand at the right of columns. Lines that are numbered may stand on pages, each with a head
and a foot, which lines of signs set apart.
-/

set_option autoImplicit false

namespace Scaffold.Script

namespace Counting

/-- A number at the right of a column. -/
def column (width : Nat) (n : Nat) : Bytes := Utility.padded width false (Raw.bytes (toString n))

/-! ## Counts -/

/-- The greatest width of a line: a tab goes on to the next of the places that are eight apart, and
what cannot be printed takes no place. -/
def greatestWidth (b : Bytes) : Nat :=
  let step (found : Nat × Nat) (c : UInt8) : Nat × Nat :=
    let (most, width) := found
    if c = 10 || c = 12 || c = 13 then (max most width, 0)
    else if c = 9 then (most, width + 8 - width % 8)
    else if 32 ≤ c && c ≤ 126 then (most, width + 1)
    else (most, width)
  let (most, width) := b.foldl step (0, 0)
  max most width

/-- The counts that options ask for: lines, words, characters, bytes. -/
def countsOf (o : Settings) (b : Bytes) : List Nat :=
  let isPlain := !(['l', 'w', 'm', 'c', 'L'].any o.has)
  (if isPlain || o.has 'l' then [(b.filter (· = 10)).length] else []) ++
  (if isPlain || o.has 'w' then [(Utility.words (Raw.text b)).length] else []) ++
  (if o.has 'm' then [b.length] else []) ++
  (if isPlain || o.has 'c' then [b.length] else []) ++
  (if o.has 'L' then [greatestWidth b] else [])

/-- Counts in columns. -/
def countLine (width : Nat) (counts : List Nat) (name : String) : Bytes :=
  [32].intercalate (counts.map (column width)) ++ Raw.bytes (name ++ "\n")

/-- The counts of all contents together; a width is that of the longest line. -/
def totalOf (o : Settings) (contents : List Bytes) : List Nat :=
  let add (ns ms : List Nat) : List Nat := (ns.zip ms).map fun (n, m) => n + m
  let total := contents.foldl (fun ns b => add ns (countsOf o b)) (countsOf o [])
  if o.has 'L' then
    total.dropLast ++ [(contents.map greatestWidth).foldl max 0]
  else total

/-- The paths to read: operands, or the names in a file with a zero behind each. -/
def pathsOf (o : Settings) (input : Bytes) (s : Session) : Except Printed (List String) :=
  match o.value? 'ν' with
  | none => .ok (if o.operands.isEmpty then ["-"] else o.operands)
  | some list =>
    let title (path : String) : String := "wc: cannot open " ++ Quoting.path path ++ " for reading"
    match o.operands with
    | extra :: _ =>
      .error (err ("wc: extra operand " ++ Quoting.path extra
        ++ "\nfile operands cannot be combined with --files0-from\n" ++ Tool.hint "wc"))
    | [] => (Utility.contentOf title input list s).map fun b => (Utility.bareLines 0 b).map Raw.text

/-- Counts lines, words and bytes. A column is as wide as the number of all bytes, or wide enough
for most where that number is not known in advance. -/
def wc : Tool where
  name := "wc"
  flags := "clLmw"
  valued := "ντ"
  names := [("bytes", 'c'), ("chars", 'm'), ("lines", 'l'), ("max-line-length", 'L'),
    ("words", 'w'), ("files0-from", 'ν'), ("total", 'τ')]
  reads := Tool.readsInput
  run o input s :=
    match pathsOf o input s with
    | .error p => Utility.bad 1 p s
    | .ok paths =>
      let contents := paths.map fun path =>
        (path, Utility.contentOf (Utility.titled "wc") input path s)
      let isRegular (path : String) : Bool := path != "-" && s.tree.kind? path = some .file
      let isKnown := paths.all fun path =>
        isRegular path || (path != "-" && (s.tree.kind? path).isNone)
      let size := contents.foldl (fun n (path, r) =>
        match r with
        | .ok b => if isRegular path then n + b.length else n
        | .error _ => n) 0
      let total := o.value? 'τ'
      let columns := (countsOf o []).length
      let width :=
        if total == some "only" || (columns = 1 && paths.length = 1) then 1
        else if isKnown then (toString size).length
        else max 7 (toString size).length
      let rows := contents.map fun (path, r) =>
        let name := if o.operands.isEmpty && !o.has 'ν' then ""
          else " " ++ Quoting.pathIfNeeded path
        let row (counts : List Nat) : Printed :=
          if total == some "only" then [] else [(1, countLine width counts name)]
        match r with
        | .ok b => row (countsOf o b)
        | .error p =>
          if s.tree.kind? path = some .directory then p ++ row (countsOf o []) else p
      let all := contents.filterMap fun (_, r) => r.toOption
      let isTotalled := match total with
        | some "only" | some "always" => true
        | some "never" => false
        | _ => 1 < paths.length
      let totals : Printed :=
        if isTotalled then
          [(1, countLine width (totalOf o all) (if total == some "only" then "" else " total"))]
        else []
      Utility.bad (if all.length = contents.length then 0 else 1) (rows.flatten ++ totals) s

/-! ## Numbers of lines -/

/-- Which lines of a section have numbers. -/
inductive Numbered
  | all | filled | none
  | matching (pattern : Expression)

/-- What is wrong with the options. -/
inductive Fault
  | style (section_ text : String)
  | number (what text : String)
  | tooSmall (what text : String)
  | format (text : String)

/-- The wording of a fault. -/
def Fault.message : Fault → String
  | .style name text => "invalid " ++ name ++ " numbering style: " ++ Quoting.path text
  | .number what text => "invalid " ++ what ++ ": " ++ Quoting.path text
  | .tooSmall what text =>
    "invalid " ++ what ++ ": " ++ Quoting.path text ++ ": Numerical result out of range"
  | .format text => "invalid line numbering format: " ++ Quoting.path text

/-- Reads a style. -/
def styleOf (name text : String) : Except Fault Numbered :=
  match text.toList with
  | 'a' :: _ => .ok .all
  | 't' :: _ => .ok .filled
  | 'n' :: _ => .ok .none
  | 'p' :: pattern =>
    match Expression.ofText {} (String.ofList pattern) with
    | .ok e => .ok (.matching e)
    | .error _ => .error (.style name text)
  | _ => .error (.style name text)

/-- Where numbers stand in their columns. -/
inductive NumberFormat
  | left | right | zeros

/-- How lines are numbered. -/
structure Numbering where
  header : Numbered
  body : Numbered
  footer : Numbered
  marks : List UInt8
  start : Int
  step : Int
  /-- Of so many empty lines in a row only the last one has a number. -/
  joined : Nat
  format : NumberFormat
  isContinued : Bool
  separator : Bytes
  width : Nat

/-- Reads the options. -/
def Numbering.read (o : Settings) : Except Fault Numbering := do
  let style (letter : Char) (name : String) (standard : Numbered) : Except Fault Numbered :=
    ((o.value? letter).map (styleOf name)).getD (.ok standard)
  let number (letter : Char) (what : String) (least : Option Int) (standard : Int) :
      Except Fault Int :=
    match o.value? letter with
    | Option.none => .ok standard
    | some text =>
      match text.toInt? with
      | some n => if least.any (n < ·) then .error (.tooSmall what text) else .ok n
      | Option.none => .error (.number what text)
  let header ← style 'h' "header" .none
  let body ← style 'b' "body" .filled
  let footer ← style 'f' "footer" .none
  let start ← number 'v' "starting line number" Option.none 1
  let step ← number 'i' "line number increment" Option.none 1
  let joined ← number 'l' "line number of blank lines" (some 1) 1
  let width ← number 'w' "line number field width" (some 1) 6
  let format ← match o.value? 'n' with
    | some "ln" => pure .left
    | some "rz" => pure .zeros
    | some "rn" | Option.none => pure .right
    | some text => throw (.format text)
  let marks := match Raw.bytes ((o.value? 'd').getD "\\:") with
    | [c] => [c, 58]
    | marks => marks
  return { header, body, footer, marks, start, step, joined := joined.toNat, format,
           isContinued := o.has 'p', separator := Raw.bytes ((o.value? 's').getD "\t"),
           width := width.toNat }

/-- A number in its column. -/
def Numbering.place (g : Numbering) (n : Int) : Bytes :=
  let digits := Raw.bytes (toString n)
  match g.format with
  | .left => Utility.padded g.width true digits
  | .right => Utility.padded g.width false digits
  | .zeros =>
    let size := Raw.bytes (toString n.natAbs)
    let sign : Bytes := if n < 0 then [45] else []
    sign ++ List.replicate (g.width - sign.length - size.length) 48 ++ size

/-- Where the numbering of lines stands. -/
structure Counted where
  next : Int
  style : Numbered
  /-- Empty lines in a row since the last number. -/
  empty : Nat := 0

/-- A line with its number or without one. -/
def Numbering.line (g : Numbering) (at_ : Counted) (bare : Bytes) : Counted × Bytes :=
  let plain := (at_, List.replicate (g.width + g.separator.length) 32 ++ bare ++ [10])
  let numbered (at_ : Counted) : Counted × Bytes :=
    ({ at_ with next := at_.next + g.step }, g.place at_.next ++ g.separator ++ bare ++ [10])
  match at_.style with
  | .none => plain
  | .filled => if bare.isEmpty then plain else numbered at_
  | .matching e => if e.occurs (Raw.text bare) then numbered at_ else plain
  | .all =>
    if g.joined ≤ 1 then numbered at_
    else if !bare.isEmpty || at_.empty + 1 = g.joined then numbered { at_ with empty := 0 }
    else ({ at_ with empty := at_.empty + 1 }, plain.2)

/-- Numbers a line, or begins a section. -/
def Numbering.next (g : Numbering) (done : Counted × Bytes) (bare : Bytes) : Counted × Bytes :=
  let (at_, text) := done
  let sections := [(3, g.header), (2, g.body), (1, g.footer)]
  let opened := sections.find? fun (count, _) =>
    !g.marks.isEmpty && bare == (List.replicate count g.marks).flatten
  match opened with
  | some (_, style) =>
    ({ at_ with style, next := if g.isContinued then at_.next else g.start }, text ++ [10])
  | Option.none =>
    let (at_, line) := g.line at_ bare
    (at_, text ++ line)

/-- Prints lines with their numbers. -/
def nl : Tool where
  name := "nl"
  flags := "p"
  valued := "bdfhilnsvw"
  names := [("body-numbering", 'b'), ("section-delimiter", 'd'), ("footer-numbering", 'f'),
    ("header-numbering", 'h'), ("line-increment", 'i'), ("join-blank-lines", 'l'),
    ("number-format", 'n'), ("no-renumber", 'p'), ("number-separator", 's'),
    ("starting-line-number", 'v'), ("number-width", 'w')]
  reads := Tool.readsInput
  run o input s :=
    match Numbering.read o with
    | .error fault =>
      let isNumber := match fault with
        | .number .. | .tooSmall .. => true
        | _ => false
      if isNumber then Utility.bad 1 (err ("nl: " ++ fault.message ++ "\n")) s
      else Tool.misused "nl" fault.message 1 s
    | .ok g =>
      let paths := if o.operands.isEmpty then ["-"] else o.operands
      let results := paths.map fun path => Utility.contentOf (Utility.titled "nl") input path s
      let lines := (results.filterMap (·.toOption)).flatMap (Utility.bareLines 10)
      let (_, text) := lines.foldl g.next ({ next := g.start, style := g.body }, [])
      let faults := results.flatMap fun r =>
        match r with
        | .ok _ => []
        | .error p => p
      Utility.bad (if faults.isEmpty then 0 else 1) ((1, text) :: faults) s

/-- The programs that count. -/
def countTools : List Tool := [wc, nl]

end Counting

end Scaffold.Script

import Scaffold.Occurrences
import Scaffold.Script.Sorting

/-!
# Joining — lines of two files with a field in common

Both files are in the order of the field that their lines are joined by. A line that has no partner
shows that the order matters: from there on, a line that stands in front of the one before it is
reported.
-/

set_option autoImplicit false

namespace Scaffold.Script

namespace Joining

/-- One of two files. -/
inductive Side
  | left | right
  deriving DecidableEq

/-- A field of an output line. -/
inductive Wanted
  | joined
  | field (side : Side) (n : Nat)

/-- How lines are joined. -/
structure Joint where
  leftField : Nat
  rightField : Nat
  separator : Option UInt8
  ignoresCase : Bool
  /-- The fields of output lines; those of both lines if nothing is said. -/
  format : Option (List Wanted)
  /-- How many fields lines have, where all have as many as the first one. -/
  counts : Option (Nat × Nat)
  filler : Bytes
  /-- Lines without a partner are printed, of each file. -/
  isLeftShown : Bool
  isRightShown : Bool
  arePairsShown : Bool
  /-- A line out of order is reported always, or never, or only if a line has no partner. -/
  order : Option Bool
  last : UInt8

/-! ## Fields -/

/-- The fields of a line that are set apart by blanks. Blanks at the end set an empty field apart. -/
def blankFields : Nat → Bytes → List Bytes
  | 0, _ => []
  | fuel + 1, line =>
    let field := line.takeWhile (!Sorting.isBlank ·)
    let rest := line.drop field.length
    if rest.isEmpty then [field] else field :: blankFields fuel (rest.dropWhile Sorting.isBlank)

/-- The fields of a line. -/
def Joint.fields (j : Joint) (line : Bytes) : List Bytes :=
  match j.separator with
  | some c => if line.isEmpty then [] else Occurrences.split [c] line
  | none =>
    let rest := line.dropWhile Sorting.isBlank
    if rest.isEmpty then [] else blankFields (rest.length + 1) rest

/-- The field of a line that it is joined by. -/
def Joint.key (j : Joint) (side : Side) (line : Bytes) : Bytes :=
  let n := if side = .left then j.leftField else j.rightField
  ((j.fields line)[n]?).getD []

/-- Compares two keys. -/
def Joint.compare (j : Joint) (a b : Bytes) : Ordering :=
  if j.ignoresCase then Sorting.compareBytes (Sorting.counting ['f'] a) (Sorting.counting ['f'] b)
  else Sorting.compareBytes a b

/-- A line of output: that of two partners, or of one line alone. -/
def Joint.text (j : Joint) (a b : Option Bytes) : Bytes :=
  let filled (field : Option Bytes) : Bytes :=
    let found := field.getD []
    if found.isEmpty then j.filler else found
  let fieldsOf (line : Option Bytes) : List Bytes := (line.map j.fields).getD []
  let key := match a, b with
    | some line, _ => ((j.fields line)[j.leftField]?)
    | none, some line => ((j.fields line)[j.rightField]?)
    | none, none => none
  let others (line : Option Bytes) (n : Nat) (count : Option Nat) : List Bytes :=
    let found := fieldsOf line
    ((List.range (count.getD found.length)).filter (· ≠ n)).map fun i => filled found[i]?
  let parts := match j.format with
    | some wanted => wanted.map fun w =>
      match w with
      | .joined => filled key
      | .field .left n => filled (fieldsOf a)[n]?
      | .field .right n => filled (fieldsOf b)[n]?
    | none =>
      filled key :: others a j.leftField (j.counts.map Prod.fst)
        ++ others b j.rightField (j.counts.map Prod.snd)
  [j.separator.getD 32].intercalate parts ++ [j.last]

/-! ## Joining -/

/-- What is left of both files, the numbers of the lines in front, and what was said. -/
structure State where
  left : List Bytes
  right : List Bytes
  leftNumber : Nat := 1
  rightNumber : Nat := 1
  /-- A line had no partner. -/
  isLone : Bool := false
  isLeftWrong : Bool := false
  isRightWrong : Bool := false
  printed : Printed := []

/-- Prints a line. -/
def State.print (st : State) (b : Bytes) : State := { st with printed := st.printed ++ [(1, b)] }

/-- Goes on to the next line of a file; one that is out of order is reported once. -/
def State.advance (j : Joint) (names : String × String) (side : Side) (st : State) : State :=
  let (lines, number, isWrong, name) := if side = .left then
      (st.left, st.leftNumber, st.isLeftWrong, names.1)
    else (st.right, st.rightNumber, st.isRightWrong, names.2)
  let isChecked := j.order = some true || (j.order.isNone && st.isLone)
  let (wrong, said) : Bool × Printed := match lines with
    | a :: b :: _ =>
      if isChecked && !isWrong && j.compare (j.key side a) (j.key side b) == .gt then
        (true, [(2, Raw.bytes ("join: " ++ name ++ ":" ++ toString (number + 1)
          ++ ": is not sorted: ") ++ b ++ [10])])
      else (isWrong, [])
    | _ => (isWrong, [])
  let st := { st with printed := st.printed ++ said }
  if side = .left then
    { st with left := lines.drop 1, leftNumber := number + 1, isLeftWrong := wrong }
  else { st with right := lines.drop 1, rightNumber := number + 1, isRightWrong := wrong }

/-- Goes on to the first line with another key; also the lines that were passed. -/
def State.pass (j : Joint) (names : String × String) (side : Side) (key : Bytes) :
    Nat → State → List Bytes × State
  | 0, st => ([], st)
  | fuel + 1, st =>
    match (if side = .left then st.left else st.right).head? with
    | some line =>
      if j.compare (j.key side line) key == .eq then
        let (found, st) := State.pass j names side key fuel (st.advance j names side)
        (line :: found, st)
      else ([], st)
    | none => ([], st)

/-- Goes through what is left of one file. -/
def State.rest (j : Joint) (names : String × String) (side : Side) : Nat → State → State
  | 0, st => st
  | fuel + 1, st =>
    let isShown := if side = .left then j.isLeftShown else j.isRightShown
    match (if side = .left then st.left else st.right).head? with
    | some line =>
      let line := if side = .left then j.text (some line) none else j.text none (some line)
      let st := if isShown then st.print line else st
      State.rest j names side fuel (st.advance j names side)
    | none => st

/-- Joins lines. -/
def State.join (j : Joint) (names : String × String) : Nat → State → State
  | 0, st => st
  | fuel + 1, st =>
    match st.left, st.right with
    | a :: _, b :: _ =>
      let key := j.key .left a
      match j.compare key (j.key .right b) with
      | .lt =>
        let st := if j.isLeftShown then st.print (j.text (some a) none) else st
        State.join j names fuel { st.advance j names .left with isLone := true }
      | .gt =>
        let st := if j.isRightShown then st.print (j.text none (some b)) else st
        State.join j names fuel { st.advance j names .right with isLone := true }
      | .eq =>
        let (as, st) := st.pass j names .left key (st.left.length + 1)
        let (bs, st) := st.pass j names .right key (st.right.length + 1)
        let lines := as.flatMap fun a => bs.flatMap fun b => j.text (some a) (some b)
        State.join j names fuel (if j.arePairsShown then st.print lines else st)
    | as, bs =>
      let st := { st with isLone := st.isLone || !as.isEmpty || !bs.isEmpty }
      let st := st.rest j names .left (as.length + 1)
      st.rest j names .right (bs.length + 1)

/-! ## Options -/

/-- The number of a field, counted from zero. -/
def fieldNumber (text : String) : Except String Nat :=
  match text.toNat? with
  | some n => if n = 0 then .error ("invalid field number: " ++ Quoting.path text) else .ok (n - 1)
  | none => .error ("invalid field number: " ++ Quoting.path text)

/-- A field of output lines. -/
def wantedOf (text : String) : Except String Wanted :=
  match text.toList with
  | ['0'] => .ok .joined
  | '0' :: _ => .error ("invalid field specifier: " ++ Quoting.path text)
  | '1' :: '.' :: rest => (fieldNumber (String.ofList rest)).map (.field .left)
  | '2' :: '.' :: rest => (fieldNumber (String.ofList rest)).map (.field .right)
  | '1' :: _ | '2' :: _ => .error ("invalid field specifier: " ++ Quoting.path text)
  | _ => .error ("invalid file number in field spec: " ++ Quoting.path text)

/-- The fields that a text asks for. -/
def formatOf (texts : List String) : Except String (List Wanted) :=
  (texts.flatMap fun text =>
    (text.splitToList fun c => c == ',' || c == ' ' || c == '\t')).mapM wantedOf

/-- Reads the options; both numbers of fields depend on the first lines of files. -/
def jointOf (o : Settings) : Except String Joint := do
  let field (letter : Char) : Except String (Option Nat) :=
    (o.value? letter).mapM fieldNumber
  let both ← field 'j'
  let left ← field '1'
  let right ← field '2'
  let separator ← match o.value? 't' with
    | none => pure none
    | some "\\0" => pure (some 0)
    | some text =>
      match Raw.bytes text with
      | [] => pure (some 10)
      | [c] => pure (some c)
      | _ => throw ("multi-character tab " ++ Quoting.path text)
  let sides ← (o.values 'a' ++ o.values 'v').mapM fun text =>
    if text == "1" || text == "2" then pure text
    else throw ("invalid field number: " ++ Quoting.path text)
  let formats := o.values 'o'
  let format ← if formats.isEmpty || formats == ["auto"] then pure none
    else (formatOf formats).map some
  return {
    leftField := (left <|> both).getD 0
    rightField := (right <|> both).getD 0
    separator
    ignoresCase := o.has 'i'
    format
    counts := none
    filler := Raw.bytes ((o.value? 'e').getD "")
    isLeftShown := sides.contains "1"
    isRightShown := sides.contains "2"
    arePairsShown := !o.has 'v'
    order := if o.has 'χ' then some true else if o.has 'ξ' then some false else none
    last := if o.has 'z' then 0 else 10 }

/-- Joins two files. -/
def join : Tool where
  name := "join"
  flags := "izχξη"
  valued := "12aejotv"
  names := [("ignore-case", 'i'), ("check-order", 'χ'), ("nocheck-order", 'ξ'), ("header", 'η'),
    ("zero-terminated", 'z')]
  reads o := o.operands.contains "-"
  run o input s :=
    match jointOf o, o.operands with
    | .error text, _ => Utility.bad 1 (err ("join: " ++ text ++ "\n")) s
    | _, [] => Tool.misused "join" "missing operand" 1 s
    | _, [a] => Tool.misused "join" ("missing operand after " ++ Quoting.path a) 1 s
    | _, _ :: _ :: c :: _ => Tool.misused "join" ("extra operand " ++ Quoting.path c) 1 s
    | .ok j, [a, b] =>
      let content (path : String) : Except Printed Bytes :=
        Utility.contentOf (Utility.titled "join") input path s
      if a == "-" && b == "-" then
        Utility.bad 1 (err "join: both files cannot be standard input\n") s
      else
        match content a, content b with
        | .error p, _ | _, .error p => Utility.bad 1 p s
        | .ok left, .ok right =>
          let left := Utility.bareLines j.last left
          let right := Utility.bareLines j.last right
          let count (lines : List Bytes) : Nat := (j.fields (lines.headD [])).length
          let j := if o.values 'o' == ["auto"] then
              { j with counts := some (count left, count right) }
            else j
          let start : State := if o.has 'η' then
              { left := left.drop 1, right := right.drop 1, leftNumber := 2, rightNumber := 2
                printed := if left.isEmpty && right.isEmpty then []
                  else [(1, j.text left.head? right.head?)] }
            else { left, right }
          let done := start.join j (a, b) (left.length + right.length + 1)
          let isWrong := done.isLeftWrong || done.isRightWrong
          if !isWrong then Utility.good done.printed s
          else if j.order = some true then
            let before := done.printed.takeWhile (·.1 = 1)
            Utility.bad 1 (before ++ (done.printed.drop before.length).take 1) s
          else Utility.bad 1 (done.printed ++ err "join: input is not in sorted order\n") s

end Joining

end Scaffold.Script

import Scaffold.Encoding.Digits
import Scaffold.Script.FileUtility
import Scaffold.Script.Occurrence
import Scaffold.Text.Blank

/-!
# LineUtility — programs that print lines in other ways

Lines and characters are those of bytes.
-/

set_option autoImplicit false

namespace Scaffold.Script

namespace Utility

/-! ## Printing all of it -/

/-- A byte in signs that can be seen; tabs are kept where that is said. -/
def visibleByte (keepsTabs : Bool) (b : UInt8) : Bytes :=
  let small (b : UInt8) : Bytes :=
    if b < 32 then [94, b + 64] else if b = 127 then [94, 63] else [b]
  if b = 10 || (keepsTabs && b = 9) then [b]
  else if b < 128 then small b
  else [77, 45] ++ small (b - 128)

/-- A line as options show it, without its number. -/
def shownLine (o : Settings) (line : Bytes) : Bytes :=
  let isAll := o.has 'A'
  let isVisible := isAll || o.has 'v' || o.has 'e' || o.has 't'
  let hasTabs := isAll || o.has 'T' || o.has 't'
  let hasEnds := isAll || o.has 'E' || o.has 'e'
  let bare := bareLine line
  let body := bare.flatMap fun b =>
    if b = 9 then if hasTabs then [94, 73] else [9]
    else if isVisible then visibleByte true b else [b]
  body ++ (if bare.length = line.length then [] else if hasEnds then [36, 10] else [10])

/-- Lines with their numbers, from a number on. -/
def numberedFrom (o : Settings) : Nat → List Bytes → Bytes
  | _, [] => []
  | n, line :: more =>
    if o.has 'b' && line = [10] then shownLine o line ++ numberedFrom o n more
    else padded 6 false (Raw.bytes (toString n)) ++ [9] ++ shownLine o line ++ numberedFrom o (n + 1) more

/-- Keeps one of empty lines in a row. -/
def squeezedLines : List Bytes → List Bytes
  | a :: b :: rest =>
    if a = [10] && b = [10] then squeezedLines (b :: rest) else a :: squeezedLines (b :: rest)
  | ls => ls

/-- Prints contents behind each other. -/
def cat : Tool where
  name := "cat"
  flags := "AbeEnstTuv"
  names := [("show-all", 'A'), ("number-nonblank", 'b'), ("show-ends", 'E'), ("number", 'n'),
    ("squeeze-blank", 's'), ("show-tabs", 'T'), ("show-nonprinting", 'v')]
  reads := Tool.readsInput
  run o input s :=
    let (printed, s) := onContent (titled "cat") id o.operands input s
    if o.given.isEmpty then (printed, s)
    else
      let ls := lines (printed.on 1)
      let ls := if o.has 's' then squeezedLines ls else ls
      let b := if o.has 'n' || o.has 'b' then numberedFrom o 1 ls else ls.flatMap (shownLine o)
      ((1, b) :: printed.filter (·.1 != 1), s)

/-! ## Other orders -/

/-- The records of a content from the last one on; the places of what sets them apart are given from
the end on, and it belongs to the record in front of it or to the one behind it. -/
def reversedRecords (isInFront : Bool) (b : Bytes) : List (Nat × Nat) → Bytes
  | [] => b
  | (start, stop) :: more =>
    let place := if isInFront then start else stop
    b.drop place ++ reversedRecords isInFront (b.take place) more

/-- Where a text stands in another one, from the end on and without an overlap. -/
def placesFromEnd (sought : Bytes) : Nat → Bytes → List (Nat × Nat)
  | 0, _ => []
  | fuel + 1, b =>
    let size := sought.length
    match (List.range (b.length + 1 - size)).reverse.find? fun n =>
        (b.drop n).take size == sought with
    | some n => (n, n + size) :: placesFromEnd sought fuel (b.take n)
    | none => []

/-- Where a pattern matches, from the end on and without an overlap. -/
def matchesFromEnd (e : Expression) : Nat → Bytes → List (Nat × Nat)
  | 0, _ => []
  | fuel + 1, b =>
    let text := (Raw.text b).toList.toArray
    let found := (List.range b.length).reverse.findSome? fun n =>
      ((e.findAt? text n).bind (·.group? 0)).filter fun (start, stop) => start < stop
    match found with
    | some (start, stop) => (start, stop) :: matchesFromEnd e fuel (b.take start)
    | none => []

/-- The lines of a content from the last one on. -/
def reversedLines (isInFront : Bool) (sought : Bytes) (b : Bytes) : Bytes :=
  if sought == [10] && !isInFront then (lines b).reverse.flatten
  else reversedRecords isInFront b (placesFromEnd sought (b.length + 1) b)

/-- Prints lines from the last one on. -/
def tac : Tool where
  name := "tac"
  flags := "br"
  valued := "s"
  names := [("before", 'b'), ("regex", 'r'), ("separator", 's')]
  reads := Tool.readsInput
  run o input s :=
    let isInFront := o.has 'b'
    let title (path : String) : String :=
      if s.tree.kind? path = some .directory then "tac: " ++ Quoting.pathIfNeeded path ++ ": read error"
      else "tac: failed to open " ++ Quoting.path path ++ " for reading"
    let text := (o.value? 's').getD "\n"
    let sought := if text.isEmpty then [0] else Raw.bytes text
    match o.has 'r', Expression.ofText {} text with
    | true, .error fault => bad 1 (err ("tac: " ++ fault.message ++ "\n")) s
    | true, .ok e =>
      onContent title (fun b => reversedRecords isInFront b (matchesFromEnd e (b.length + 1) b))
        o.operands input s
    | false, _ => onContent title (reversedLines isInFront sought) o.operands input s

/-- Prints the characters of every line from the last one on. -/
def rev : Tool where
  name := "rev"
  reads := Tool.readsInput
  run o input s :=
    let one (line : Bytes) : Bytes :=
      Raw.bytes (String.ofList (Raw.text (bareLine line)).toList.reverse)
        ++ line.drop (bareLine line).length
    onContent (fun path => "rev: cannot open " ++ path) (fun b => (lines b).flatMap one) o.operands
      input s

/-! ## Other contents -/

/-- Bytes in lines of a width. -/
def wrapped (width : Nat) : Nat → Bytes → Bytes
  | 0, _ | _, [] => []
  | fuel + 1, b => b.take width ++ [10] ++ wrapped width fuel (b.drop width)

/-- Writes bytes in four symbols for three, or reads them. -/
def base64 : Tool where
  name := "base64"
  flags := "di"
  valued := "w"
  names := [("decode", 'd'), ("ignore-garbage", 'i'), ("wrap", 'w')]
  reads := Tool.readsInput
  run o input s :=
    match contentOf (titled "base64") input (o.operands.headD "-") s with
    | .error p => bad 1 p s
    | .ok b =>
      if o.has 'd' then
        match Base64.decode (b.filter (· != 10)) with
        | .ok b => good [(1, b)] s
        | .error _ => bad 1 (err "base64: invalid input\n") s
      else
        let text := Raw.bytes (String.ofList (Base64.encode b))
        match (o.value? 'w').bind String.toNat? with
        | some 0 => good [(1, text)] s
        | width => good [(1, wrapped (width.getD 76) (text.length + 1) text)] s

/-- How often a text is printed that is printed until nobody reads it. -/
def manyTimes : Nat := 4096

/-- Prints a text over and over. -/
def yes : Tool where
  name := "yes"
  run o _ s :=
    let line := (if o.operands.isEmpty then "y" else " ".intercalate o.operands) ++ "\n"
    good [(1, (List.replicate manyTimes (Raw.bytes line)).flatten)] s

/-- The programs on lines. -/
def lineTools : List Tool :=
  [cat, tac, rev, base64, yes]

end Utility

end Scaffold.Script

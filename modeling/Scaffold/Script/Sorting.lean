import Scaffold.Occurrences
import Scaffold.Script.Numeral
import Scaffold.Script.Utility
import Scaffold.Text.Utf8

/-!
# Sorting — lines in order
-/

set_option autoImplicit false

/-!
## Version — names with numbers in their natural order

Runs of digits are compared as numbers and what stands between them by letters; a tilde stands in
front of everything, even the end. Endings such as `.tar.gz` count only between names that are
otherwise the same.
-/

namespace Scaffold.Script.Version

/-- The byte is a digit. -/
def isDigit (c : UInt8) : Bool := 48 ≤ c && c ≤ 57

/-- The byte is a letter. -/
def isLetter (c : UInt8) : Bool := (65 ≤ c && c ≤ 90) || (97 ≤ c && c ≤ 122)

/-- Where a byte stands among those that are no digits; the end and digits stand in front. -/
def rank : Option UInt8 → Int
  | none => -1
  | some c =>
    if isDigit c then 0
    else if isLetter c then c.toNat
    else if c = 126 then -2
    else c.toNat + 256

/-- Compares the parts in front of digits; also what follows them. -/
def compareWords : Nat → Bytes → Bytes → Ordering × Bytes × Bytes
  | 0, a, b => (.eq, a, b)
  | fuel + 1, a, b =>
    if a.head?.all isDigit && b.head?.all isDigit then (.eq, a, b)
    else
      match compare (rank a.head?) (rank b.head?) with
      | .eq => compareWords fuel (a.drop 1) (b.drop 1)
      | found => (found, a, b)

/-- Compares texts part by part. -/
def compareParts : Nat → Bytes → Bytes → Ordering
  | 0, _, _ => .eq
  | fuel + 1, a, b =>
    if a.isEmpty && b.isEmpty then .eq
    else
      match compareWords (a.length + b.length + 1) a b with
      | (.eq, a, b) =>
        let digits (b : Bytes) : Bytes := b.takeWhile isDigit
        let number (b : Bytes) : Nat := (digits b).foldl (fun n c => n * 10 + (c.toNat - 48)) 0
        (compare (number a) (number b)).then
          (compareParts fuel (a.drop (digits a).length) (b.drop (digits b).length))
      | (found, _, _) => found

/-- The name is an ending: each part of it begins with a point and a letter. -/
def isEnding : Nat → Bytes → Bool
  | 0, _ => false
  | _, [] => true
  | fuel + 1, 46 :: c :: rest =>
    (isLetter c || c = 126)
      && isEnding fuel (rest.dropWhile fun c => isLetter c || isDigit c || c = 126)
  | _, _ => false

/-- The name without its longest ending. -/
def withoutEnding (b : Bytes) : Bytes :=
  match (List.range b.length).find? fun n => isEnding (b.length + 1) (b.drop n) with
  | some n => b.take n
  | none => b

/-- The order of names that begin with a point: alone, twice, and with more behind it. -/
def dotRank (b : Bytes) : Nat :=
  match b with
  | [] => 0
  | [46] => 1
  | [46, 46] => 2
  | 46 :: _ => 3
  | _ => 4

/-- Compares two names. -/
def order (a b : Bytes) : Ordering :=
  let parts (a b : Bytes) : Ordering := compareParts (a.length + b.length + 1) a b
  match compare (dotRank a) (dotRank b) with
  | .eq => if dotRank a < 3 then .eq
    else (parts (withoutEnding a) (withoutEnding b)).then (parts a b)
  | found => found

end Scaffold.Script.Version

/-!
## Sorting — programs on the order of lines

Lines are compared by keys, parts of them that are compared in ways of their own, and by all of
their bytes where no key tells them apart.
-/

namespace Scaffold.Script

namespace Sorting

/-! ## Keys -/

/-- A place in a line: behind so many fields and so many bytes. -/
structure KeyPlace where
  fields : Nat
  bytes : Nat
  /-- Blanks in front of the byte do not count. -/
  skipsBlanks : Bool := false

/-- A part of a line and how it is compared: the letters are those of options. -/
structure Key where
  first : KeyPlace
  last : Option KeyPlace := none
  letters : List Char := []

/-- The byte separates fields where no other one is said to. -/
def isBlank (c : UInt8) : Bool := c = 32 || c = 9 || c = 10

/-- What is left of a line behind a number of fields. -/
def behindFields (separator : Option UInt8) : Nat → Bytes → Bytes
  | 0, line => line
  | n + 1, line =>
    match separator with
    | some c => behindFields separator n ((line.dropWhile (· != c)).drop 1)
    | none => behindFields separator n ((line.dropWhile isBlank).dropWhile (!isBlank ·))

/-- The place in a line where a part ends; `bytes` is zero for the end of the field. -/
def placeOfEnd (separator : Option UInt8) (p : KeyPlace) (line : Bytes) : Nat :=
  let skipped (rest : Bytes) : Bytes := if p.skipsBlanks then rest.dropWhile isBlank else rest
  if p.bytes = 0 then
    let rest := behindFields separator p.fields line
    match separator with
    | some c => line.length - (rest.dropWhile (· != c)).length
    | none => line.length - (behindFields separator 1 rest).length
  else
    let rest := skipped (behindFields separator p.fields line)
    line.length - (rest.drop p.bytes).length

/-- The part of a line that is a key. -/
def Key.part (k : Key) (separator : Option UInt8) (line : Bytes) : Bytes :=
  let rest := behindFields separator k.first.fields line
  let rest := if k.first.skipsBlanks then rest.dropWhile isBlank else rest
  let start := line.length - (rest.drop k.first.bytes).length
  match k.last with
  | none => line.drop start
  | some p => (line.take (placeOfEnd separator p line)).drop start

/-! ## Comparing -/

/-- Compares bytes in order. -/
def compareBytes : Bytes → Bytes → Ordering
  | [], [] => .eq
  | [], _ :: _ => .lt
  | _ :: _, [] => .gt
  | x :: xs, y :: ys => if x < y then .lt else if y < x then .gt else compareBytes xs ys

/-- The number at the start of bytes: its digits, how many of them stand behind the point, and what
follows it. -/
def leadingNumber (b : Bytes) : Int × Nat × Bytes :=
  let b := b.dropWhile isBlank
  let (isNegative, b) := match b with
    | 45 :: rest => (true, rest)
    | rest => (false, rest)
  let whole := b.takeWhile Version.isDigit
  let (fraction, rest) := match b.drop whole.length with
    | 46 :: rest => (rest.takeWhile Version.isDigit, rest.dropWhile Version.isDigit)
    | rest => ([], rest)
  let n : Nat := (whole ++ fraction).foldl (fun n c => n * 10 + (c.toNat - 48)) 0
  (if isNegative then -(n : Int) else n, fraction.length, rest)

/-- Compares the numbers at the start of bytes. -/
def compareNumbers (a b : Bytes) : Ordering :=
  let (m, i, _) := leadingNumber a
  let (n, j, _) := leadingNumber b
  compare (m * (Nat.pow 10 j : Nat)) (n * (Nat.pow 10 i : Nat))

/-- The size of the unit behind a number, with the sign of the number. -/
def unitSize (b : Bytes) : Int :=
  let (n, _, rest) := leadingNumber b
  let units : List Char := ['K', 'M', 'G', 'T', 'P', 'E', 'Z', 'Y', 'R', 'Q']
  let size : Int := match rest.head?.map fun c => Char.ofNat c.toNat with
    | some 'k' => 1
    | some c => if units.contains c then units.idxOf c + 1 else 0
    | none => 0
  if n = 0 then 0 else if n < 0 then -size else size

/-- What a key of numbers of any kind is compared by: what is no number stands in front of all. -/
def generalRank (b : Bytes) : Nat × Float :=
  match Floating.at? (Raw.text b) with
  | none => (0, 0)
  | some (x, _) => if x.isNaN then (1, 0) else (2, x)

/-- The number of the month that bytes begin with; zero if they begin with none. -/
def monthOf (b : Bytes) : Nat :=
  let name := (Raw.text ((b.dropWhile isBlank).take 3)).toUpper
  let names := ["JAN", "FEB", "MAR", "APR", "MAY", "JUN", "JUL", "AUG", "SEP", "OCT", "NOV", "DEC"]
  if names.contains name then names.idxOf name + 1 else 0

/-- The bytes of a key that count, as letters of options say. -/
def counting (letters : List Char) (b : Bytes) : Bytes :=
  let isKept (c : UInt8) : Bool :=
    (!letters.contains 'd' || Version.isLetter c || Version.isDigit c || c = 32 || c = 9)
      && (!letters.contains 'i' || (32 ≤ c && c ≤ 126))
  let kept := b.filter isKept
  if letters.contains 'f' then kept.map fun c => if 97 ≤ c && c ≤ 122 then c - 32 else c else kept

/-- Compares two keys as letters of options say. -/
def compareParts (letters : List Char) (a b : Bytes) : Ordering :=
  let found :=
    if letters.contains 'n' then compareNumbers a b
    else if letters.contains 'h' then
      (compare (unitSize a) (unitSize b)).then (compareNumbers a b)
    else if letters.contains 'g' then
      let (m, x) := generalRank a
      let (n, y) := generalRank b
      (compare m n).then (if x < y then .lt else if y < x then .gt else .eq)
    else if letters.contains 'M' then compare (monthOf a) (monthOf b)
    else if letters.contains 'V' then Version.order (counting letters a) (counting letters b)
    else compareBytes (counting letters a) (counting letters b)
  if letters.contains 'r' then found.swap else found

/-- Compares two lines by the first key that tells them apart. -/
def compareKeys (separator : Option UInt8) (keys : List Key) (a b : Bytes) : Ordering :=
  keys.foldl (fun found k =>
    found.then (compareParts k.letters (k.part separator a) (k.part separator b))) .eq

/-! ## Options -/

/-- What is wrong with the options. -/
inductive Fault
  | noCount (what text : String)
  | badKey (what text : String)
  | emptySeparator
  | longSeparator (text : String)
  | incompatible (letters : String)
  | extraOperand (path letter : String)

/-- The wording of a fault. -/
def Fault.message : Fault → String
  | .noCount what text => what ++ ": invalid count at start of " ++ Quoting.path text
  | .badKey what text => what ++ ": invalid field specification " ++ Quoting.path text
  | .emptySeparator => "empty tab"
  | .longSeparator text => "multi-character tab " ++ Quoting.path text
  | .incompatible letters => "options '-" ++ letters ++ "' are incompatible"
  | .extraOperand path letter =>
    "extra operand " ++ Quoting.path path ++ " not allowed with -" ++ letter

/-- Letters of options that say how a key is compared. -/
def orderLetters : List Char := ['d', 'f', 'g', 'h', 'i', 'M', 'n', 'R', 'r', 'V']

/-- The letters of options that do not go together, if there are such ones. -/
def conflict? (letters : List Char) : Option String :=
  let kinds := (['n', 'g', 'h', 'M'].filter letters.contains).length
    + (if ['V', 'R', 'd', 'i'].any letters.contains then 1 else 0)
  if 1 < kinds then
    some (String.ofList ((orderLetters.filter (· != 'r')).filter fun c =>
      letters.contains c))
  else none

/-- Reads a count at the start of a text. -/
def count (what : String) (cs : List Char) : Except Fault (Nat × List Char) :=
  let digits := cs.takeWhile Char.isDigit
  match (String.ofList digits).toNat? with
  | some n => .ok (n, cs.drop digits.length)
  | none => .error (.noCount what (String.ofList cs))

/-- Reads a place and the letters behind it; `isFirst` says that it is the first of a key. -/
def keyPlace (whole : String) (isFirst : Bool) (cs : List Char) :
    Except Fault (KeyPlace × List Char × List Char) := do
  let what := if isFirst then "invalid number at field start" else "invalid number after ','"
  let (n, rest) ← count what cs
  if n = 0 then throw (.badKey "field number is zero" whole)
  let (bytes, rest) ← match rest with
    | '.' :: rest => do
      let (m, rest) ← count "invalid number after '.'" rest
      if isFirst && m = 0 then throw (.badKey "character offset is zero" whole)
      pure (m, rest)
    | rest => pure (if isFirst then 1 else 0, rest)
  let letters := rest.takeWhile fun c => c == 'b' || orderLetters.contains c
  let place : KeyPlace :=
    { fields := n - 1, bytes := if isFirst then bytes - 1 else bytes
      skipsBlanks := letters.contains 'b' }
  return (place, letters.filter (· != 'b'), rest.drop letters.length)

/-- The key that a text such as `2,3n` spells. -/
def keyOf (text : String) : Except Fault Key := do
  let (first, letters, rest) ← keyPlace text true text.toList
  match rest with
  | [] => return { first, letters }
  | ',' :: rest => do
    let (last, more, rest) ← keyPlace text false rest
    if !rest.isEmpty then throw (.badKey "stray character in field spec" text)
    return { first, last := some last, letters := letters ++ more }
  | _ => throw (.badKey "stray character in field spec" text)

/-- A key without letters of its own is compared as the options for all keys say. -/
def Key.completed (k : Key) (whole : List Char) : Key :=
  let isPlain := k.letters.isEmpty && !k.first.skipsBlanks && !k.last.any (·.skipsBlanks)
  if isPlain then
    let skips := whole.contains 'b'
    { first := { k.first with skipsBlanks := skips }
      last := k.last.map fun p => { p with skipsBlanks := skips }
      letters := whole.filter (· != 'b') }
  else k

/-- How lines are sorted. -/
structure Order where
  keys : List Key
  separator : Option UInt8
  /-- Lines that no key tells apart stay as they are. -/
  isStable : Bool
  isReversed : Bool

/-- Reads the options. -/
def Order.read (o : Settings) : Except Fault Order := do
  let whole := (o.given.map Prod.fst).filter fun c => c == 'b' || orderLetters.contains c
  let named := (o.values 'ω').filterMap fun name =>
    [("general-numeric", 'g'), ("human-numeric", 'h'), ("month", 'M'), ("numeric", 'n'),
      ("random", 'R'), ("version", 'V')].lookup name
  let whole := whole ++ named
  let keys ← (o.values 'k').mapM keyOf
  let separator ← match o.value? 't' with
    | none => pure none
    | some "\\0" => pure (some 0)
    | some text =>
      match Raw.bytes text with
      | [] => throw .emptySeparator
      | [c] => pure (some c)
      | _ => throw (.longSeparator text)
  let keys := if keys.isEmpty then
      [({ first := ⟨0, 0, whole.contains 'b'⟩, letters := whole.filter (· != 'b') } : Key)]
    else keys.map (·.completed whole)
  match keys.findSome? fun k => conflict? k.letters with
  | some letters => throw (.incompatible letters)
  | none => pure ()
  if o.has 'c' && o.has 'C' then throw (.incompatible "cC")
  else if (o.has 'c' || o.has 'C') && o.has 'o' then
    throw (.incompatible (if o.has 'c' then "co" else "Co"))
  match o.operands with
  | _ :: extra :: _ =>
    if o.has 'c' || o.has 'C' then
      throw (.extraOperand extra (if o.has 'c' then "c" else "C"))
  | _ => pure ()
  return { keys, separator, isStable := o.has 's' || o.has 'u', isReversed := whole.contains 'r' }

/-- Compares two lines. -/
def Order.compare (o : Order) (a b : Bytes) : Ordering :=
  (compareKeys o.separator o.keys a b).then <|
    if o.isStable then .eq
    else if o.isReversed then compareBytes b a
    else compareBytes a b

/-! ## Sorting -/

/-- Keeps the first of lines in a row that are the same. -/
def firstOfEach (isSame : Bytes → Bytes → Bool) : Option Bytes → List Bytes → List Bytes
  | _, [] => []
  | last, line :: more =>
    if last.any (isSame · line) then firstOfEach isSame last more
    else line :: firstOfEach isSame (some line) more

/-- The first line that may not stand behind the one in front of it, with its number. -/
def disorder? (isOrdered : Bytes → Bytes → Bool) : Nat → List Bytes → Option (Nat × Bytes)
  | n, a :: b :: rest =>
    if isOrdered a b then disorder? isOrdered (n + 1) (b :: rest) else some (n + 1, b)
  | _, _ => none

/-- The place of the least of the first lines; of equal ones, the first. -/
def leastFirst (isLess : Bytes → Bytes → Bool) (lists : List (List Bytes)) : Option Nat :=
  let firsts := ((List.range lists.length).zip lists).filterMap fun (n, ls) =>
    ls.head?.map fun line => (n, line)
  (firsts.foldl (fun (best : Option (Nat × Bytes)) (n, line) =>
    match best with
    | some (_, other) => if isLess line other then some (n, line) else best
    | none => some (n, line)) none).map Prod.fst

/-- Lines of several lists, always the least of those that come first. -/
def merged (isLess : Bytes → Bytes → Bool) : Nat → List (List Bytes) → List Bytes
  | 0, _ => []
  | fuel + 1, lists =>
    match leastFirst isLess lists with
    | none => []
    | some n =>
      let line := ((lists[n]?).bind List.head?).getD []
      line :: merged isLess fuel (lists.modify n List.tail)

/-- Sorts lines, or checks that they are sorted. -/
def sort : Tool where
  name := "sort"
  flags := "bcCdfghiMmnRrsuVzφ"
  valued := "kotSTωπ"
  names := [("ignore-leading-blanks", 'b'), ("dictionary-order", 'd'), ("ignore-case", 'f'),
    ("general-numeric-sort", 'g'), ("ignore-nonprinting", 'i'), ("month-sort", 'M'),
    ("human-numeric-sort", 'h'), ("numeric-sort", 'n'), ("random-sort", 'R'), ("reverse", 'r'),
    ("version-sort", 'V'), ("check", 'c'), ("key", 'k'), ("merge", 'm'), ("output", 'o'),
    ("stable", 's'), ("buffer-size", 'S'), ("field-separator", 't'), ("unique", 'u'),
    ("temporary-directory", 'T'), ("sort", 'ω'), ("parallel", 'π'), ("zero-terminated", 'z')]
  misuse := 2
  reads := Tool.readsInput
  run o input s :=
    let last : UInt8 := if o.has 'z' then 0 else 10
    match Order.read o with
    | .error fault => Utility.bad 2 (err ("sort: " ++ fault.message ++ "\n")) s
    | .ok order =>
      let paths := if o.operands.isEmpty then ["-"] else o.operands
      let title (path : String) : String :=
        if s.tree.kind? path = some .directory then
          "sort: read failed: " ++ Quoting.pathIfNeeded path
        else "sort: cannot read: " ++ Quoting.pathIfNeeded path
      match paths.mapM fun path => Utility.contentOf title input path s with
      | .error p => Utility.bad 2 p s
      | .ok contents =>
        let lists := contents.map (Utility.bareLines last)
        if o.has 'c' || o.has 'C' then
          let isOrdered (a b : Bytes) : Bool :=
            if o.has 'u' then order.compare a b == .lt else order.compare a b != .gt
          match disorder? isOrdered 1 lists.flatten with
          | none => Utility.good [] s
          | some (n, line) =>
            let said := Raw.bytes ("sort: " ++ paths.headD "-" ++ ":" ++ toString n
              ++ ": disorder: ") ++ line ++ [10]
            Utility.bad 1 (if o.has 'C' then [] else [(2, said)]) s
        else
          let sorted := if o.has 'm' then
              merged (fun a b => order.compare a b == .lt) (lists.flatten.length + 1) lists
            else lists.flatten.mergeSort fun a b => order.compare a b != .gt
          let sorted := if o.has 'u' then
              firstOfEach (fun a b => compareKeys order.separator order.keys a b == .eq) none sorted
            else sorted
          let b := sorted.flatMap (· ++ [last])
          match o.value? 'o' with
          | none => Utility.good [(1, b)] s
          | some path =>
            Utility.change s ("sort: open failed: " ++ Quoting.pathIfNeeded path)
              (s.tree.write path b)

/-! ## Repeated lines -/

/-- Equal lines in a row. -/
def runsOf (isSame : Bytes → Bytes → Bool) : List Bytes → List (List Bytes)
  | [] => []
  | line :: more =>
    match runsOf isSame more with
    | (next :: others) :: runs =>
      if isSame line next then (line :: next :: others) :: runs
      else [line] :: (next :: others) :: runs
    | runs => [line] :: runs

/-- Where empty lines set groups of lines apart. -/
inductive Spacing
  | none | before | between | behind | around
  deriving DecidableEq

/-- Groups of lines with empty lines around them. -/
def Spacing.apply (p : Spacing) (last : UInt8) (groups : List Bytes) : Bytes :=
  match p with
  | .none => groups.flatten
  | .before => groups.flatMap (last :: ·)
  | .between => [last].intercalate groups
  | .behind => groups.flatMap (· ++ [last])
  | .around => if groups.isEmpty then [] else last :: groups.flatMap (· ++ [last])

/-- The fields of a line that are skipped, with the blanks in front of them. -/
def withoutFields : Nat → Bytes → Bytes
  | 0, line => line
  | n + 1, line => withoutFields n ((line.dropWhile isBlank).dropWhile (!isBlank ·))

/-- The part of a line that is compared with others. -/
def comparedPart (o : Settings) (line : Bytes) : Bytes :=
  let number (letter : Char) : Option Nat := (o.value? letter).bind String.toNat?
  let rest := (withoutFields ((number 'f').getD 0) line).drop ((number 's').getD 0)
  let rest := (number 'w').elim rest rest.take
  if o.has 'i' then counting ['f'] rest else rest

/-- The kind of an option for groups. -/
def spacingOf? (groups : Bool) (name : String) : Option Spacing :=
  let known : List (String × Spacing) :=
    if groups then
      [("prepend", .before), ("append", .behind), ("separate", .between), ("both", .around)]
    else [("none", .none), ("prepend", .before), ("separate", .between)]
  match known.filter fun (n, _) => name.isPrefixOf n with
  | [(_, p)] => some p
  | _ => Option.none

/-- Prints one of equal lines in a row, or only such lines, or only others. -/
def uniqText (o : Settings) (b : Bytes) : Bytes :=
  let last : UInt8 := if o.has 'z' then 0 else 10
  let runs := runsOf (fun a b => comparedPart o a == comparedPart o b) (Utility.bareLines last b)
  let lines (run : List Bytes) : Bytes := run.flatMap (· ++ [last])
  match o.value? 'γ', o.value? 'D' with
  | some kind, _ =>
    let spacing := if kind.isEmpty then .between else (spacingOf? true kind).getD .between
    spacing.apply last (runs.map lines)
  | Option.none, some kind =>
    let spacing := if kind.isEmpty then .none else (spacingOf? false kind).getD .none
    spacing.apply last ((runs.filter (1 < ·.length)).map lines)
  | Option.none, Option.none =>
    runs.flatMap fun run =>
      if (o.has 'd' && run.length = 1) || (o.has 'u' && run.length != 1) then []
      else
        let number := if o.has 'c' then
            Utility.padded 7 false (Raw.bytes (toString run.length)) ++ [32]
          else []
        number ++ run.headD [] ++ [last]

/-- Prints one of equal lines in a row. -/
def uniq : Tool where
  name := "uniq"
  flags := "cdiuz"
  valued := "fsw"
  optional := "Dγ"
  names := [("count", 'c'), ("repeated", 'd'), ("skip-fields", 'f'), ("ignore-case", 'i'),
    ("skip-chars", 's'), ("unique", 'u'), ("zero-terminated", 'z'), ("check-chars", 'w'),
    ("all-repeated", 'D'), ("group", 'γ')]
  reads o := o.operands.isEmpty || o.operands.head? == some "-"
  run o input s :=
    let badNumber := [('f', "fields to skip"), ('s', "bytes to skip"), ('w', "bytes to compare")]
      |>.findSome? fun (c, what) =>
        (o.value? c).bind fun text => if text.toNat?.isNone then some (text, what) else Option.none
    match badNumber, o.operands with
    | some (text, what), _ =>
      Utility.bad 1 (err ("uniq: " ++ text ++ ": invalid number of " ++ what ++ "\n")) s
    | _, _ :: _ :: extra :: _ =>
      Tool.misused "uniq" ("extra operand " ++ Quoting.path extra) 1 s
    | _, operands =>
      if o.has 'γ' && ['c', 'd', 'D', 'u'].any o.has then
        Tool.misused "uniq" "--group is mutually exclusive with -c/-d/-D/-u" 1 s
      else if o.has 'c' && o.has 'D' then
        Tool.misused "uniq" "printing all duplicated lines and repeat counts is meaningless" 1 s
      else
        match Utility.contentOf (Utility.titled "uniq") input (operands.headD "-") s, operands with
        | .error p, _ => Utility.bad 1 p s
        | .ok b, [_, path] =>
          if path == "-" then Utility.good [(1, uniqText o b)] s
          else
            Utility.change s ("uniq: " ++ Quoting.pathIfNeeded path)
              (s.tree.write path (uniqText o b))
        | .ok b, _ => Utility.good [(1, uniqText o b)] s

/-- The programs on the order of lines. -/
def orderTools : List Tool := [sort, uniq]

end Sorting

end Scaffold.Script

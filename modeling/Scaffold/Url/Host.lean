import Scaffold.Text.Classes
import Scaffold.Text.Direction
import Scaffold.Url.Name.Letters
import Scaffold.Url.Punycode
import Scaffold.Occurrences
import Scaffold.Url.Basic

/-!
# Host — the host of an address
-/

set_option autoImplicit false

/-!
## Label — the parts of a name

A label that begins with `xn--` stands for letters beyond ASCII, which have to be in the form in
which names are compared. No label begins with a mark, and joiners stand only where they change how
the letters around them are written. In a name with letters that run from right to left every label
has to run one way, so that it cannot be read as another.
-/

namespace Scaffold.Url.Name

open Scaffold.Text

/-- What labels begin with that stand for letters beyond ASCII. -/
def encodedMark : List Char := ['x', 'n', '-', '-']

/-- The letters that a label stands for, if there are any. -/
def lettersOf? (label : List Char) : Option (List Char) :=
  match encodedMark.isPrefixOf? label with
  | none => some label
  | some digits =>
    (Punycode.decode? digits).bind fun letters =>
      if letters.all (·.toNat < 128) || spelled? letters != some letters then none
      else some letters

/-- A joiner between the letters in front of it, last first, and those behind it changes how they are
written. -/
def joins (before : List Char) (joiner : Char) (after : List Char) : Bool :=
  match before with
  | [] => false
  | last :: _ =>
    Composition.isJoiningMark last || (joiner == '\u200C' && Joining.isJoined before after)

/-- Every joiner changes how the letters around it are written; `before` are the letters in front of
the text, last first. -/
def joinersHold (before : List Char) : List Char → Bool
  | [] => true
  | c :: rest => (!isJoiner c || joins before c rest) && joinersHold (c :: before) rest

/-- A label is well written. -/
def isWritten (label : List Char) : Bool :=
  !label.head?.any isMark && joinersHold [] label

/-- A label runs one way: all its characters fit to the first one, and its last one, but for marks,
is a letter of that direction or a numeral. -/
def runsOneWay (label : List Char) : Bool :=
  let ways := label.map Direction.of
  let last := (ways.reverse.dropWhile (· == .mark)).head?
  match ways.head? with
  | none => true
  | some .left =>
    ways.all [.left, .numeral, .neutral, .mark].contains && last.any [.left, .numeral].contains
  | some .right =>
    ways.all [.right, .numeral, .rightNumeral, .neutral, .mark].contains
      && last.any [.right, .numeral, .rightNumeral].contains
      && !(ways.contains .numeral && ways.contains .rightNumeral)
  | some _ => false

/-- A letter that runs from right to left. -/
def isRightward (c : Char) : Bool :=
  128 ≤ c.toNat && [Direction.right, .rightNumeral].contains (Direction.of c)

/-- A label in ASCII. -/
def asciiLabel (label : List Char) : List Char :=
  if label.all (·.toNat < 128) then label else encodedMark ++ Punycode.encode label

/-- The labels of a name in ASCII, if it is a name. -/
def asciiLabels? (labels : List (List Char)) : Option (List (List Char)) :=
  (labels.mapM lettersOf?).bind fun labels =>
    let mayRun := !labels.any (·.any isRightward) || labels.all runsOneWay
    if labels.all isWritten && mayRun then some (labels.map asciiLabel) else none

end Scaffold.Url.Name

/-!
## Host — the machine that an address names

On the web a host is a name, four numbers, or eight numbers between brackets. Names are written in
small letters and ASCII; a name that ends in a number must be four numbers. Elsewhere a host is any
text without separators.
-/

namespace Scaffold.Url.Host

/-- The pieces of a text between a character. -/
def pieces (separator : Char) (text : List Char) : List (List Char) :=
  Occurrences.split [separator] text

/-- The value of a digit in some base. -/
def digit? (base : Nat) (c : Char) : Option Nat :=
  let n :=
    if c.isDigit then c.toNat - 48
    else if 'a' ≤ c && c ≤ 'f' then c.toNat - 87
    else if 'A' ≤ c && c ≤ 'F' then c.toNat - 55
    else 99
  if n < base then some n else none

/-- The number that digits spell; no digit spells zero. -/
def number? (base : Nat) (digits : List Char) : Option Nat :=
  digits.foldlM (fun n c => (digit? base c).map (n * base + ·)) 0

/-- The number of a part of a host: in base sixteen behind `0x`, in base eight behind `0`. -/
def part? : List Char → Option Nat
  | [] => none
  | '0' :: 'x' :: rest | '0' :: 'X' :: rest => number? 16 rest
  | '0' :: c :: rest => number? 8 (c :: rest)
  | digits => number? 10 digits

/-- The parts of a name, where a dot at the end does not count. -/
def labels (name : List Char) : List (List Char) :=
  let parts := pieces '.' name
  if 1 < parts.length && parts.getLast? == some [] then parts.dropLast else parts

/-- The last label is a number. -/
def endsInNumber (name : List Char) : Bool :=
  match (labels name).getLast? with
  | none | some [] => false
  | some last =>
    last.all Char.isDigit ||
      match last with
      | '0' :: 'x' :: rest | '0' :: 'X' :: rest => (number? 16 rest).isSome
      | _ => false

/-- The number that the parts of a host make up; the last part fills the places left. -/
def ofParts? (parts : List Nat) : Option Nat :=
  match parts.reverse with
  | [] => none
  | last :: front =>
    let front := front.reverse
    if 3 < front.length || front.any (255 < ·) || Nat.pow 256 (4 - front.length) ≤ last then none
    else
      let lead : Nat := front.foldl (fun n p => n * 256 + p) 0
      some (lead * Nat.pow 256 (4 - front.length) + last)

/-- Four numbers as a host. -/
def fourText (n : Nat) : List Char :=
  (".".intercalate ([24, 16, 8, 0].map fun k => toString (n / Nat.pow 2 k % 256))).toList

/-- The host of a name that ends in a number. -/
def four? (name : List Char) : Option (List Char) :=
  ((labels name).mapM part?).bind fun parts => (ofParts? parts).map fourText

/-- Up to four digits in base sixteen. -/
def group? (digits : List Char) : Option Nat :=
  if digits.isEmpty || 4 < digits.length then none else number? 16 digits

/-- Four numbers in base ten as two groups. -/
def fourGroups? (text : List Char) : Option (List Nat) :=
  let one (digits : List Char) : Option Nat :=
    if digits.isEmpty || 3 < digits.length || (1 < digits.length && digits.head? == some '0') then
      none
    else (number? 10 digits).bind fun n => if n < 256 then some n else none
  match (pieces '.' text).mapM one with
  | some [a, b, c, d] => some [a * 256 + b, c * 256 + d]
  | _ => none

/-- The groups between colons; the last one may be four numbers. -/
def groups? (text : List Char) (isLast : Bool) : Option (List Nat) :=
  if text.isEmpty then some []
  else
    let parts := pieces ':' text
    match parts.getLast? with
    | some last =>
      if isLast && last.contains '.' then
        ((parts.dropLast.mapM group?).bind fun front => (fourGroups? last).map (front ++ ·))
      else parts.mapM group?
    | none => none

/-- The eight groups of a host in brackets. -/
def eight? (text : List Char) : Option (List Nat) :=
  match Occurrences.cut [':', ':'] text with
  | none => (groups? text true).bind fun gs => if gs.length = 8 then some gs else none
  | some (front, back) => do
    let front ← groups? front false
    let back ← groups? back true
    if 7 < front.length + back.length then none
    else some (front ++ List.replicate (8 - front.length - back.length) 0 ++ back)

/-- The longest run of zeros, which is not written: its place and its length. -/
def longestZeros (groups : List Nat) : Nat × Nat :=
  let runs :=
    (List.range groups.length).map fun n => (n, ((groups.drop n).takeWhile (· == 0)).length)
  runs.foldl (fun best run => if best.2 < run.2 then run else best) (0, 0)

/-- Groups in base sixteen between colons. -/
def groupsText (groups : List Nat) : List Char :=
  (":".intercalate (groups.map fun n => String.ofList (Nat.toDigits 16 n))).toList

/-- Eight groups as a host. -/
def eightText (groups : List Nat) : List Char :=
  let (place, length) := longestZeros groups
  if length < 2 then '[' :: groupsText groups ++ [']']
  else
    '[' :: groupsText (groups.take place) ++ [':', ':'] ++ groupsText (groups.drop (place + length))
      ++ [']']

/-- Characters that no name on the web has. -/
def isForbidden (c : Char) : Bool :=
  c.toNat ≤ 32 || c.toNat = 127 ||
    ['#', '/', ':', '<', '>', '?', '@', '[', '\\', ']', '^', '|', '%'].contains c

/-- A name in ASCII. -/
def asciiName? (text : List Char) : Option (List Char) := do
  let letters ← Name.spelled? text
  let name := ['.'].intercalate (← Name.asciiLabels? (pieces '.' letters))
  if name.isEmpty || name.any isForbidden then none else some name

/-- The host of an address of the web. -/
def ofWeb? (text : List Char) : Option (List Char) :=
  match text with
  | '[' :: rest =>
    if rest.getLast? == some ']' then (eight? rest.dropLast).map eightText else none
  | text => do
    let name ← asciiName? (← Utf8.decode? (percentDecode (Utf8.encode text)))
    if endsInNumber name then four? name else some name

/-- The host of any other address. -/
def ofOther? (text : List Char) : Option (List Char) :=
  match text with
  | '[' :: rest =>
    if rest.getLast? == some ']' then (eight? rest.dropLast).map eightText else none
  | text =>
    if text.any fun c => c != '%' && isForbidden c && !(c.toNat < 32 && c.toNat != 0) then none
    else some (percentEncode .controls text)

end Scaffold.Url.Host

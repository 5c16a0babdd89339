import Scaffold.Script.Utility

/-!
# Dump — bytes as numbers and signs in rows

A row begins with its place. The bytes of it are written in each of the forms that are asked for,
one below the other, and stand in the same columns.
-/

set_option autoImplicit false

namespace Scaffold.Script

namespace Dump

/-- How a number is written. -/
inductive Base
  | signed | unsigned | octal | hex
  deriving DecidableEq

/-- How bytes are written. -/
inductive Form
  /-- Numbers of so many bytes. -/
  | number (base : Base) (size : Nat)
  /-- Signs, with escapes for those that cannot be printed. -/
  | signs
  /-- Names of signs. -/
  | names

/-- A form, and whether the signs that can be printed stand behind each row. -/
structure Column where
  form : Form
  isTrailed : Bool := false

/-- What is wrong with the options. -/
inductive Fault
  | badCharacter (c : Char) (text : String)
  | badSize (text : String) (size : Nat)
  | badRadix (text : String)
  | badNumber (letter : Char) (text : String)

/-- The wording of a fault. -/
def Fault.message : Fault → String
  | .badCharacter c text =>
    "invalid character '" ++ String.singleton c ++ "' in type string " ++ Quoting.path text
  | .badSize text size =>
    "invalid type string " ++ Quoting.path text ++ ";\nthis system doesn't provide a "
      ++ toString size ++ "-byte integral type"
  | .badRadix text =>
    "invalid output address radix " ++ Quoting.path text
      ++ "; it must be one character from [doxn]"
  | .badNumber letter text =>
    "invalid -" ++ String.singleton letter ++ " argument " ++ Quoting.path text

/-! ## Forms -/

/-- How many bytes a part of a form takes. -/
def Form.size : Form → Nat
  | .number _ size => size
  | _ => 1

/-- The width of a part of a form. -/
def Form.width : Form → Nat
  | .number .hex size => 2 * size
  | .number .octal size => (size * 8 + 2) / 3
  | .number .unsigned size => (toString (Nat.pow 256 size - 1)).length
  | .number .signed size => (toString (Nat.pow 256 size / 2)).length + 1
  | _ => 3

/-- Names of control characters. -/
def controlNames : List String :=
  ["nul", "soh", "stx", "etx", "eot", "enq", "ack", "bel", "bs", "ht", "nl", "vt", "ff", "cr",
    "so", "si", "dle", "dc1", "dc2", "dc3", "dc4", "nak", "syn", "etb", "can", "em", "sub", "esc",
    "fs", "gs", "rs", "us", "sp"]

/-- A number of bytes in a base. -/
def digits (base : Base) (size : Nat) (n : Nat) : String :=
  let filled (b : Nat) : String :=
    let found := Nat.toDigits b n
    String.ofList (List.replicate ((Form.number base size).width - found.length) '0' ++ found)
  match base with
  | .hex => filled 16
  | .octal => filled 8
  | .unsigned => toString n
  | .signed =>
    let bound := Nat.pow 256 size
    if n < bound / 2 then toString n else toString ((n : Int) - bound)

/-- A part of a form. -/
def Form.text (f : Form) (bytes : Bytes) : String :=
  let c := bytes.headD 0
  match f with
  | .number base size =>
    digits base size (bytes.foldr (fun b n => n * 256 + b.toNat) 0)
  | .signs =>
    if c = 0 then "\\0"
    else
      match Escapes.letters.find? fun (letter, b) => b == c && letter != '\\' with
      | some (letter, _) => String.ofList ['\\', letter]
      | none => if 32 ≤ c && c ≤ 126 then Raw.text [c] else digits .octal 1 c.toNat
  | .names =>
    let c := c % 128
    if c = 127 then "del" else (controlNames[c.toNat]?).getD (Raw.text [c])

/-! ## Rows -/

/-- The parts of a row in a form, with blanks in front of them that fill a width. -/
def Form.parts (f : Form) (width perRow : Nat) (bytes : Bytes) : String :=
  let count := perRow / f.size
  let gap := width - f.width * count
  let few := (bytes.length + f.size - 1) / f.size
  let padded := bytes ++ List.replicate (few * f.size - bytes.length) 0
  let one (n : Nat) : String :=
    let blanks := gap * (count - n) / count - gap * (count - n - 1) / count
    let text := f.text ((padded.drop (n * f.size)).take f.size)
    String.ofList (List.replicate (blanks + f.width - text.length) ' ') ++ text
  String.join ((List.range few).map one)

/-- How rows are written. -/
structure Layout where
  columns : List Column
  perRow : Nat
  /-- The base of places; none are written without one. -/
  radix : Option Nat
  /-- Rows that are like the one in front of them are left out. -/
  abbreviates : Bool

/-- A place as it stands in front of a row. -/
def Layout.place (l : Layout) (n : Nat) : String :=
  match l.radix with
  | none => ""
  | some base =>
    let found := Nat.toDigits base n
    let width := if base = 16 then 6 else 7
    String.ofList (List.replicate (width - found.length) '0' ++ found)

/-- A row in all forms. -/
def Layout.row (l : Layout) (n : Nat) (bytes : Bytes) : Bytes :=
  let width := (l.columns.map fun c => (c.form.width + 1) * (l.perRow / c.form.size)).foldl max 0
  let lead := l.place n
  let one (isFirst : Bool) (c : Column) : String :=
    let body := c.form.parts width l.perRow bytes
    let isShort := bytes.length < l.perRow
    let trail :=
      if !c.isTrailed then ""
      else
        let gap := if isShort then width - body.length else 0
        let shown := bytes.map fun b => if 32 ≤ b && b ≤ 126 then b else 46
        String.ofList (List.replicate gap ' ') ++ "  >" ++ Raw.text shown ++ "<"
    (if isFirst then lead else String.ofList (List.replicate lead.length ' ')) ++ body ++ trail
      ++ "\n"
  let indexed := (List.range l.columns.length).zip l.columns
  Raw.bytes (String.join (indexed.map fun (i, c) => one (i = 0) c))

/-- The rows from a place on; `last` is the row in front, and whether one was left out there. -/
def Layout.rows (l : Layout) : Nat → Nat → Option (Bytes × Bool) → Bytes → Bytes
  | 0, _, _, _ => []
  | fuel + 1, n, last, b =>
    if b.isEmpty then
      match l.radix with
      | none => []
      | some _ => Raw.bytes (l.place n ++ "\n")
    else
      let row := b.take l.perRow
      let rest := b.drop l.perRow
      let isSame := l.abbreviates && row.length = l.perRow && last.any (·.1 == row)
      if isSame then
        let mark : Bytes := if last.any (·.2) then [] else [42, 10]
        mark ++ l.rows fuel (n + row.length) (some (row, true)) rest
      else l.row n row ++ l.rows fuel (n + row.length) (some (row, false)) rest

/-! ## Options -/

/-- The size of a number behind its letter. -/
def sizeOf (text : String) (cs : List Char) : Except Fault (Nat × List Char) :=
  let found := cs.takeWhile Char.isDigit
  match cs with
  | 'C' :: rest => .ok (1, rest)
  | 'S' :: rest => .ok (2, rest)
  | 'I' :: rest => .ok (4, rest)
  | 'L' :: rest => .ok (8, rest)
  | _ =>
    match (String.ofList found).toNat? with
    | none => .ok (4, cs)
    | some n =>
      if [1, 2, 4, 8].contains n then .ok (n, cs.drop found.length) else .error (.badSize text n)

/-- The forms that a text spells. -/
def columnsWithin (text : String) : Nat → List Char → Except Fault (List Column)
  | 0, _ | _, [] => .ok []
  | fuel + 1, c :: rest => do
    let (form, rest) ← match c with
      | 'a' => pure (Form.names, rest)
      | 'c' => pure (.signs, rest)
      | 'd' => (sizeOf text rest).map fun (n, rest) => (.number .signed n, rest)
      | 'u' => (sizeOf text rest).map fun (n, rest) => (.number .unsigned n, rest)
      | 'o' => (sizeOf text rest).map fun (n, rest) => (.number .octal n, rest)
      | 'x' => (sizeOf text rest).map fun (n, rest) => (.number .hex n, rest)
      | c => throw (.badCharacter c text)
    let isTrailed := rest.head? == some 'z'
    let rest := if isTrailed then rest.drop 1 else rest
    return ⟨form, isTrailed⟩ :: (← columnsWithin text fuel rest)

/-- The forms that a text spells. -/
def columnsOf (text : String) : Except Fault (List Column) :=
  columnsWithin text (text.length + 1) text.toList

/-- The form that a letter of an option stands for. -/
def columnsOfLetter : Char × String → Except Fault (List Column)
  | ('t', text) => columnsOf text
  | ('a', _) => .ok [⟨.names, false⟩]
  | ('b', _) => .ok [⟨.number .octal 1, false⟩]
  | ('c', _) => .ok [⟨.signs, false⟩]
  | ('d', _) => .ok [⟨.number .unsigned 2, false⟩]
  | ('i', _) => .ok [⟨.number .signed 4, false⟩]
  | ('l', _) => .ok [⟨.number .signed 8, false⟩]
  | ('o', _) => .ok [⟨.number .octal 2, false⟩]
  | ('s', _) => .ok [⟨.number .signed 2, false⟩]
  | ('x', _) => .ok [⟨.number .hex 2, false⟩]
  | _ => .ok []

/-- A count, in a base that its start tells. -/
def count (letter : Char) (o : Settings) : Except Fault (Option Nat) :=
  match o.value? letter with
  | none => .ok none
  | some text =>
    let found := match text.toList with
      | '0' :: 'x' :: rest | '0' :: 'X' :: rest => spelledNumber 16 rest.length rest
      | '0' :: c :: rest =>
        if c.isDigit then spelledNumber 8 (rest.length + 1) (c :: rest) else some (0, c :: rest)
      | cs => spelledNumber 10 cs.length cs
    match found with
    | some (n, []) => .ok (some n)
    | some (n, unit) =>
      match Utility.count? (String.ofList unit) with
      | some size => .ok (some (n * size))
      | none => .error (.badNumber letter text)
    | none => .error (.badNumber letter text)

/-- Reads the options; also says what is wrong with a width. -/
def layoutOf (o : Settings) : Except Fault (Layout × List String) := do
  let columns := (← o.given.mapM columnsOfLetter).flatten
  let columns := if columns.isEmpty then [⟨.number .octal 2, false⟩] else columns
  let radix ← match o.value? 'A' with
    | none => pure (some 8)
    | some text =>
      match text.toList with
      | ['o'] => pure (some 8)
      | ['d'] => pure (some 10)
      | ['x'] => pure (some 16)
      | ['n'] => pure none
      | _ => throw (.badRadix text)
  let whole := (columns.map (·.form.size)).foldl Nat.lcm 1
  let standard := if whole < 16 then whole * (16 / whole) else whole
  let (perRow, said) ← match o.value? 'w' with
    | none => pure (standard, [])
    | some "" => pure (32, [])
    | some text =>
      match text.toNat? with
      | none => throw (.badNumber 'w' text)
      | some n =>
        if n ≠ 0 && n % whole = 0 then pure (n, [])
        else
          pure (whole, ["warning: invalid width " ++ toString n ++ "; using " ++ toString whole
            ++ " instead"])
  return ({ columns, perRow, radix, abbreviates := !o.has 'v' }, said)

/-- Writes bytes as numbers and signs. -/
def od : Tool where
  name := "od"
  flags := "abcdilosxv"
  valued := "AtjN"
  optional := "w"
  names := [("address-radix", 'A'), ("format", 't'), ("skip-bytes", 'j'), ("read-bytes", 'N'),
    ("width", 'w'), ("output-duplicates", 'v')]
  reads := Tool.readsInput
  run o input s :=
    let settings : Except Fault (Layout × List String × Nat × Option Nat) := do
      let skipped ← count 'j' o
      let most ← count 'N' o
      let (layout, said) ← layoutOf o
      return (layout, said, skipped.getD 0, most)
    match settings with
    | .error fault => Utility.bad 1 (err ("od: " ++ fault.message ++ "\n")) s
    | .ok (layout, said, skipped, most) =>
      let paths := if o.operands.isEmpty then ["-"] else o.operands
      let results := paths.map fun path => Utility.contentOf (Utility.titled "od") input path s
      let faults : Printed := results.flatMap fun r =>
        match r with
        | .ok _ => []
        | .error p => p
      let said : Printed := said.flatMap fun line => err ("od: " ++ line ++ "\n")
      let contents := results.filterMap (·.toOption)
      let all := contents.flatten
      let status := if faults.isEmpty then 0 else 1
      if contents.isEmpty then Utility.bad status (said ++ faults) s
      else if all.length < skipped then
        Utility.bad 1 (faults ++ err "od: cannot skip past end of combined input\n") s
      else
        let b := all.drop skipped
        let b := most.elim b b.take
        Utility.bad status
          (said ++ faults ++ [(1, layout.rows (b.length + 2) skipped none b)]) s

end Dump

end Scaffold.Script

import Scaffold.Script.Quoting

/-!
# Expression — the patterns of programs

Basic patterns write the signs of groups, counts and branches behind a backslash, extended ones
without. What a sign means where nothing stands in front of it, and how strictly counts are read,
differs from program to program; a style says so.
-/

set_option autoImplicit false

namespace Scaffold.Script.Expression

/-! ## Patterns -/

/-- Characters, or all others. -/
structure Members where
  ranges : List (Char × Char)
  isOther : Bool := false
  ignoresCase : Bool := false
  deriving DecidableEq, Repr

/-- The character belongs to the members. -/
def Members.contains (m : Members) (c : Char) : Bool :=
  let isIn (c : Char) : Bool := m.ranges.any fun (a, b) => a ≤ c && c ≤ b
  (isIn c || (m.ignoresCase && (isIn c.toUpper || isIn c.toLower))) != m.isOther

/-- What can be asked about a place between characters. -/
inductive Assertion
  | start | finish
  /-- The start or the end of a line within the text. -/
  | lineStart | lineFinish
  | wordStart | wordFinish | wordEdge | noWordEdge
  /-- No word goes on to the left, or to the right. -/
  | noneBefore | noneAfter
  deriving DecidableEq, Repr

/-- A pattern. -/
inductive Node
  | empty
  | one (members : Members)
  | assertion (a : Assertion)
  | group (n : Nat) (inner : Node)
  /-- What a group has matched. -/
  | back (n : Nat)
  | sequence (a b : Node)
  | choice (a b : Node)
  | repetition (least : Nat) (most : Option Nat) (inner : Node)
  deriving Repr

/-- Why a text is no pattern. -/
inductive Fault
  | badRepetition | badCount | badOrder | openCount | tooBig
  | openGroup | strayClose
  | noSet | openSet | badRange | unknownClass | badElement
  /-- The name of a class stands in one pair of brackets alone. -/
  | loneClass
  | badReference
  | trailingBackslash
  deriving DecidableEq, Repr

/-- The wording of a fault. -/
def Fault.message : Fault → String
  | .badRepetition => "Invalid preceding regular expression"
  | .badCount | .badOrder => "Invalid content of \\\x7b\\\x7d"
  | .openCount => "Unmatched \\\x7b"
  | .tooBig => "Regular expression too big"
  | .openGroup => "Unmatched ( or \\("
  | .strayClose => "Unmatched ) or \\)"
  | .noSet => "Invalid regular expression"
  | .loneClass => "character class syntax is [[:space:]], not [:space:]"
  | .openSet => "Unmatched [, [^, [:, [., or [="
  | .badRange => "Invalid range end"
  | .unknownClass => "Invalid character class name"
  | .badElement => "Invalid collation character"
  | .badReference => "Invalid back reference"
  | .trailingBackslash => "Trailing backslash"

/-- What the sign of a repetition means with nothing in front of it. -/
inductive Lead
  /-- Itself. -/
  | literal
  /-- Nothing. -/
  | skipped
  | fault
  deriving DecidableEq, Repr

/-- How a pattern is written. -/
structure Style where
  isExtended : Bool := false
  ignoresCase : Bool := false
  /-- The start and the end of each line count as those of the text. -/
  isMultiline : Bool := false
  lead : Lead := .literal
  /-- A count with nothing in front of it is a fault, and so is a repetition of a repetition. -/
  isStrict : Bool := false
  /-- Counts that are none stand for themselves. -/
  hasLooseCounts : Bool := false
  /-- A bracket that closes nothing stands for itself. -/
  hasLooseClose : Bool := false
  /-- A range that ends before it begins is empty. -/
  hasEmptyRanges : Bool := false
  /-- The name of a class is no set. -/
  refusesLoneClass : Bool := false
  /-- Characters can be written by number and control characters by letter. -/
  hasEscapes : Bool := false

/-! ## Sets -/

/-- The ranges of a class of characters. -/
def classRanges? : String → Option (List (Char × Char))
  | "alpha" => some [('A', 'Z'), ('a', 'z')]
  | "digit" => some [('0', '9')]
  | "alnum" => some [('0', '9'), ('A', 'Z'), ('a', 'z')]
  | "upper" => some [('A', 'Z')]
  | "lower" => some [('a', 'z')]
  | "space" => some [('\t', '\r'), (' ', ' ')]
  | "blank" => some [('\t', '\t'), (' ', ' ')]
  | "punct" => some [('!', '/'), (':', '@'), ('[', '\x60'), ('\x7b', '~')]
  | "print" => some [(' ', '~')]
  | "graph" => some [('!', '~')]
  | "cntrl" => some [('\x00', '\x1f'), ('\x7f', '\x7f')]
  | "xdigit" => some [('0', '9'), ('A', 'F'), ('a', 'f')]
  | _ => none

/-- What words are made of. -/
def wordRanges : List (Char × Char) := ('_', '_') :: (classRanges? "alnum").getD []

/-- The name in front of a sign and a bracket, and what follows them. -/
def bracketName (sign : Char) : List Char → Option (List Char × List Char)
  | [] | [_] => none
  | c :: d :: rest =>
    if c = sign && d = ']' then some ([], rest)
    else (bracketName sign (d :: rest)).map fun (name, rest) => (c :: name, rest)

/-- The value of up to so many digits, and what follows them. -/
def digitsOf (base most : Nat) (cs : List Char) : Option (Nat × List Char) :=
  let value? (c : Char) : Option Nat :=
    let n := if c.isDigit then c.toNat - 48 else if c.isAlpha then c.toUpper.toNat - 55 else base
    if n < base then some n else none
  let digits := (cs.take most).takeWhile fun c => (value? c).isSome
  if digits.isEmpty then none
  else some (digits.foldl (fun n c => n * base + (value? c).getD 0) 0, cs.drop digits.length)

/-- The character that stands behind a backslash, where characters can be written that way. -/
def escape? : List Char → Option (Char × List Char)
  | 'n' :: rest => some ('\n', rest)
  | 't' :: rest => some ('\t', rest)
  | 'f' :: rest => some ('\x0c', rest)
  | 'v' :: rest => some ('\x0b', rest)
  | 'a' :: rest => some ('\x07', rest)
  | 'r' :: rest => some ('\r', rest)
  | 'c' :: c :: rest => some (Char.ofNat (c.toUpper.toNat ^^^ 64), rest)
  | 'd' :: rest => (digitsOf 10 3 rest).map fun (n, rest) => (Char.ofNat (n % 256), rest)
  | 'o' :: rest => (digitsOf 8 3 rest).map fun (n, rest) => (Char.ofNat (n % 256), rest)
  | 'x' :: rest => (digitsOf 16 2 rest).map fun (n, rest) => (Char.ofNat (n % 256), rest)
  | _ => none

/-- An element of a set: a character, or the ranges of a class. -/
abbrev Element := Char ⊕ List (Char × Char)

/-- Reads an element of a set. -/
def element (style : Style) (text : List Char) : Except Fault (Element × List Char) :=
  match text with
  | [] => .error .openSet
  | '[' :: ':' :: rest =>
    match bracketName ':' rest with
    | none => .error .openSet
    | some (name, rest) =>
      let name := String.ofList name
      let name := if style.ignoresCase && (name == "upper" || name == "lower") then "alpha" else name
      match classRanges? name with
      | some ranges => .ok (.inr ranges, rest)
      | none => .error .unknownClass
  | '[' :: '.' :: rest =>
    match bracketName '.' rest with
    | some ([c], rest) => .ok (.inl c, rest)
    | some _ => .error .badElement
    | none => .error .openSet
  | '[' :: '=' :: rest =>
    match bracketName '=' rest with
    | some ([c], rest) => .ok (.inr [(c, c)], rest)
    | some _ => .error .badElement
    | none => .error .openSet
  | '\\' :: rest =>
    match if style.hasEscapes then escape? rest else none with
    | some (c, rest) => .ok (.inl c, rest)
    | none => .ok (.inl '\\', rest)
  | c :: rest => .ok (.inl c, rest)

/-- Reads the elements of a set behind others. -/
def elements (style : Style) : Nat → Bool → List (Char × Char) → List Char →
    Except Fault (List (Char × Char) × List Char)
  | 0, _, _, _ => .error .openSet
  | fuel + 1, isFirst, ranges, text =>
    match isFirst, text with
    | _, [] => .error .openSet
    | false, ']' :: rest => .ok (ranges, rest)
    | false, '-' :: c :: rest =>
      if c = ']' then .ok (('-', '-') :: ranges, rest) else .error .badRange
    | _, text => do
      let (e, rest) ← element style text
      match rest with
      | '-' :: ']' :: _ =>
        let added := match e with
          | .inl c => [(c, c)]
          | .inr ranges => ranges
        elements style fuel false (added ++ ranges) rest
      | '-' :: rest => do
        if rest.isEmpty then throw .openSet
        let (f, rest) ← element style rest
        match e, f with
        | .inl a, .inl b =>
          if a ≤ b then elements style fuel false ((a, b) :: ranges) rest
          else if style.hasEmptyRanges then elements style fuel false ranges rest
          else throw .badRange
        | _, _ => throw .badRange
      | rest =>
        let added := match e with
          | .inl c => [(c, c)]
          | .inr ranges => ranges
        elements style fuel false (added ++ ranges) rest

/-- Reads a set behind the bracket that opens it. -/
def set (style : Style) (text : List Char) : Except Fault (Members × List Char) := do
  let (isOther, text) := match text with
    | '^' :: rest => (true, rest)
    | text => (false, text)
  if text.isEmpty then throw .noSet
  let inner := text.takeWhile (· != ']')
  let isName := 2 < inner.length && inner.head? == some ':' && inner.getLast? == some ':'
    && (inner.drop 1).dropLast.all Char.isAlpha
  if style.refusesLoneClass && isName then throw .loneClass
  let (ranges, rest) ← elements style (text.length + 1) true [] text
  return ({ ranges, isOther, ignoresCase := style.ignoresCase }, rest)

/-! ## Tokens -/

/-- A token of a pattern. -/
inductive Token
  | finish
  | char (c : Char)
  | any
  | openSet
  | enter | leave
  | bar
  /-- A repetition by a sign. -/
  | sign (c : Char) (least : Nat) (most : Option Nat)
  /-- A count begins. -/
  | count
  | caret | dollar
  | back (n : Nat)
  | assertion (a : Assertion)
  | members (m : Members)
  | backslash

/-- What a character means behind a backslash in both kinds of patterns. -/
def escapedToken (c : Char) : Token :=
  let blanks := (classRanges? "space").getD []
  match c with
  | 'w' => .members { ranges := wordRanges }
  | 'W' => .members { ranges := wordRanges, isOther := true }
  | 's' => .members { ranges := blanks }
  | 'S' => .members { ranges := blanks, isOther := true }
  | 'b' => .assertion .wordEdge
  | 'B' => .assertion .noWordEdge
  | '<' => .assertion .wordStart
  | '>' => .assertion .wordFinish
  | '\x60' => .assertion .start
  | '\'' => .assertion .finish
  | c => if '1' ≤ c && c ≤ '9' then .back (c.toNat - 48) else .char c

/-- What a sign means. -/
def signToken? : Char → Option Token
  | '(' => some .enter
  | ')' => some .leave
  | '|' => some .bar
  | '+' => some (.sign '+' 1 none)
  | '?' => some (.sign '?' 0 (some 1))
  | '\x7b' => some .count
  | _ => none

/-- The token that a pattern begins with, and what follows it. -/
def token (style : Style) : List Char → Token × List Char
  | [] => (.finish, [])
  | ['\\'] => (.backslash, [])
  | '\\' :: c :: rest =>
    match if style.hasEscapes then escape? (c :: rest) else none with
    | some (d, rest) => (.char d, rest)
    | none =>
      match if style.isExtended then none else signToken? c with
      | some t => (t, rest)
      | none => (escapedToken c, rest)
  | c :: rest =>
    match if style.isExtended then signToken? c else none with
    | some t => (t, rest)
    | none =>
      match c with
      | '.' => (.any, rest)
      | '[' => (.openSet, rest)
      | '*' => (.sign '*' 0 none, rest)
      | '^' => (.caret, rest)
      | '$' => (.dollar, rest)
      | c => (.char c, rest)

/-! ## Reading -/

/-- How many groups there are, and which of them are closed. -/
structure Groups where
  count : Nat := 0
  closed : List Nat := []
  /-- The groups of other patterns in front. -/
  base : Nat := 0

/-- A character as a pattern. -/
def Style.literal (style : Style) (c : Char) : Node :=
  .one { ranges := [(c, c)], ignoresCase := style.ignoresCase }

/-- The greatest count. -/
def maxCount : Nat := 32767

/-- Reads a count behind the brace that opens it; none if there is none. -/
def count (style : Style) (text : List Char) : Except Fault (Nat × Option Nat × List Char) := do
  let number (text : List Char) : Option Nat × List Char :=
    let digits := text.takeWhile Char.isDigit
    ((String.ofList digits).toNat?, text.drop digits.length)
  let closed (text : List Char) : Option (List Char) :=
    match style.isExtended, text with
    | true, '\x7d' :: rest | false, '\\' :: '\x7d' :: rest => some rest
    | _, _ => none
  let isOpen := !((List.range (text.length + 1)).any fun n => (closed (text.drop n)).isSome)
  let wrong : Fault := if isOpen then .openCount else .badCount
  let (least, rest) := number text
  let (most, rest) ← match rest, least with
    | ',' :: rest, _ => pure ((number rest).1, (number rest).2)
    | rest, some n => pure (some n, rest)
    | _, none => throw wrong
  match closed rest with
  | none => throw wrong
  | some rest =>
    let least := least.getD 0
    if most.any (decide <| · < least) then throw .badOrder
    if maxCount < most.getD least then throw .tooBig
    return (least, most, rest)

mutual

/-- Reads branches, up to the end or the bracket that closes a group. -/
def branches (style : Style) : Nat → Nat → Groups → List Char →
    Except Fault (Node × Groups × List Char)
  | 0, _, _, _ => .error .tooBig
  | fuel + 1, depth, g, text => do
    let (first, g, rest) ← branch style fuel depth true g text
    match token style rest with
    | (.bar, rest) => do
      let (others, g, rest) ← branches style fuel depth g rest
      return (.choice first others, g, rest)
    | _ => return (first, g, rest)

/-- Reads the items of a branch. -/
def branch (style : Style) : Nat → Nat → Bool → Groups → List Char →
    Except Fault (Node × Groups × List Char)
  | 0, _, _, _, _ => .error .tooBig
  | fuel + 1, depth, isStart, g, text => do
    let (t, rest) := token style text
    let go (node : Node) (isStart : Bool) (g : Groups) (rest : List Char) :
        Except Fault (Node × Groups × List Char) := do
      let (more, g, rest) ← branch style fuel depth isStart g rest
      return (.sequence node more, g, rest)
    let repeated (node : Node) (g : Groups) (rest : List Char) :
        Except Fault (Node × Groups × List Char) := do
      let (node, rest) ← repetitions style fuel node rest
      go node false g rest
    let opening : Assertion := if style.isMultiline then .lineStart else .start
    let closing : Assertion := if style.isMultiline then .lineFinish else .finish
    match t with
    | .finish | .bar => return (.empty, g, text)
    | .leave =>
      if 0 < depth then return (.empty, g, text)
      else if style.isExtended && style.hasLooseClose then repeated (style.literal ')') g rest
      else throw .strayClose
    | .backslash => throw .trailingBackslash
    | .char c => repeated (style.literal c) g rest
    | .any => repeated (.one { ranges := [], isOther := true }) g rest
    | .members m => repeated (.one m) g rest
    | .openSet => do
      let (m, rest) ← set style rest
      repeated (.one m) g rest
    | .back n =>
      if g.closed.contains n then repeated (.back (g.base + n)) g rest else throw .badReference
    | .assertion a => go (.assertion a) true g rest
    | .caret =>
      if style.isExtended || isStart then go (.assertion opening) true g rest
      else repeated (style.literal '^') g rest
    | .dollar =>
      let isLast := match token style rest with
        | (.finish, _) | (.bar, _) | (.leave, _) => true
        | _ => false
      if style.isExtended || isLast then go (.assertion closing) true g rest
      else repeated (style.literal '$') g rest
    | .enter => do
      let n := g.count + 1
      let (inner, g, rest) ← branches style fuel (depth + 1) { g with count := n } rest
      match token style rest with
      | (.leave, rest) =>
        repeated (.group (g.base + n) inner) { g with closed := n :: g.closed } rest
      | _ => throw .openGroup
    | .sign c _ _ =>
      match style.lead with
      | .literal => repeated (style.literal c) g rest
      | .skipped => branch style fuel depth isStart g rest
      | .fault => throw .badRepetition
    | .count =>
      match style.lead, style.isStrict with
      | .fault, _ | _, true => throw .badRepetition
      | .literal, false => repeated (style.literal '\x7b') g rest
      | .skipped, false => branch style fuel depth isStart g rest

/-- Reads the repetitions behind an item. -/
def repetitions (style : Style) : Nat → Node → List Char → Except Fault (Node × List Char)
  | 0, _, _ => .error .tooBig
  | fuel + 1, node, text => do
    let strict (node : Node) (rest : List Char) : Except Fault (Node × List Char) :=
      match style.isStrict && !style.isExtended, token style rest with
      | true, (.sign '*' _ _, _) | true, (.count, _) => .error .badRepetition
      | _, _ => repetitions style fuel node rest
    match token style text with
    | (.sign _ least most, rest) => strict (.repetition least most node) rest
    | (.count, rest) =>
      match count style rest with
      | .ok (least, most, rest) => strict (.repetition least most node) rest
      | .error fault =>
        if style.hasLooseCounts && (fault = .openCount || fault = .badCount) then
          let (brace, rest) ← repetitions style fuel (style.literal '\x7b') rest
          return (.sequence node brace, rest)
        else throw fault
    | _ => return (node, text)

end

end Scaffold.Script.Expression

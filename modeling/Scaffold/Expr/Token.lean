import Scaffold.Expr.Failure
import Scaffold.Decimal

/-!
# Token — the signs of a template

Text stands for itself up to the next opening sign. Between an opening sign and the closing one
that belongs to it a template holds names, constants and punctuation.
-/

set_option autoImplicit false

namespace Scaffold.Expr

/-- The signs of a template. -/
inductive Token
  | text (text : String)
  | openValue
  | closeValue
  | openBlock
  | closeBlock
  | name (name : String)
  | string (value : String)
  | int (value : Nat)
  | float (value : Float)
  /-- Operators and brackets, as they are written. -/
  | punctuation (spelling : String)

/-- A sign and the line that it begins on, or the place where no sign could be read. -/
inductive Lexeme
  | token (token : Token) (line : Nat)
  | fault (kind : Failure.Kind) (line : Option Nat)

/-- The signs of two characters. -/
def doubleSigns : List (List Char) :=
  ["//", "**", "==", "!=", ">=", "<="].map String.toList

/-- The signs of one character. -/
def singleSigns : List Char :=
  ['+', '-', '*', '/', '%', '.', ',', ':', '~', '|', '=', '>', '<', '(', ')', '[', ']', '\x7b',
    '\x7d']

/-- How a sign changes the number of open brackets. -/
def nesting (c : Char) : Int :=
  if c == '(' || c == '[' || c == '\x7b' then 1
  else if c == ')' || c == ']' || c == '\x7d' then -1
  else 0

/-- Blanks between the signs of an expression. -/
def isGap (c : Char) : Bool :=
  c == ' ' || c == '\t' || c == '\n' || c == '\r' || c == '\x0c'

/-- A character that a name begins with. -/
def isNameStart (c : Char) : Bool :=
  c.isAlpha || c == '_'

/-- A character of a name. -/
def isNamePart (c : Char) : Bool :=
  c.isAlphanum || c == '_'

/-- The number of line ends in a text. -/
def lineEnds (text : List Char) : Nat :=
  text.count '\n'

end Scaffold.Expr

/-!
## Constants — texts and numbers as they are written

A text stands between quotation marks of either sort and may hold escapes. A number may have a
base, a fraction, an exponent and low lines between its digits.
-/

namespace Scaffold.Expr

/-- The value of a digit in base sixteen. -/
def hexDigit? (c : Char) : Option Nat :=
  match Decimal.digitValue? c with
  | some n => if n < 16 then some n else none
  | none => none

/-- The number that so many digits behind an escape stand for; a sign may stand in front. -/
def digitsCode? (size : Nat) (text : List Char) : Option Nat :=
  let digits := match text.take size with
    | '+' :: rest => rest
    | digits => digits
  if text.length < size || digits.isEmpty then none
  else digits.foldlM (fun n c => (hexDigit? c).map (n * 16 + ·)) 0

/-- A digit in base eight. -/
def isOctalDigit (c : Char) : Bool :=
  '0' ≤ c && c ≤ '7'

/-- The character of a pair of surrogates. -/
def paired? (high low : Nat) : Option Char :=
  if 0xD800 ≤ high && high < 0xDC00 && 0xDC00 ≤ low && low < 0xE000 then
    some (Char.ofNat (0x10000 + (high - 0xD800) * 0x400 + (low - 0xDC00)))
  else none

/-- The character that an escape of one letter stands for. -/
def simpleEscape? (c : Char) : Option Char :=
  match c with
  | '"' => some '"'
  | '\\' => some '\\'
  | '/' => some '/'
  | '\'' => some '\''
  | 'b' => some '\x08'
  | 'f' => some '\x0c'
  | 'n' => some '\n'
  | 'r' => some '\r'
  | 't' => some '\t'
  | _ => none

/-- What the characters behind a backslash stand for. -/
inductive Escape
  | char (c : Char)
  /-- A character, or one half of a pair of surrogates. -/
  | unit (n : Nat)
  /-- No escape: the backslash stands for itself. -/
  | nothing

/-- What the characters behind a backslash stand for, and how many of them belong to it: a letter,
four digits behind `u`, two behind `x`, or up to three in base eight that spell a byte. -/
def escape? : List Char → Option (Escape × Nat)
  | [] => none
  | 'u' :: rest => do return (.unit (← digitsCode? 4 rest), 5)
  | 'x' :: rest => do return (.char (Char.ofNat (← digitsCode? 2 rest)), 3)
  | c :: rest =>
    if isOctalDigit c then
      let digits := (c :: rest.take 2).takeWhile isOctalDigit
      let n : Nat := digits.foldl (fun n d => n * 8 + (d.toNat - 48)) 0
      if n < 256 then some (.char (Char.ofNat n), digits.length) else none
    else match simpleEscape? c with
      | some d => some (.char d, 1)
      | none => some (.nothing, 0)

/-- Resolves the escapes of a text; an unknown one stands for itself. `skip` is the number of
characters that belong to an escape in front of them, `high` the half of a surrogate pair that
waits for its other half. -/
def unescapeFrom : Nat → Option Nat → List Char → Option (List Char)
  | _, none, [] => some []
  | _, some _, [] => none
  | skip + 1, high, _ :: rest => unescapeFrom skip high rest
  | 0, high, '\\' :: rest =>
    match high, escape? rest with
    | none, some (.char c, size) => (unescapeFrom size none rest).map (c :: ·)
    | none, some (.nothing, size) => (unescapeFrom size none rest).map ('\\' :: ·)
    | none, some (.unit n, size) =>
      if 0xD800 ≤ n && n < 0xE000 then unescapeFrom size (some n) rest
      else (unescapeFrom size none rest).map (Char.ofNat n :: ·)
    | some high, some (.unit n, size) =>
      match paired? high n with
      | some c => (unescapeFrom size none rest).map (c :: ·)
      | none => none
    | _, _ => none
  | 0, none, c :: rest => (unescapeFrom 0 none rest).map (c :: ·)
  | 0, some _, _ :: _ => none

/-- Resolves the escapes of a text. -/
def unescape (text : List Char) : Option (List Char) := unescapeFrom 0 none text

/-- The characters up to the closing quotation mark, and what follows it. -/
def quotedPart (mark : Char) : List Char → Option (List Char × List Char)
  | [] => none
  | ['\\'] => none
  | '\\' :: c :: rest => (quotedPart mark rest).map fun (inner, rest) => ('\\' :: c :: inner, rest)
  | c :: rest =>
    if c = mark then some ([], rest)
    else (quotedPart mark rest).map fun (inner, rest) => (c :: inner, rest)

/-- The parts of a number that the scan of its characters passes. -/
inductive NumberPart
  | whole
  | based (base : Nat)
  | fraction
  | exponent
  | signedExponent
  deriving DecidableEq

/-- The head of a text is a digit, with or without a sign in front of it. -/
def beginsInteger : List Char → Bool
  | c :: rest =>
    c.isDigit || ((c == '+' || c == '-') && (rest.head?.map Char.isDigit).getD false)
  | [] => false

/-- A point at the head of a text begins a fraction, unless a name follows it; a letter with a
number behind it is an exponent and no name. -/
def beginsFraction : List Char → Bool
  | '.' :: c :: rest => !isNameStart c || ((c == 'e' || c == 'E') && beginsInteger rest)
  | '.' :: _ => true
  | _ => false

/-- The part that the first character of a text belongs to, if it belongs to the number. -/
def NumberPart.next? (part : NumberPart) (c : Char) (rest : List Char) : Option NumberPart :=
  if c.isDigit then
    match part with
    | .exponent => some .signedExponent
    | part => some part
  else if c == '_' then some part
  else match part with
    | .whole =>
      if beginsFraction (c :: rest) then some .fraction
      else if c == 'e' || c == 'E' then some .exponent
      else none
    | .fraction => if c == 'e' || c == 'E' then some .exponent else none
    | .exponent => if c == '+' || c == '-' then some .signedExponent else none
    | .based 16 => if (hexDigit? c).isSome then some part else none
    | _ => none

/-- The characters of a number, the part it ends in, and what follows. -/
def numberSpan : NumberPart → List Char → List Char × NumberPart × List Char
  | part, [] => ([], part, [])
  | part, c :: rest =>
    match part.next? c rest with
    | none => ([], part, c :: rest)
    | some next =>
      let (inner, last, rest) := numberSpan next rest
      (c :: inner, last, rest)

/-- The base that a number announces, and its digits. -/
def announcedBase : List Char → NumberPart × List Char
  | '0' :: b :: rest =>
    if b == 'b' || b == 'B' then (.based 2, rest)
    else if b == 'o' || b == 'O' then (.based 8, rest)
    else if b == 'x' || b == 'X' then (.based 16, rest)
    else (.whole, '0' :: b :: rest)
  | text => (.whole, text)

/-- The token of the digits of a number; integers have at most 128 bits. -/
def numberToken? (digits : List Char) (last : NumberPart) : Option Token :=
  if digits.getLast? == some '_' then none
  else
    let digits := digits.filter (· != '_')
    let integer (base : Nat) : Option Token := do
      let n ← Decimal.digits? base digits
      if n < Nat.pow 2 128 then return .int n else none
    match last with
    | .whole => integer 10
    | .based base => integer base
    | _ => (Decimal.unsigned? digits).map .float

end Scaffold.Expr

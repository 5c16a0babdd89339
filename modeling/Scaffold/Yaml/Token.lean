/-!
# Token — tokens and where they stand
-/

set_option autoImplicit false

/-!
## Mark — places in a stream of characters

A cursor is what is left of a stream together with the place where it begins. Lines and columns
count from zero and in characters; a carriage return followed by a line feed is one break.
-/

namespace Scaffold.Yaml

/-- A place: characters before it, lines before it, characters before it on its line. -/
structure Mark where
  index : Nat := 0
  line : Nat := 0
  column : Nat := 0
  deriving DecidableEq, Repr, Inhabited

/-- How a place is shown, counted from one. -/
def Mark.text (mark : Mark) : String :=
  "line " ++ toString (mark.line + 1) ++ " column " ++ toString (mark.column + 1)

/-- Why a stream is no well-formed document. -/
structure Malformed where
  problem : String
  mark : Mark
  /-- The bytes before a fault of the encoding. -/
  offset : Nat := 0
  deriving DecidableEq, Repr

/-- The wording of a fault: with its place unless that is the very beginning. -/
def Malformed.message (fault : Malformed) : String :=
  if fault.mark.line != 0 || fault.mark.column != 0 then fault.problem ++ " at " ++ fault.mark.text
  else if fault.offset != 0 then fault.problem ++ " at position " ++ toString fault.offset
  else fault.problem

/-- The rest of a stream and where it begins. -/
structure Cursor where
  rest : List Char
  mark : Mark := {}

/-- A space or a tab. -/
def isSpace (c : Char) : Bool :=
  c == ' ' || c == '\t'

/-- A line break. -/
def isBreak (c : Char) : Bool :=
  c == '\n' || c == '\r' || c == '\u0085' || c == '\u2028' || c == '\u2029'

/-- A letter, a digit, `-` or `_`. -/
def isWordChar (c : Char) : Bool :=
  ('0' ≤ c && c ≤ '9') || ('a' ≤ c && c ≤ 'z') || ('A' ≤ c && c ≤ 'Z') || c == '_' || c == '-'

namespace Cursor

/-- The character `n` places ahead; `none` behind the end. -/
def ahead (c : Cursor) (n : Nat) : Option Char :=
  c.rest[n]?

/-- The next character. -/
def peek (c : Cursor) : Option Char :=
  c.ahead 0

/-- The character `n` places ahead is this one. -/
def sees (c : Cursor) (x : Char) (n : Nat := 0) : Bool :=
  c.ahead n == some x

/-- The character `n` places ahead is one of these. -/
def seesAny (c : Cursor) (xs : List Char) (n : Nat := 0) : Bool :=
  (c.ahead n).any xs.contains

/-- A space or a tab stands `n` places ahead. -/
def atSpace (c : Cursor) (n : Nat := 0) : Bool :=
  (c.ahead n).any isSpace

/-- A line break stands `n` places ahead. -/
def atBreak (c : Cursor) (n : Nat := 0) : Bool :=
  (c.ahead n).any isBreak

/-- A line break or the end stands `n` places ahead. -/
def atLineEnd (c : Cursor) (n : Nat := 0) : Bool :=
  (c.ahead n).all isBreak

/-- A space, a tab, a line break or the end stands `n` places ahead. -/
def atGap (c : Cursor) (n : Nat := 0) : Bool :=
  (c.ahead n).all fun x => isSpace x || isBreak x

/-- Passes `n` characters of the current line. -/
def skip (c : Cursor) (n : Nat := 1) : Cursor :=
  ⟨c.rest.drop n, { c.mark with index := c.mark.index + n, column := c.mark.column + n }⟩

/-- Passes the characters that satisfy `p` and returns them; none of them may be a break. -/
def span (c : Cursor) (p : Char → Bool) : List Char × Cursor :=
  let taken := c.rest.takeWhile p
  (taken, c.skip taken.length)

/-- Passes a line break, if one is next, and returns how it is kept in a scalar: the two
separators of lines and paragraphs as themselves, every other break as a line feed. -/
def takeBreak (c : Cursor) : String × Cursor :=
  let line (n : Nat) : Mark := ⟨c.mark.index + n, c.mark.line + 1, 0⟩
  match c.rest with
  | '\r' :: '\n' :: rest => ("\n", ⟨rest, line 2⟩)
  | x :: rest =>
    if x == '\u2028' || x == '\u2029' then (String.singleton x, ⟨rest, line 1⟩)
    else if isBreak x then ("\n", ⟨rest, line 1⟩)
    else ("", c)
  | [] => ("", c)

/-- Passes a line break. -/
def skipBreak (c : Cursor) : Cursor :=
  c.takeBreak.2

/-- A document indicator stands at the beginning of the line. -/
def atDocument (c : Cursor) (indicator : Char) : Bool :=
  c.mark.column == 0 && c.sees indicator 0 && c.sees indicator 1 && c.sees indicator 2 && c.atGap 3

/-- A fault at this place. -/
def fault {α : Type} (c : Cursor) (problem : String) : Except Malformed α :=
  .error ⟨problem, c.mark, 0⟩

end Cursor

end Scaffold.Yaml

/-!
## Token — the signs of a document

What the characters of a stream spell: indicators, properties of nodes, scalars, and the
beginning and end of the collections that indentation implies.
-/

namespace Scaffold.Yaml

/-- How a scalar is written. -/
inductive Style
  | plain
  | singleQuoted
  | doubleQuoted
  | literal
  | folded
  deriving DecidableEq, Repr

/-- The kinds of signs. -/
inductive Token.Kind
  | streamStart
  | streamEnd
  | versionDirective (major minor : Nat)
  | tagDirective (handle lead : String)
  | documentStart
  | documentEnd
  | blockSequenceStart
  | blockMappingStart
  | blockEnd
  | flowSequenceStart
  | flowSequenceEnd
  | flowMappingStart
  | flowMappingEnd
  | blockEntry
  | flowEntry
  | key
  | value
  | reference (name : String)
  | anchor (name : String)
  | tag (handle suffix : String)
  | scalar (text : String) (style : Style)
  deriving DecidableEq, Repr

/-- A sign and the places where it begins and ends. -/
structure Token where
  kind : Token.Kind
  start : Mark
  stop : Mark
  deriving DecidableEq, Repr

end Scaffold.Yaml

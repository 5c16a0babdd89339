import Scaffold.Yaml.Token

/-!
# Scalars — plain, quoted and block text

Each function reads one scalar from its first character (behind the quote or indicator, where it
has one) and returns its text with the rest of the stream. Inside a scalar a single line break
becomes a space and further ones are kept.
-/

set_option autoImplicit false

namespace Scaffold.Yaml

/-- The white space between two parts of a scalar: blanks on one line, or a first break and
those that follow it. -/
structure Gap where
  blanks : String := ""
  first : String := ""
  further : String := ""
  broken : Bool := false

/-- What a gap contributes to the text. -/
def Gap.joined (gap : Gap) : String :=
  if !gap.broken then gap.blanks
  else if gap.first == "\n" then
    if gap.further.isEmpty then " " else gap.further
  else gap.first ++ gap.further

/-- Extends a gap by all blanks and breaks that follow. A tab may not stand left of `column` on
a line of its own. -/
def Gap.scan (column : Option Int) : Nat → Gap → Cursor → Except Malformed (Gap × Cursor)
  | 0, gap, c => .ok (gap, c)
  | fuel + 1, gap, c =>
    match c.peek with
    | none => .ok (gap, c)
    | some x =>
      if isSpace x then
        if gap.broken then
          if x == '\t' && column.any ((c.mark.column : Int) < ·) then
            c.fault "found a tab character that violates indentation"
          else Gap.scan column fuel gap c.skip
        else Gap.scan column fuel { gap with blanks := gap.blanks.push x } c.skip
      else if isBreak x then
        let (text, c) := c.takeBreak
        if gap.broken then Gap.scan column fuel { gap with further := gap.further ++ text } c
        else Gap.scan column fuel { gap with first := text, broken := true } c
      else .ok (gap, c)

/-- The characters that end a plain scalar inside a flow collection. -/
def flowEnds : List Char := [',', '[', ']', '\x7b', '\x7d']

/-- The part of a plain scalar up to the next blank, break or end of the scalar. -/
def plainPart (flow : Bool) : Nat → String → Cursor → Except Malformed (String × Cursor)
  | 0, text, c => .ok (text, c)
  | fuel + 1, text, c =>
    match c.peek with
    | none => .ok (text, c)
    | some x =>
      if isSpace x || isBreak x then .ok (text, c)
      else if flow && x == ':' && c.seesAny ('?' :: flowEnds) 1 then
        c.fault "found unexpected ':'"
      else if (x == ':' && c.atGap 1) || (flow && flowEnds.contains x) then .ok (text, c)
      else plainPart flow fuel (text.push x) c.skip

/-- A plain scalar as read: its text, where it ends, the rest of the stream, and whether a line
break was passed behind its last character. -/
structure Plain where
  text : String
  stop : Mark
  rest : Cursor
  broken : Bool

/-- Reads a plain scalar whose further lines are indented by at least `column`. -/
def plainScalar (flow : Bool) (column : Int) :
    Nat → Plain → Gap → Except Malformed Plain
  | 0, plain, _ => .ok plain
  | fuel + 1, plain, gap => do
    let c := plain.rest
    if c.atDocument '-' || c.atDocument '.' || c.sees '#' then
      return { plain with broken := gap.broken }
    let (part, after) ← plainPart flow c.rest.length "" c
    let taken := !part.isEmpty
    let plain : Plain :=
      if taken then ⟨plain.text ++ gap.joined ++ part, after.mark, after, false⟩
      else { plain with rest := after, broken := gap.broken }
    let gap : Gap := if taken then {} else gap
    if !(after.atSpace || after.atBreak) then return { plain with broken := gap.broken }
    let (gap, after) ← Gap.scan (some column) after.rest.length gap after
    let plain := { plain with rest := after, broken := gap.broken }
    if !flow && (after.mark.column : Int) < column then return plain
    plainScalar flow column fuel plain gap

/-- The character of an escape of one letter. -/
def escaped? : Char → Option Char
  | '0' => some '\x00'
  | 'a' => some '\x07'
  | 'b' => some '\x08'
  | 't' | '\t' => some '\t'
  | 'n' => some '\n'
  | 'v' => some '\x0b'
  | 'f' => some '\x0c'
  | 'r' => some '\r'
  | 'e' => some '\x1b'
  | ' ' => some ' '
  | '"' => some '"'
  | '/' => some '/'
  | '\\' => some '\\'
  | 'N' => some '\u0085'
  | '_' => some '\u00a0'
  | 'L' => some '\u2028'
  | 'P' => some '\u2029'
  | _ => none

/-- The number of hexadecimal digits behind an escape's letter. -/
def escapeDigits? : Char → Option Nat
  | 'x' => some 2
  | 'u' => some 4
  | 'U' => some 8
  | _ => none

/-- The value of a hexadecimal digit. -/
def hexDigit? (c : Char) : Option Nat :=
  if '0' ≤ c && c ≤ '9' then some (c.toNat - 48)
  else if 'a' ≤ c && c ≤ 'f' then some (c.toNat - 87)
  else if 'A' ≤ c && c ≤ 'F' then some (c.toNat - 55)
  else none

/-- The number that exactly `count` hexadecimal digits spell. -/
def hexNumber? (digits : List Char) (count : Nat) : Option Nat :=
  let digits := digits.take count
  if digits.length < count then none
  else digits.foldlM (fun n c => (hexDigit? c).map (n * 16 + ·)) 0

/-- The part of a quoted scalar up to the next blank, break or closing quote; whether it ended
with an escaped line break. -/
def quotedPart (single : Bool) : Nat → String → Cursor →
    Except Malformed (String × Cursor × Bool)
  | 0, text, c => .ok (text, c, false)
  | fuel + 1, text, c =>
    match c.peek with
    | none => .ok (text, c, false)
    | some x =>
      if isSpace x || isBreak x then .ok (text, c, false)
      else if single then
        if x == '\'' then
          if c.sees '\'' 1 then quotedPart single fuel (text.push '\'') (c.skip 2)
          else .ok (text, c, false)
        else quotedPart single fuel (text.push x) c.skip
      else if x == '"' then .ok (text, c, false)
      else if x != '\\' then quotedPart single fuel (text.push x) c.skip
      else if c.atBreak 1 then .ok (text, c.skip.skipBreak, true)
      else
        match c.ahead 1 with
        | none => c.fault "found unknown escape character"
        | some letter =>
          match escaped? letter, escapeDigits? letter with
          | some y, _ => quotedPart single fuel (text.push y) (c.skip 2)
          | none, none => c.fault "found unknown escape character"
          | none, some count =>
            match hexNumber? (c.rest.drop 2) count with
            | none => c.fault "did not find expected hexdecimal number"
            | some n =>
              if (0xD800 ≤ n && n ≤ 0xDFFF) || 0x10FFFF < n then
                c.fault "found invalid Unicode character escape code"
              else quotedPart single fuel (text.push (Char.ofNat n)) (c.skip (2 + count))

/-- Reads a quoted scalar behind its opening quote, through its closing one. -/
def quotedScalar (single : Bool) :
    Nat → String → Cursor → Except Malformed (String × Cursor)
  | 0, _, c => c.fault "found unexpected end of stream"
  | fuel + 1, text, c => do
    if c.atDocument '-' || c.atDocument '.' then
      c.fault "found unexpected document indicator"
    else if c.peek.isNone then c.fault "found unexpected end of stream"
    else
      let (part, c, escapedBreak) ← quotedPart single c.rest.length "" c
      let text := text ++ part
      if c.sees (if single then '\'' else '"') then return (text, c.skip)
      let (gap, c) ← Gap.scan none c.rest.length { broken := escapedBreak } c
      quotedScalar single fuel (text ++ gap.joined) c

/-- What happens to the breaks at the end of a block scalar. -/
inductive Chomping
  | strip
  | clip
  | keep
  deriving DecidableEq

/-- Reads the header of a block scalar behind its indicator: the chomping and the indentation
that it declares, in either order. -/
def blockHeader (c : Cursor) : Except Malformed (Chomping × Option Nat × Cursor) := do
  let chomping? (c : Cursor) : Option Chomping :=
    if c.sees '+' then some .keep else if c.sees '-' then some .strip else none
  let digit? (c : Cursor) : Except Malformed (Option Nat) :=
    match c.peek with
    | some x =>
      if x == '0' then c.fault "found an indentation indicator equal to 0"
      else if '1' ≤ x && x ≤ '9' then .ok (some (x.toNat - 48))
      else .ok none
    | none => .ok none
  match chomping? c with
  | some chomping =>
    let c := c.skip
    match ← digit? c with
    | some n => return (chomping, some n, c.skip)
    | none => return (chomping, none, c)
  | none =>
    match ← digit? c with
    | some n =>
      let c := c.skip
      match chomping? c with
      | some chomping => return (chomping, some n, c.skip)
      | none => return (.clip, some n, c)
    | none => return (.clip, none, c)

/-- Passes the blank lines in front of a line of a block scalar and its indentation. With no
indentation known yet (zero), all spaces count and the widest line is remembered. -/
def blockBreaks (indent : Nat) :
    Nat → String → Nat → Mark → Cursor → Except Malformed (String × Nat × Mark × Cursor)
  | 0, breaks, widest, stop, c => .ok (breaks, widest, stop, c)
  | fuel + 1, breaks, widest, stop, c =>
    let spaces := (c.rest.takeWhile (· == ' ')).length
    let wanted := if indent == 0 then spaces else min spaces (indent - c.mark.column)
    let c := c.skip wanted
    let widest := max widest c.mark.column
    if (indent == 0 || c.mark.column < indent) && c.sees '\t' then
      c.fault "found a tab character where an indentation space is expected"
    else if c.atBreak then
      let (text, c) := c.takeBreak
      blockBreaks indent fuel (breaks ++ text) widest c.mark c
    else .ok (breaks, widest, stop, c)

/-- The lines of a block scalar read so far. -/
structure Block where
  text : String := ""
  /-- The break behind the last line. -/
  last : String := ""
  /-- The breaks behind that. -/
  further : String := ""
  /-- The last line began with a blank. -/
  blankLed : Bool := false
  stop : Mark
  rest : Cursor

/-- Reads the lines of a block scalar that are indented by `indent`. -/
def blockLines (literal : Bool) (indent : Nat) : Nat → Block → Except Malformed Block
  | 0, block => .ok block
  | fuel + 1, block => do
    let c := block.rest
    if c.mark.column != indent || c.peek.isNone then return block
    let blank := c.atSpace
    let lead :=
      if !literal && block.last == "\n" && !block.blankLed && !blank then
        if block.further.isEmpty then " " else ""
      else block.last
    let (line, c) := c.span fun x => !isBreak x
    let (last, c) := c.takeBreak
    let text := block.text ++ lead ++ block.further ++ String.ofList line
    let (further, _, stop, c) ← blockBreaks indent (c.rest.length + 1) "" 0 c.mark c
    blockLines literal indent fuel ⟨text, last, further, blank, stop, c⟩

/-- Reads a block scalar behind its indicator; `parent` is the indentation of the collection
around it. -/
def blockScalar (literal : Bool) (parent : Int) (c : Cursor) :
    Except Malformed (String × Mark × Cursor) := do
  let (chomping, declared, c) ← blockHeader c
  let (_, c) := c.span isSpace
  let c := if c.sees '#' then (c.span fun x => !isBreak x).2 else c
  if !c.atLineEnd then c.fault "did not find expected comment or line break"
  else
    let c := c.skipBreak
    let indent := match declared with
      | some n => (if 0 ≤ parent then parent.toNat + n else n)
      | none => 0
    let (breaks, widest, stop, c) ← blockBreaks indent (c.rest.length + 1) "" 0 c.mark c
    let indent := if indent == 0 then max (max widest (parent + 1).toNat) 1 else indent
    let block ← blockLines literal indent (c.rest.length + 1)
      { further := breaks, stop := stop, rest := c }
    let tail := match chomping with
      | .strip => ""
      | .clip => block.last
      | .keep => block.last ++ block.further
    return (block.text ++ tail, block.stop, block.rest)

end Scaffold.Yaml

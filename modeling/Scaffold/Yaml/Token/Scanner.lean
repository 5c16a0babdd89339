import Scaffold.Text.Utf8
import Scaffold.Yaml.Token.Scalars

/-!
# Scanner — signs in order of need

The signs that begin with an indicator of their own are read from it on. Which signs there are, and
when each is handed out, is decided by a scanner.
-/

set_option autoImplicit false

/-!
## Properties — directives, anchors, aliases and tags

The signs that begin with `%`, `&`, `*` and `!`, each read from its indicator on.
-/

namespace Scaffold.Yaml

/-- Reads the name of an anchor or alias behind its indicator. -/
def anchorName (c : Cursor) : Except Malformed (String × Cursor) :=
  let (name, c) := c.span isWordChar
  if name.isEmpty || !(c.atGap || c.seesAny ['?', ':', ',', ']', '\x7d', '%', '@', '\x60']) then
    c.fault "did not find expected alphabetic or numeric character"
  else .ok (String.ofList name, c)

/-- Reads `!`, `!!` or `!name!`; what is no handle is read up to where a handle cannot go on. -/
def tagHandle (directive : Bool) (c : Cursor) : Except Malformed (String × Cursor) :=
  if !c.sees '!' then c.fault "did not find expected '!'"
  else
    let (name, c) := c.skip.span isWordChar
    let text := "!" ++ String.ofList name
    if c.sees '!' then .ok (text.push '!', c.skip)
    else if directive && text != "!" then c.fault "did not find expected '!'"
    else .ok (text, c)

/-- The characters of a tag besides letters and digits. -/
def tagChars : List Char :=
  [';', '/', '?', ':', '@', '&', '=', '+', '$', '.', '%', '!', '~', '*', '\'', '(', ')']

/-- Reads the bytes of one character given as `%XX` escapes. -/
def tagEscapes (c : Cursor) : Except Malformed (List Char × Cursor) :=
  let octet? (c : Cursor) : Except Malformed Nat :=
    match c.sees '%', hexNumber? (c.rest.drop 1) 2 with
    | true, some n => .ok n
    | _, _ => c.fault "did not find URI escaped octet"
  do
    let lead ← octet? c
    let width ← (if lead < 0x80 then .ok 1 else if lead < 0xC0 then .ok 0 else
      if lead < 0xE0 then .ok 2 else if lead < 0xF0 then .ok 3 else
      if lead < 0xF8 then .ok 4 else .ok 0 : Except Malformed Nat)
    if width == 0 then c.fault "found an incorrect leading UTF-8 octet"
    else
      let rec more (count : Nat) (bytes : Bytes) (c : Cursor) :
          Except Malformed (Bytes × Cursor) :=
        match count with
        | 0 => .ok (bytes, c)
        | count + 1 => do
          let n ← octet? c
          if n < 0x80 || 0xC0 ≤ n then c.fault "found an incorrect trailing UTF-8 octet"
          else more count (bytes ++ [n.toUInt8]) (c.skip 3)
      let (bytes, c) ← more (width - 1) [lead.toUInt8] (c.skip 3)
      return (Utf8.decodeLossy bytes, c)

/-- Reads the characters of a tag; with `wide` the flow indicators belong to it too. -/
def tagText (wide : Bool) : Nat → List Char → Cursor → Except Malformed (List Char × Cursor)
  | 0, text, c => .ok (text, c)
  | fuel + 1, text, c =>
    match c.peek with
    | none => .ok (text, c)
    | some x =>
      if x == '%' then do
        let (escaped, c) ← tagEscapes c
        tagText wide fuel (text ++ escaped) c
      else if isWordChar x || tagChars.contains x || (wide && [',', '[', ']'].contains x) then
        tagText wide fuel (text ++ [x]) c.skip
      else .ok (text, c)

/-- Reads the characters of a tag behind the `lead` that was already taken for a handle. -/
def tagUri (wide : Bool) (lead : String) (c : Cursor) : Except Malformed (String × Cursor) := do
  let (text, after) ← tagText wide (c.rest.length + 1) [] c
  if lead.isEmpty && text.isEmpty then after.fault "did not find expected tag URI"
  else return (String.ofList (lead.toList.drop 1 ++ text), after)

/-- Reads a tag from its indicator on, as a handle and what follows it. -/
def tagProperty (flow : Bool) (c : Cursor) : Except Malformed (String × String × Cursor) := do
  let (handle, suffix, c) ← (
    if c.sees '<' 1 then do
      let (suffix, c) ← tagUri true "" (c.skip 2)
      if c.sees '>' then return ("", suffix, c.skip)
      else c.fault "did not find the expected '>'"
    else do
      let (handle, after) ← tagHandle false c
      if 2 ≤ handle.length && handle.toList.getLast? == some '!' then
        let (suffix, after) ← tagUri false "" after
        return (handle, suffix, after)
      else
        let (suffix, after) ← tagUri false handle after
        return if suffix.isEmpty then ("", "!", after) else ("!", suffix, after)
    : Except Malformed (String × String × Cursor))
  if (flow && c.sees ',') || c.atGap then return (handle, suffix, c)
  else c.fault "did not find expected whitespace or line break"

/-- Reads a part of a version number. -/
def versionNumber (c : Cursor) : Except Malformed (Nat × Cursor) :=
  let (digits, c) := c.span fun x => '0' ≤ x && x ≤ '9'
  if digits.isEmpty then c.fault "did not find expected version number"
  else if 9 < digits.length then c.fault "found extremely long version number"
  else .ok (digits.foldl (fun n x => n * 10 + (x.toNat - 48)) 0, c)

/-- Reads a directive from its indicator through the end of its line. -/
def directive (c : Cursor) : Except Malformed (Token.Kind × Mark × Cursor) := do
  let (name, c) := c.skip.span isWordChar
  if name.isEmpty then c.fault "could not find expected directive name"
  else if !c.atGap then c.fault "found unexpected non-alphabetical character"
  else
    let (_, value) := c.span isSpace
    let (kind, c) ← (
      if name == "YAML".toList then do
        let (major, c) ← versionNumber value
        if !c.sees '.' then c.fault "did not find expected digit or '.' character"
        else
          let (minor, c) ← versionNumber c.skip
          return (.versionDirective major minor, c)
      else if name == "TAG".toList then do
        let (handle, c) ← tagHandle true value
        if !c.atSpace then c.fault "did not find expected whitespace"
        else
          let (lead, c) ← tagUri true "" (c.span isSpace).2
          if !c.atGap then c.fault "did not find expected whitespace or line break"
          else return (.tagDirective handle lead, c)
      else c.fault "found unknown directive name"
      : Except Malformed (Token.Kind × Cursor))
    let stop := c.mark
    let (_, c) := c.span isSpace
    let c := if c.sees '#' then (c.span fun x => !isBreak x).2 else c
    if !c.atLineEnd then c.fault "did not find expected comment or line break"
    else return (kind, stop, c.skipBreak)

end Scaffold.Yaml

/-!
## Scan — signs that are found and not yet taken

A scanner holds the rest of a stream and the signs found but not yet taken. A sign is handed out
only when no later character can put a key indicator in front of it, so a fault is known as late
as possible and as early as necessary.
-/

namespace Scaffold.Yaml

/-- A place where a key may begin without an indicator of its own. -/
structure SimpleKey where
  possible : Bool := false
  /-- The place is the beginning of a line of a block mapping: only a key can stand there. -/
  required : Bool := false
  /-- The number of the sign that the key would begin with. -/
  number : Nat := 0
  mark : Mark := {}

/-- The state of the scan. -/
structure Scanner where
  cursor : Cursor
  started : Bool := false
  tokens : List Token := []
  /-- The signs handed out so far. -/
  taken : Nat := 0
  /-- The number of open flow collections. -/
  flow : Nat := 0
  /-- The column of the block collection around the cursor; -1 outside all. -/
  indent : Int := -1
  indents : List Int := []
  /-- A key without indicator may begin here. -/
  keyAllowed : Bool := true
  /-- The candidate of each flow level, innermost first. -/
  keys : List SimpleKey := [{}]

namespace Scanner

/-- Adds a sign behind all others. -/
def enqueue (s : Scanner) (kind : Token.Kind) (start stop : Mark) : Scanner :=
  { s with tokens := s.tokens ++ [⟨kind, start, stop⟩] }

/-- Puts a sign in front of the one with this number. -/
def insert (s : Scanner) (number : Nat) (token : Token) : Scanner :=
  let before := number - s.taken
  { s with tokens := s.tokens.take before ++ token :: s.tokens.drop before }

/-- Gives up every candidate on an earlier line or more than 1024 characters back. -/
def expireKeys (s : Scanner) : Except Malformed Scanner := do
  let here := s.cursor.mark
  let keys ← s.keys.mapM fun key =>
    if key.possible && (key.mark.line < here.line || key.mark.index + 1024 < here.index) then
      if key.required then s.cursor.fault "could not find expected ':'"
      else .ok { key with possible := false }
    else .ok key
  return { s with keys }

/-- Gives up the candidate of the innermost flow level. -/
def dropKey (s : Scanner) : Except Malformed Scanner :=
  match s.keys with
  | key :: keys =>
    if key.possible && key.required then s.cursor.fault "could not find expected ':'"
    else .ok { s with keys := { key with possible := false } :: keys }
  | [] => .ok s

/-- Makes the cursor the candidate of the innermost flow level. -/
def saveKey (s : Scanner) : Except Malformed Scanner :=
  if s.keyAllowed then do
    let s ← s.dropKey
    let required := s.flow == 0 && s.indent == s.cursor.mark.column
    let key : SimpleKey := ⟨true, required, s.taken + s.tokens.length, s.cursor.mark⟩
    return { s with keys := key :: s.keys.drop 1 }
  else .ok s

/-- Opens a block collection at a column to the right of the current one, in front of the sign
with this number or behind all signs. -/
def openBlock (s : Scanner) (column : Nat) (number : Option Nat) (kind : Token.Kind)
    (mark : Mark) : Scanner :=
  if s.flow == 0 && s.indent < column then
    let s := { s with indents := s.indent :: s.indents, indent := column }
    match number with
    | none => s.enqueue kind mark mark
    | some number => s.insert number ⟨kind, mark, mark⟩
  else s

/-- Closes the block collections to the right of a column. -/
def closeBlocks (s : Scanner) (column : Int) : Scanner :=
  if s.flow != 0 then s
  else
    let rec close (s : Scanner) : List Int → Scanner
      | [] => s
      | outer :: indents =>
        if column < s.indent then
          let s := s.enqueue .blockEnd s.cursor.mark s.cursor.mark
          close { s with indent := outer, indents } indents
        else s
    close s s.indents

/-- Passes blanks, comments and line breaks up to the next sign. -/
def toNextToken : Nat → Scanner → Scanner
  | 0, s => s
  | fuel + 1, s =>
    let c := s.cursor
    let c := if c.mark.index == 0 && c.sees '\ufeff' then c.skip else c
    let tabs := s.flow != 0 || !s.keyAllowed
    let (_, c) := c.span fun x => x == ' ' || (tabs && x == '\t')
    let c := if c.sees '#' then (c.span fun x => !isBreak x).2 else c
    if c.atBreak then
      toNextToken fuel
        { s with cursor := c.skipBreak, keyAllowed := s.keyAllowed || s.flow == 0 }
    else { s with cursor := c }

/-- Takes an indicator of `width` characters. -/
def indicator (s : Scanner) (kind : Token.Kind) (width : Nat := 1) : Scanner :=
  let start := s.cursor.mark
  let s := { s with cursor := s.cursor.skip width }
  s.enqueue kind start s.cursor.mark

/-- Ends all block collections, the stream or a document. -/
def endBlocks (s : Scanner) : Except Malformed Scanner := do
  let s ← (s.closeBlocks (-1)).dropKey
  return { s with keyAllowed := false }

/-- Finds the end of the stream. -/
def fetchEnd (s : Scanner) : Except Malformed Scanner := do
  let mark := s.cursor.mark
  let mark := if mark.column == 0 then mark else ⟨mark.index, mark.line + 1, 0⟩
  let s ← { s with cursor := { s.cursor with mark } }.endBlocks
  return s.enqueue .streamEnd mark mark

/-- Finds a directive. -/
def fetchDirective (s : Scanner) : Except Malformed Scanner := do
  let s ← s.endBlocks
  let start := s.cursor.mark
  let (kind, stop, cursor) ← directive s.cursor
  return { s with cursor }.enqueue kind start stop

/-- Finds the beginning of a flow collection. -/
def fetchFlowStart (s : Scanner) (kind : Token.Kind) : Except Malformed Scanner := do
  let s ← s.saveKey
  return { s with keys := {} :: s.keys, flow := s.flow + 1, keyAllowed := true }.indicator kind

/-- Finds the end of a flow collection. -/
def fetchFlowEnd (s : Scanner) (kind : Token.Kind) : Except Malformed Scanner := do
  let s ← s.dropKey
  let s := if s.flow == 0 then s else { s with flow := s.flow - 1, keys := s.keys.drop 1 }
  return { s with keyAllowed := false }.indicator kind

/-- Finds an entry of a flow collection. -/
def fetchFlowEntry (s : Scanner) : Except Malformed Scanner := do
  let s ← s.dropKey
  return { s with keyAllowed := true }.indicator .flowEntry

/-- Finds an entry of a block sequence. -/
def fetchBlockEntry (s : Scanner) : Except Malformed Scanner := do
  let mark := s.cursor.mark
  if s.flow == 0 && !s.keyAllowed then
    s.cursor.fault "block sequence entries are not allowed in this context"
  else
    let s := s.openBlock mark.column none .blockSequenceStart mark
    let s ← s.dropKey
    return { s with keyAllowed := true }.indicator .blockEntry

/-- Finds a key with its indicator. -/
def fetchKey (s : Scanner) : Except Malformed Scanner := do
  let mark := s.cursor.mark
  if s.flow == 0 && !s.keyAllowed then
    s.cursor.fault "mapping keys are not allowed in this context"
  else
    let s := s.openBlock mark.column none .blockMappingStart mark
    let s ← s.dropKey
    return { s with keyAllowed := s.flow == 0 }.indicator .key

/-- Finds a value; a candidate before it becomes a key. -/
def fetchValue (s : Scanner) : Except Malformed Scanner :=
  let mark := s.cursor.mark
  match s.keys with
  | ⟨true, required, number, start⟩ :: keys =>
    let s := s.insert number ⟨.key, start, start⟩
    let s := s.openBlock start.column (some number) .blockMappingStart start
    let s := { s with keys := ⟨false, required, number, start⟩ :: keys, keyAllowed := false }
    .ok (s.indicator .value)
  | _ =>
    if s.flow == 0 && !s.keyAllowed then
      s.cursor.fault "mapping values are not allowed in this context"
    else
      let s := s.openBlock mark.column none .blockMappingStart mark
      .ok ({ s with keyAllowed := s.flow == 0 }.indicator .value)

/-- Finds an anchor or an alias. -/
def fetchAnchor (s : Scanner) (kind : String → Token.Kind) : Except Malformed Scanner := do
  let s ← s.saveKey
  let start := s.cursor.mark
  let (name, cursor) ← anchorName s.cursor.skip
  return { s with cursor, keyAllowed := false }.enqueue (kind name) start cursor.mark

/-- Finds a tag. -/
def fetchTag (s : Scanner) : Except Malformed Scanner := do
  let s ← s.saveKey
  let start := s.cursor.mark
  let (handle, suffix, cursor) ← tagProperty (s.flow != 0) s.cursor
  return { s with cursor, keyAllowed := false }.enqueue (.tag handle suffix) start cursor.mark

/-- Finds a block scalar. -/
def fetchBlockScalar (s : Scanner) (literal : Bool) : Except Malformed Scanner := do
  let s ← s.dropKey
  let start := s.cursor.mark
  let (text, stop, cursor) ← blockScalar literal s.indent s.cursor.skip
  let style := if literal then Style.literal else .folded
  return { s with cursor, keyAllowed := true }.enqueue (.scalar text style) start stop

/-- Finds a quoted scalar. -/
def fetchQuoted (s : Scanner) (single : Bool) : Except Malformed Scanner := do
  let s ← s.saveKey
  let start := s.cursor.mark
  let (text, cursor) ← quotedScalar single (s.cursor.rest.length + 1) "" s.cursor.skip
  let style := if single then Style.singleQuoted else .doubleQuoted
  return { s with cursor, keyAllowed := false }.enqueue (.scalar text style) start cursor.mark

/-- Finds a plain scalar. -/
def fetchPlain (s : Scanner) : Except Malformed Scanner := do
  let s ← s.saveKey
  let start := s.cursor.mark
  let plain ← plainScalar (s.flow != 0) (s.indent + 1) (s.cursor.rest.length + 1)
    ⟨"", start, s.cursor, false⟩ {}
  return { s with cursor := plain.rest, keyAllowed := plain.broken }.enqueue
    (.scalar plain.text .plain) start plain.stop

/-- The indicators that cannot begin a plain scalar. -/
def indicators : List Char :=
  ['-', '?', ':', ',', '[', ']', '\x7b', '\x7d', '#', '&', '*', '!', '|', '>', '\'', '"', '%',
    '@', '\x60']

/-- Whether a plain scalar can begin at the cursor. -/
def atPlain (s : Scanner) : Bool :=
  let c := s.cursor
  !(c.atGap || c.seesAny indicators)
    || (c.sees '-' && !c.atSpace 1)
    || (s.flow == 0 && (c.sees '?' || c.sees ':') && !c.atGap 1)

/-- Finds the next sign and puts it behind all others. -/
def fetch (s : Scanner) : Except Malformed Scanner := do
  if !s.started then
    return { s with started := true }.enqueue .streamStart s.cursor.mark s.cursor.mark
  let s := toNextToken (s.cursor.rest.length + 1) s
  let s ← s.expireKeys
  let s := s.closeBlocks s.cursor.mark.column
  let c := s.cursor
  match c.peek with
  | none => s.fetchEnd
  | some x =>
    if c.mark.column == 0 && x == '%' then s.fetchDirective
    else if c.atDocument '-' then return (← s.endBlocks).indicator .documentStart 3
    else if c.atDocument '.' then return (← s.endBlocks).indicator .documentEnd 3
    else if x == '[' then s.fetchFlowStart .flowSequenceStart
    else if x == '\x7b' then s.fetchFlowStart .flowMappingStart
    else if x == ']' then s.fetchFlowEnd .flowSequenceEnd
    else if x == '\x7d' then s.fetchFlowEnd .flowMappingEnd
    else if x == ',' then s.fetchFlowEntry
    else if x == '-' && c.atGap 1 then s.fetchBlockEntry
    else if x == '?' && (s.flow != 0 || c.atGap 1) then s.fetchKey
    else if x == ':' && (s.flow != 0 || c.atGap 1) then s.fetchValue
    else if x == '*' then s.fetchAnchor .reference
    else if x == '&' then s.fetchAnchor .anchor
    else if x == '!' then s.fetchTag
    else if x == '|' && s.flow == 0 then s.fetchBlockScalar true
    else if x == '>' && s.flow == 0 then s.fetchBlockScalar false
    else if x == '\'' then s.fetchQuoted true
    else if x == '"' then s.fetchQuoted false
    else if s.atPlain then s.fetchPlain
    else c.fault "found character that cannot start any token"

/-- The next sign is not settled yet: there is none, or it may still become a key. -/
def unsettled (s : Scanner) : Bool :=
  s.tokens.isEmpty || s.keys.any fun key => key.possible && key.number == s.taken

/-- Finds signs until the next one is settled. -/
def settle : Nat → Scanner → Except Malformed Scanner
  | 0, s => .ok s
  | fuel + 1, s => do
    let s ← if s.tokens.isEmpty then .ok s else s.expireKeys
    if s.unsettled then settle fuel (← s.fetch) else return s

/-- The next sign. -/
def next (s : Scanner) : Except Malformed (Token × Scanner) := do
  let s ← settle (s.cursor.rest.length + 4) s
  match s.tokens with
  | token :: _ => return (token, s)
  | [] => s.cursor.fault "did not find expected token"

/-- Hands out the next sign. -/
def take (s : Scanner) : Scanner :=
  { s with tokens := s.tokens.drop 1, taken := s.taken + 1 }

/-- The scanner of a stream. -/
def ofChars (text : List Char) : Scanner :=
  { cursor := ⟨text, {}⟩ }

end Scanner

end Scaffold.Yaml

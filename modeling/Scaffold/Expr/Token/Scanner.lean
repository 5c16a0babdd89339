import Scaffold.Expr.Token
import Scaffold.Text.Blank

/-!
# Scanner — a template as a list of signs

Text runs up to an opening sign. A hyphen inside an opening or closing sign takes the blanks on
its outer side away. The list ends at the end of the template or at the first place where no sign
can be read.
-/

set_option autoImplicit false

namespace Scaffold.Expr

/-- What an opening or closing sign does to the blanks outside of it. -/
inductive Margin
  | keep
  | strip
  deriving DecidableEq

/-- The margin that a character announces, and the characters it takes. -/
def Margin.read : List Char → Margin × List Char
  | '-' :: rest => (.strip, rest)
  | '+' :: rest => (.keep, rest)
  | rest => (.keep, rest)

/-- The kinds of opening signs. -/
inductive Opening
  | value
  | block
  | comment
  deriving DecidableEq

/-- Text up to the next opening sign, that sign with its margin, and what follows. -/
def cutText : List Char → List Char × Option (Opening × Margin × List Char)
  | '\x7b' :: c :: rest =>
    let opened (opening : Opening) :=
      let (margin, rest) := Margin.read rest
      ([], some (opening, margin, rest))
    if c == '\x7b' then opened .value
    else if c == '%' then opened .block
    else if c == '#' then opened .comment
    else
      let (text, next) := cutText (c :: rest)
      ('\x7b' :: text, next)
  | c :: rest =>
    let (text, next) := cutText rest
    (c :: text, next)
  | [] => ([], none)

/-- What stands between a comment's signs is skipped; the margin behind it and what follows. -/
def skipComment (previous : Char) : List Char → Option (Margin × List Char)
  | '#' :: '\x7d' :: rest => some (if previous == '-' then .strip else .keep, rest)
  | c :: rest => skipComment c rest
  | [] => none

/-- A tag of one word behind its opening sign: the margin of its closing sign and what follows. -/
def skipTag? (word : String) (text : List Char) : Option (Margin × List Char) := do
  let text := text.dropWhile isGap
  let text ← word.toList.isPrefixOf? text
  let (margin, text) := Margin.read (text.dropWhile isGap)
  match text with
  | '%' :: '\x7d' :: rest => some (margin, rest)
  | _ => none

/-- Raw text up to its end tag: the text, the margins on both sides of the tag, what follows. -/
def cutRaw : List Char → Option (List Char × Margin × Margin × List Char)
  | [] => none
  | c :: rest =>
    let ended? : Option (Margin × Margin × List Char) :=
      match c, rest with
      | '\x7b', '%' :: tag =>
        let (before, tag) := Margin.read tag
        (skipTag? "endraw" tag).map fun (after, rest) => (before, after, rest)
      | _, _ => none
    match ended? with
    | some (before, after, rest) => some ([], before, after, rest)
    | none => (cutRaw rest).map fun (text, margins) => (c :: text, margins)

/-- Where the scan stands. -/
inductive ScanMode
  | text
  | value
  | block
  deriving DecidableEq

/-- A closing sign at the head of the text: its margin and what follows. -/
def closing? (mode : ScanMode) (text : List Char) : Option (Margin × List Char) :=
  let first := if mode = .block then '%' else '\x7d'
  let ended (margin : Margin) : List Char → Option (Margin × List Char)
    | c :: '\x7d' :: rest => if c = first then some (margin, rest) else none
    | _ => none
  match text with
  | '-' :: rest => ended .strip rest
  | '+' :: rest => ended .keep rest
  | text => ended .keep text

/-- One sign of an expression: the sign, how it changes the number of open brackets, and what
follows. -/
def scanSign (text : List Char) : Except (Failure.Kind × Bool) (Token × Int × List Char) :=
  match text with
  | [] => .error (.malformed, true)
  | c :: rest =>
    match doubleSigns.find? (·.isPrefixOf text) with
    | some sign => .ok (.punctuation (String.ofList sign), 0, text.drop 2)
    | none =>
      if singleSigns.contains c then .ok (.punctuation (String.singleton c), nesting c, rest)
      else if c == '\'' || c == '"' then
        match quotedPart c rest with
        | none => .error (.malformed, true)
        | some (inner, rest) =>
          match unescape inner with
          | none => .error (.badEscape, false)
          | some value => .ok (.string (String.ofList value), 0, rest)
      else if c.isDigit then
        let (part, body) := announcedBase text
        let (digits, last, rest) := numberSpan part body
        match numberToken? digits last with
        | some token => .ok (token, 0, rest)
        | none => .error (.malformed, true)
      else if isNameStart c then
        .ok (.name (String.ofList (text.takeWhile isNamePart)), 0, text.dropWhile isNamePart)
      else .error (.malformed, true)

/-- The state of a scan. -/
structure Scan where
  mode : ScanMode := .text
  /-- The blanks at the head of the next text are dropped. -/
  strip : Bool := false
  brackets : Int := 0
  line : Nat := 1

/-- The signs from a place on. -/
def scanFrom : Nat → Scan → List Char → List Lexeme
  | 0, _, _ => []
  | _, _, [] => []
  | fuel + 1, scan, c :: text =>
    let text := c :: text
    let line := scan.line
    let lineAt (rest : List Char) : Nat := line + lineEnds (text.take (text.length - rest.length))
    match scan.mode with
    | .text =>
      let text := if scan.strip then Text.trimStart text else text
      let start := lineAt text
      let (lead, next) := cutText text
      let lexeme (lead : List Char) : List Lexeme :=
        if lead.isEmpty then [] else [.token (.text (String.ofList lead)) start]
      match next with
      | none => lexeme lead
      | some (opening, margin, rest) =>
        let lead' := if margin = .strip then Text.trimEnd lead else lead
        let here := start + lineEnds lead
        lexeme lead' ++
          match opening with
          | .comment =>
            match skipComment ' ' rest with
            | none => [.fault .malformed (some (lineAt []))]
            | some (margin, rest) =>
              scanFrom fuel { scan with strip := margin = .strip, line := lineAt rest } rest
          | .value =>
            .token .openValue here ::
              scanFrom fuel { scan with mode := .value, strip := false, line := here } rest
          | .block =>
            match skipTag? "raw" rest with
            | none =>
              .token .openBlock here ::
                scanFrom fuel { scan with mode := .block, strip := false, line := here } rest
            | some (inner, rest) =>
              match cutRaw rest with
              | none => [.fault .malformed (some (lineAt []))]
              | some (raw, before, after, rest') =>
                let raw := if inner = .strip then Text.trimStart raw else raw
                let raw := if before = .strip then Text.trimEnd raw else raw
                .token (.text (String.ofList raw)) (lineAt rest) ::
                  scanFrom fuel { scan with strip := after = .strip, line := lineAt rest' } rest'
    | mode =>
      let text := text.dropWhile isGap
      let start := lineAt text
      if text.isEmpty then []
      else
        match if scan.brackets = 0 then closing? mode text else none with
        | some (margin, rest) =>
          .token (if mode = .block then .closeBlock else .closeValue) start ::
            scanFrom fuel { scan with mode := .text, strip := margin = .strip, line := start } rest
        | none =>
          match scanSign text with
          | .error (kind, here) => [.fault kind (if here then some start else none)]
          | .ok (token, change, rest) =>
            .token token start ::
              scanFrom fuel { scan with brackets := scan.brackets + change, line := lineAt rest }
                rest

/-- The signs of a template. -/
def scan (template : String) : List Lexeme :=
  let text := template.toList
  scanFrom (text.length + 1) {} text

end Scaffold.Expr

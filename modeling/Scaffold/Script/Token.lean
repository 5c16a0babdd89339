import Scaffold.Occurrences
import Scaffold.Script.Quoting
import Scaffold.Script.Tree

/-!
# Token — words and signs of a script

Quotes, escapes and expansions belong to words; what stands between words are signs. Some signs and
some forms of words are those of the extended shell alone.
-/

set_option autoImplicit false

namespace Scaffold.Script

/-- A token. -/
inductive Token
  /-- A word; the text is given where nothing of it is quoted or expanded. -/
  | word (word : Word) (bare : Option String)
  /-- Several values for a variable. -/
  | row (lead : Word) (values : List Word)
  | sign (text : String)
  /-- The sign of a redirection, with the number of the stream if it is given. -/
  | redirect (stream : Option Nat) (text : String)
  /-- The text between double round brackets. -/
  | calculation (text : String)
  /-- The tokens between double square brackets. -/
  | condition (tokens : List Token)
  /-- A quote or bracket that is left open, with the sign that is missing; an opening bracket stands
  for two closing ones. -/
  | unclosed (sign : Char)
  /-- The end of the script. -/
  | finish
  deriving Repr

/-- Tokens, each with its line. -/
abbrev Tokens := List (Token × Nat)

/-- The character ends a word. -/
def endsWord (c : Char) : Bool :=
  [' ', '\t', '\n', ';', '&', '|', '<', '>', '(', ')'].contains c

/-- The character begins a name. -/
def startsName (c : Char) : Bool := c.isAlpha || c == '_'

/-- The character continues a name. -/
def continuesName (c : Char) : Bool := c.isAlphanum || c == '_'

/-- The text is a name. -/
def isName (text : List Char) : Bool :=
  text.head?.any startsName && text.all continuesName

/-! ## Brackets -/

/-- The signs that close what is open behind a character, the innermost first; `before` is the
character in front of it if that is a backslash or a dollar sign, and `quoted` tells that all of it
stands between double quotes. -/
def reopened (quoted : Bool) (before : Option Char) (c : Char) : List Char → List Char
  | [] => []
  | top :: outer =>
    let around := outer.head?.getD (if quoted then '"' else ' ')
    let isPlain := top == '"' || (top == '\x7d' && around == '"')
    if before == some '\\' then top :: outer
    else if c == top then outer
    else if top == '\'' then top :: outer
    else if c == '\'' then if isPlain then top :: outer else '\'' :: top :: outer
    else if c == '"' || c == '\x60' then c :: top :: outer
    else if c == '(' && (before == some '$' || top == ')') then ')' :: top :: outer
    else if c == '[' && top == ']' then ']' :: top :: outer
    else if c == '\x7b' && before == some '$' then '\x7d' :: top :: outer
    else top :: outer

/-- What stands in front of the sign that closes the outermost of what is open, and what follows
it. -/
def closingFrom (quoted : Bool) (open_ : List Char) (before : Option Char) :
    List Char → Option (List Char × List Char)
  | [] => none
  | c :: rest =>
    match reopened quoted before c open_ with
    | [] => some ([], rest)
    | open' =>
      let isMark := (c == '\\' && open'.head? != some '\'') || c == '$'
      let before := if isMark && before != some '\\' then some c else none
      (closingFrom quoted open' before rest).map fun (inner, rest) => (c :: inner, rest)

/-- What stands in front of the sign that closes, and what follows it. -/
def closing (sign : Char) (text : List Char) (quoted : Bool := false) :
    Option (List Char × List Char) :=
  closingFrom quoted [sign] none text

/-- What stands in front of the first place where a character is neither quoted nor between
brackets, and what follows it, if there is such a place. -/
def cutOutside (stop : Char) : List Char → List Char × Option (List Char)
  | [] => ([], none)
  | '\\' :: c :: rest =>
    let (front, behind) := cutOutside stop rest
    ('\\' :: c :: front, behind)
  | c :: rest =>
    if c = stop then ([], some rest)
    else
      let (front, behind) := cutOutside stop rest
      (c :: front, behind)

/-- What stands in front of a character, and what follows it. -/
def cutAt (stop : Char) : List Char → Option (List Char × List Char)
  | [] => none
  | c :: rest =>
    if c = stop then some ([], rest) else (cutAt stop rest).map fun (a, b) => (c :: a, b)

/-- What stands in front of a single quote that has no backslash in front, and what follows it. -/
def cutEscaped : List Char → Option (List Char × List Char)
  | [] => none
  | '\\' :: c :: rest => (cutEscaped rest).map fun (a, b) => ('\\' :: c :: a, b)
  | c :: rest =>
    if c = '\'' then some ([], rest) else (cutEscaped rest).map fun (a, b) => (c :: a, b)

/-! ## Parameters -/

/-- The signs that name states of the shell. -/
def stateSigns : List Char := ['?', '$', '#', '@', '*', '!', '-']

/-- The name of a parameter that a text begins with, and what follows it. -/
def parameterName (text : List Char) : List Char × List Char :=
  match text with
  | [] => ([], [])
  | c :: rest =>
    if startsName c then (text.takeWhile continuesName, text.dropWhile continuesName)
    else if c.isDigit then (text.takeWhile Char.isDigit, text.dropWhile Char.isDigit)
    else if stateSigns.contains c then ([c], rest)
    else ([], text)

/-- A parameter that a text begins with, and what follows it. -/
def readParameter (text : List Char) : Option (Parameter × List Char) :=
  match parameterName text with
  | ([], _) => none
  | (name, '[' :: rest) =>
    match cutAt ']' rest with
    | some (place, rest) =>
      some ({ name := String.ofList name, place := some (String.ofList place) }, rest)
    | none => none
  | (name, rest) => some ({ name := String.ofList name }, rest)

/-- The change that a text behind a parameter tells. -/
def readChange (text : List Char) : Option Change :=
  let trim (atEnd longest : Bool) (rest : List Char) : Change :=
    .trim atEnd longest (String.ofList rest)
  let replace (extent : Extent) (rest : List Char) : Change :=
    let (lead, rest) := match extent, rest with
      | .everywhere, '/' :: rest => (['/'], rest)
      | _, rest => ([], rest)
    let (pattern, behind) := cutOutside '/' rest
    .replace extent (String.ofList (lead ++ pattern)) (String.ofList (behind.getD []))
  let recase (kind : LetterChange) (everywhere : Bool) (rest : List Char) : Option Change :=
    some (.recase kind everywhere (String.ofList rest))
  match text with
  | [] => some .keep
  | ':' :: rest =>
    match rest with
    | '-' :: rest => some (.absent '-' true (String.ofList rest))
    | '=' :: rest => some (.absent '=' true (String.ofList rest))
    | '?' :: rest => some (.absent '?' true (String.ofList rest))
    | '+' :: rest => some (.absent '+' true (String.ofList rest))
    | rest =>
      let (start, length) := cutOutside ':' rest
      some (.slice (String.ofList start) (length.map String.ofList))
  | '-' :: rest => some (.absent '-' false (String.ofList rest))
  | '=' :: rest => some (.absent '=' false (String.ofList rest))
  | '?' :: rest => some (.absent '?' false (String.ofList rest))
  | '+' :: rest => some (.absent '+' false (String.ofList rest))
  | '%' :: '%' :: rest => some (trim true true rest)
  | '%' :: rest => some (trim true false rest)
  | '#' :: '#' :: rest => some (trim false true rest)
  | '#' :: rest => some (trim false false rest)
  | '/' :: '/' :: rest => some (replace .everywhere rest)
  | '/' :: '#' :: rest => some (replace .start rest)
  | '/' :: '%' :: rest => some (replace .finish rest)
  | '/' :: rest => some (replace .first rest)
  | '^' :: '^' :: rest => recase .capital true rest
  | '^' :: rest => recase .capital false rest
  | ',' :: ',' :: rest => recase .small true rest
  | ',' :: rest => recase .small false rest
  | '~' :: '~' :: rest => recase .swapped true rest
  | '~' :: rest => recase .swapped false rest
  | ['@', c] => if "QUuLEAaPK".toList.contains c then some (.shown c) else none
  | _ => none

/-- What stands between braces. -/
def readBraces (text : List Char) (quoted : Bool) : Piece :=
  let wrong : Piece := .wrong (String.ofList text)
  let plain (text : List Char) (isIndirect : Bool) : Piece :=
    match readParameter text with
    | none => wrong
    | some (p, rest) =>
      match readChange rest with
      | some change => .parameter { p with isIndirect } change quoted
      | none => wrong
  match text with
  | '#' :: c :: rest =>
    match readParameter (c :: rest) with
    | some (p, []) => .size p quoted
    | _ => plain text false
  | '!' :: c :: rest =>
    match readParameter (c :: rest) with
    | some (⟨name, some "@", _⟩, []) | some (⟨name, some "*", _⟩, []) => .places name quoted
    | some (⟨name, none, _⟩, ['*']) => .names name true quoted
    | some (⟨name, none, _⟩, ['@']) => .names name false quoted
    | some _ => plain (c :: rest) true
    | none => plain text false
  | text => plain text false

/-! ## Words -/

/-- Where the pieces of a word are read. -/
inductive Surroundings
  /-- Among the words of a command. -/
  | bare
  /-- Behind a sign that is followed by an expression, which only blanks end. -/
  | expression
  /-- Between braces. -/
  | braces
  /-- Between double quotes. -/
  | quotes
  /-- Between braces that stand between double quotes. -/
  | quotedBraces
  /-- In lines that are an input. -/
  | lines
  deriving DecidableEq

/-- Everything is quoted there. -/
def Surroundings.isQuoted : Surroundings → Bool
  | .bare | .expression | .braces => false
  | .quotes | .quotedBraces | .lines => true

/-- The character ends the pieces. -/
def Surroundings.ends : Surroundings → Char → Bool
  | .bare, c => endsWord c
  | .expression, c => c == ' ' || c == '\t' || c == '\n'
  | .quotes, c => c == '"'
  | .braces, _ | .quotedBraces, _ | .lines, _ => false

/-- The calculation in front of two brackets that close it, and what follows them; a single bracket
that closes nothing is part of it. -/
def closingTwice : Nat → List Char → Option (List Char × List Char)
  | 0, _ => none
  | fuel + 1, text =>
    match closing ')' text with
    | some (inner, ')' :: rest) => some (inner, rest)
    | some (inner, rest) =>
      (closingTwice fuel rest).map fun (more, rest) => (inner ++ ')' :: more, rest)
    | none => none

/-- What a dollar sign stands for with what follows it; the sign that is missing if something is
left open. -/
def readDollar (isBash : Bool) (text : List Char) (quoted : Bool) : Except Char (Piece × List Char) :=
  let output (text : List Char) : Except Char (Piece × List Char) :=
    match closing ')' text with
    | some (script, rest) => .ok (.output (String.ofList script) quoted, rest)
    | none => .error ')'
  match text with
  | '(' :: '(' :: rest =>
    if !isBash then
      match closingTwice rest.length rest with
      | some (text, rest) => .ok (.calculation (String.ofList text) quoted, rest)
      | none => .error '('
    else
    match closing ')' rest with
    | some (text, ')' :: rest) => .ok (.calculation (String.ofList text) quoted, rest)
    | _ =>
      match output ('(' :: rest) with
      | .ok result => .ok result
      | .error _ => .error '('
  | '(' :: rest => output rest
  | '[' :: rest =>
    if !isBash then .ok (.text "$" quoted, text)
    else
      match closing ']' rest with
      | some (text, rest) => .ok (.calculation (String.ofList text) quoted, rest)
      | none => .error ']'
  | '\x7b' :: rest =>
    match closing '\x7d' rest quoted with
    | some (inner, rest) => .ok (readBraces inner quoted, rest)
    | none => .error '\x7d'
  | c :: rest =>
    if c.isDigit then .ok (.parameter { name := String.singleton c } .keep quoted, rest)
    else
      match parameterName text with
      | ([], _) => .ok (.text "$" quoted, text)
      | (name, rest) => .ok (.parameter { name := String.ofList name } .keep quoted, rest)
  | [] => .ok (.text "$" quoted, [])

/-- The script between back quotes: a backslash in front of one, of a dollar sign or of another
backslash is not part of it, nor one in front of a double quote where the script stands between
double quotes. -/
def backquoted (quoted : Bool) : List Char → List Char
  | '\\' :: c :: rest =>
    if ['\x60', '\\', '$'].contains c || (quoted && c == '"') then c :: backquoted quoted rest
    else '\\' :: c :: backquoted quoted rest
  | c :: rest => c :: backquoted quoted rest
  | [] => []

/-- A piece that a text begins with, in front of what follows it. -/
def readPiece (isBash : Bool) (place : Surroundings) (c : Char) (rest : List Char)
    (inQuotes : List Char → Except Char (Word × List Char)) : Except Char (Word × List Char) :=
  let quoted := place.isQuoted
  let one (text : List Char) (quoted : Bool) (rest : List Char) : Except Char (Word × List Char) :=
    .ok ([.text (String.ofList text) quoted], rest)
  let dollar (rest : List Char) : Except Char (Word × List Char) := do
    let (piece, rest) ← readDollar isBash rest quoted
    return ([piece], rest)
  match c with
  | '\\' =>
    match rest with
    | [] => one ['\\'] quoted []
    | '\n' :: rest => .ok ([], rest)
    | d :: rest =>
      if !quoted then one [d] true rest
      else if ['\\', '$', '\x60'].contains d || (d == '"' && place != .lines)
          || (d == '\x7d' && place == .quotedBraces) then
        one [d] true rest
      else one ['\\', d] true rest
  | '$' =>
    match rest with
    | '\'' :: more =>
      if isBash && !quoted then
        match cutEscaped more with
        | some (text, rest) => one (Escapes.word text).toList true rest
        | none => .error '\''
      else dollar rest
    | '"' :: _ => if isBash && !quoted then .ok ([], rest) else dollar rest
    | _ => dollar rest
  | '\x60' =>
    match closing '\x60' rest with
    | some (script, rest) => .ok ([.output (String.ofList (backquoted quoted script)) quoted], rest)
    | none => .error '\x60'
  | '\'' =>
    if quoted then one [c] true rest
    else
      match cutAt '\'' rest with
      | some (text, rest) => one text true rest
      | none => .error '\''
  | '"' =>
    if place == .lines then one [c] true rest
    else if quoted then .ok ([], rest)
    else do
      let (pieces, rest) ← inQuotes rest
      match rest with
      | _ :: rest => return (if pieces.isEmpty then [.text "" true] else pieces, rest)
      | [] => .error '"'
  | c => one [c] quoted rest

/-- The pieces of a word between double quotes, up to the quote that ends them. -/
def readQuoted (isBash : Bool) : Nat → List Char → Except Char (Word × List Char)
  | 0, _ => .error '"'
  | _, [] => .error '"'
  | fuel + 1, c :: rest =>
    if c == '"' then .ok ([], c :: rest)
    else do
      let (lead, rest) ← readPiece isBash .quotes c rest (fun _ => .error '"')
      let (pieces, rest) ← readQuoted isBash fuel rest
      return (lead ++ pieces, rest)

/-- The pieces of a word, and what follows it. -/
def readWord (isBash : Bool) (place : Surroundings) : Nat → List Char →
    Except Char (Word × List Char)
  | 0, _ => .error '"'
  | _, [] => .ok ([], [])
  | fuel + 1, c :: rest =>
    if place.ends c then .ok ([], c :: rest)
    else do
      let (lead, rest) ← readPiece isBash place c rest (readQuoted isBash (rest.length + 1))
      let (pieces, rest) ← readWord isBash place fuel rest
      return (lead ++ pieces, rest)

/-- The pieces of a whole text. -/
def wordOf (isBash : Bool) (place : Surroundings) (text : String) : Word :=
  match readWord isBash place (text.length + 1) text.toList with
  | .ok (w, _) => w
  | .error _ => [.text text true]

/-- The text of a word of which nothing is quoted or expanded. -/
def bareText (w : Word) : Option String :=
  let bare : Piece → Option String
    | .text text false => some text
    | _ => none
  (w.mapM bare).map String.join

/-! ## Assignments -/

/-- The place between square brackets, and what follows it. -/
def cutPlace : Word → Option (Word × Word)
  | [] => none
  | .text "]" false :: rest => some ([], rest)
  | piece :: rest => (cutPlace rest).map fun (place, rest) => (piece :: place, rest)

/-- What a word assigns to, whether the value is put behind the one that is there, and the value. -/
def assignment? (isBash : Bool) (w : Word) : Option Assignment :=
  let isLetter : Piece → Bool
    | .text text false => text.toList.all continuesName
    | _ => false
  let name := (bareText (w.takeWhile isLetter)).getD ""
  let valued (place : Option Word) : Word → Option Assignment
    | .text "=" false :: value => some { name, place, value := .one value }
    | .text "+" false :: .text "=" false :: value =>
      if isBash then some { name, place, isAppended := true, value := .one value } else none
    | _ => none
  if !isName name.toList then none
  else
    match w.dropWhile isLetter with
    | .text "[" false :: rest =>
      if isBash then (cutPlace rest).bind fun (place, rest) => valued (some place) rest else none
    | rest => valued none rest

/-- The word assigns nothing yet: its values follow between round brackets. -/
def awaitsRow (w : Word) : Bool :=
  match assignment? true w with
  | some { value := .one [], place := none, .. } => true
  | _ => false

/-! ## Tokens -/

/-- The signs, longer ones first. -/
def signs (isBash : Bool) : List String :=
  (if isBash then [";;&", ";&", "|&"] else [])
    ++ ["&&", "||", ";;", ";", "&", "|", "(", ")", "\n"]

/-- The signs of redirections, longer ones first. -/
def redirectSigns (isBash : Bool) : List String :=
  (if isBash then ["<<<", "&>>", "&>"] else [])
    ++ ["<<-", "<<", ">>", ">&", "<&", ">|", "<>", ">", "<"]

/-- The sign of a list that a text begins with. -/
def signOf? (list : List String) (text : List Char) : Option (String × List Char) :=
  list.findSome? fun s => (s.toList.isPrefixOf? text).map fun rest => (s, rest)

/-- The words that have a meaning at the head of a command. -/
def keywords : List String :=
  ["if", "then", "else", "elif", "fi", "for", "in", "do", "done", "while", "until", "case", "esac",
    "\x7b", "\x7d", "!"]

/-- The keywords of the extended shell. -/
def bashKeywords : List String := ["function", "time", "[[", "]]"]

/-- A command begins behind the token. -/
def Token.leads : Token → Bool
  | .sign _ => true
  | .word _ (some text) =>
    ["if", "then", "else", "elif", "do", "while", "until", "\x7b", "!", "time", "for"].contains text
  | _ => false

/-- The text of the lines up to the one that is the mark, without leading tabs where they do not
count; the number of lines with the mark; and what follows. Without a mark, the last line has no
end. -/
def cutLines (mark : List Char) (noTabs : Bool) : List (List Char) →
    List Char × Nat × List (List Char)
  | [] => ([], 0, [])
  | line :: rest =>
    let bare := if noTabs then line.dropWhile (· == '\t') else line
    if bare == mark then ([], 1, rest)
    else
      let (text, n, left) := cutLines mark noTabs rest
      (bare ++ (if rest.isEmpty then [] else '\n' :: text), n + 1, left)

/-- The text that a word is without its quotes, and whether it has any. -/
def markOf (w : Word) : List Char × Bool :=
  let one : Piece → String × Bool
    | .text text quoted => (text, quoted)
    | .parameter p _ _ => ("$" ++ p.name, false)
    | _ => ("", false)
  ((String.join (w.map fun p => (one p).1)).toList, w.any fun p => (one p).2)

/-- The input that lines give, a word, what follows on the line, and how many lines were taken; the
word is empty if there is no mark. -/
def readLines (isBash noTabs : Bool) (text : List Char) :
    Except Char (Word × List Char × Nat) := do
  let text := text.dropWhile fun c => c == ' ' || c == '\t'
  let (w, rest) ← readWord isBash .bare (text.length + 1) text
  if w.isEmpty then return ([], rest, 0)
  let (mark, isQuoted) := markOf w
  let line := rest.takeWhile (· != '\n')
  match rest.drop line.length with
  | [] => return ([.text "" true], line, 0)
  | _ :: behind =>
    let (input, count, rest) := cutLines mark noTabs (Occurrences.split ['\n'] behind)
    let w := if isQuoted then [.text (String.ofList input) true]
      else wordOf isBash .lines (String.ofList input)
    return (.text "" true :: w, line ++ '\n' :: ['\n'].intercalate rest, count)

/-- The tokens between double square brackets, and what follows them. -/
def conditionWithin : Nat → Bool → List Char → Except Char (List Token × List Char)
  | 0, _, _ | _, _, [] => .error ']'
  | fuel + 1, isExpression, c :: rest =>
    if c == ' ' || c == '\t' || c == '\n' then conditionWithin fuel isExpression rest
    else if isExpression then do
      let (w, rest) ← readWord true .expression (rest.length + 2) (c :: rest)
      let (tokens, rest) ← conditionWithin fuel false rest
      return (.word w none :: tokens, rest)
    else
      match signOf? ["&&", "||", "(", ")", "<", ">"] (c :: rest) with
      | some (s, rest) => do
        let (tokens, rest) ← conditionWithin fuel false rest
        return (.sign s :: tokens, rest)
      | none => do
        let (w, rest) ← readWord true .bare (rest.length + 2) (c :: rest)
        let bare := bareText w
        if bare = some "]]" then return ([], rest)
        let (tokens, rest) ← conditionWithin fuel (bare = some "=~") rest
        return (.word w bare :: tokens, rest)

/-- The values between round brackets, and what follows them. -/
def rowWithin : Nat → List Char → Except Char (List Word × List Char)
  | 0, _ | _, [] => .error ')'
  | fuel + 1, c :: rest =>
    if c == ' ' || c == '\t' || c == '\n' then rowWithin fuel rest
    else if c == ')' then .ok ([], rest)
    else do
      let (w, rest) ← readWord true .bare (rest.length + 2) (c :: rest)
      let (ws, rest) ← rowWithin fuel (if w.isEmpty then rest.drop 1 else rest)
      return (w :: ws, rest)

/-- A token that a text begins with, what follows it, and how many lines behind this one it took. -/
def readToken (isBash begins : Bool) (text : List Char) :
    Except Char (List Token × List Char × Nat) :=
  let digits := text.takeWhile Char.isDigit
  let stream := if digits.isEmpty then none else (String.ofList digits).toNat?
  let process : Option (List Char) := if isBash then "<(".toList.isPrefixOf? text else none
  match process, signOf? (redirectSigns isBash) (text.dropWhile Char.isDigit) with
  | some inner, _ =>
    match closing ')' inner with
    | some (script, rest) => .ok ([.word [.outputFile (String.ofList script)] none], rest, 0)
    | none => .error ')'
  | none, some (s, rest) =>
    if s == "<<" || s == "<<-" then do
      let (w, behind, lines) ← readLines isBash (s == "<<-") rest
      if w.isEmpty then return ([.redirect stream "<<"], rest, 0)
      return ([.redirect stream "<<", .word w none], behind, lines)
    else .ok ([.redirect stream s], rest, 0)
  | none, none =>
    match text, isBash && begins with
    | '(' :: '(' :: rest, true =>
      match closing ')' rest with
      | some (text, ')' :: rest) => .ok ([.calculation (String.ofList text)], rest, 0)
      | some _ => .ok ([.sign "("], '(' :: rest, 0)
      | none => .error '('
    | text, begins =>
      match signOf? (signs isBash) text with
      | some (s, rest) => .ok ([.sign s], rest, 0)
      | none => do
        let (w, rest) ← readWord isBash .bare (text.length + 1) text
        match rest, bareText w with
        | rest, some "[[" =>
          if begins then do
            let (tokens, rest) ← conditionWithin (rest.length + 1) false rest
            return ([.condition tokens], rest, 0)
          else return ([.word w (some "[[")], rest, 0)
        | '(' :: rest, bare =>
          if isBash && awaitsRow w then do
            let (values, rest) ← rowWithin (rest.length + 1) rest
            return ([.row w values], rest, 0)
          else return ([.word w bare], '(' :: rest, 0)
        | rest, bare => return ([.word w bare], rest, 0)

/-- The tokens of a script from a line on. `begins` tells that a command can begin, and `taken` how
many lines behind this one are an input. -/
def tokensWithin (isBash : Bool) : Nat → Nat → Nat → Bool → List Char → Tokens
  | 0, line, _, _, _ | _, line, _, _, [] => [(.finish, line)]
  | fuel + 1, line, taken, begins, c :: rest =>
    if c == ' ' || c == '\t' then tokensWithin isBash fuel line taken begins rest
    else if c == '#' then tokensWithin isBash fuel line taken begins (rest.dropWhile (· != '\n'))
    else
      match c, rest with
      | '\\', '\n' :: rest => tokensWithin isBash fuel (line + 1) taken begins rest
      | c, rest =>
        match readToken isBash begins (c :: rest) with
        | .error missing => [(.unclosed missing, line)]
        | .ok (found, behind, lines) =>
          let used := (c :: rest).take (rest.length + 1 - behind.length)
          let taken := taken + lines
          let (next, taken) :=
            if c == '\n' then (line + 1 + taken, 0)
            else if lines = 0 then (line + (used.filter (· == '\n')).length, taken)
            else (line, taken)
          found.map (·, line)
            ++ tokensWithin isBash fuel next taken (found.getLast?.any Token.leads) behind

/-- The tokens of a script. The last line of the extended shell always has an end. -/
def tokens (isBash : Bool) (script : String) : Tokens :=
  let cs := script.toList
  let isOpen := cs.getLast?.any fun c => c != '\n' && c != '\\'
  let cs := if isBash && isOpen then cs ++ ['\n'] else cs
  tokensWithin isBash (cs.length + 1) 1 0 true cs

end Scaffold.Script

/-!
## Braces — words that stand for several

In the extended shell a word with texts between braces stands for one word with each of the texts,
and one with the ends of a row of numbers or letters for one with each of these.
-/

namespace Scaffold.Script.Braces

/-- The words between commas up to the brace that closes, and what follows it. -/
def alternatives (depth : Nat) (word : Word) : Word → Option (List Word × Word)
  | [] => none
  | .text "\x7b" false :: rest =>
    alternatives (depth + 1) (word ++ [.text "\x7b" false]) rest
  | .text "\x7d" false :: rest =>
    match depth with
    | 0 => some ([word], rest)
    | d + 1 => alternatives d (word ++ [.text "\x7d" false]) rest
  | .text "," false :: rest =>
    match depth with
    | 0 => (alternatives 0 [] rest).map fun (words, rest) => (word :: words, rest)
    | d + 1 => alternatives (d + 1) (word ++ [.text "," false]) rest
  | piece :: rest => alternatives depth (word ++ [piece]) rest

/-- The numbers from one to another, in steps. -/
def numbers (first last : Int) (step : Nat) : List Int :=
  let step := max step 1
  let count := (last - first).natAbs / step + 1
  (List.range count).map fun n =>
    if first ≤ last then first + (n * step : Nat) else first - (n * step : Nat)

/-- A number with zeros in front of it. -/
def zeroed (width : Nat) (n : Int) : String :=
  let digits := toString n.natAbs
  let sign := if n < 0 then "-" else ""
  sign ++ String.ofList (List.replicate (width - digits.length - sign.length) '0') ++ digits

/-- The texts of a row that is given by its ends. -/
def row? (text : String) : Option (List String) :=
  let between (first last : String) (step : Nat) : Option (List String) :=
    match first.toInt?, last.toInt?, first.toList, last.toList with
    | some a, some b, _, _ =>
      let isZeroed (t : String) : Bool :=
        match t.toList with
        | '0' :: _ :: _ | '-' :: '0' :: _ => true
        | _ => false
      let width := if isZeroed first || isZeroed last then max first.length last.length else 0
      some ((numbers a b step).map (zeroed width))
    | _, _, [a], [b] =>
      if a.isAlpha && b.isAlpha then
        some ((numbers a.toNat b.toNat step).map fun n => String.singleton (Char.ofNat n.toNat))
      else none
    | _, _, _, _ => none
  match text.splitOn ".." with
  | [first, last] => between first last 1
  | [first, last, step] => step.toInt?.bind fun n => between first last n.natAbs
  | _ => none

/-- The words that a word stands for. -/
def expandWithin : Nat → Word → List Word
  | 0, w => [w]
  | _, [] => [[]]
  | fuel + 1, .text "\x7b" false :: rest =>
    let literal := (expandWithin fuel rest).map (.text "\x7b" false :: ·)
    match alternatives 0 [] rest with
    | none => literal
    | some ([one], behind) =>
      match (bareText one).bind row? with
      | some texts =>
        texts.flatMap fun t => (expandWithin fuel behind).map (.text t false :: ·)
      | none => literal
    | some (words, behind) =>
      words.flatMap fun w =>
        (expandWithin fuel w).flatMap fun front => (expandWithin fuel behind).map (front ++ ·)
  | fuel + 1, piece :: rest => (expandWithin fuel rest).map (piece :: ·)

/-- The words that a word stands for. -/
def expand (w : Word) : List Word := expandWithin (w.length + 1) w

end Scaffold.Script.Braces

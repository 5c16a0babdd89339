import Scaffold.Script.Token

/-!
# Reading — scripts as commands

The words that have a meaning are known only where a command can begin. A script that cannot be read
tells the token that cannot stand where it stands.
-/

set_option autoImplicit false

namespace Scaffold.Script

/-- Why a condition cannot be read. -/
inductive ConditionFault
  /-- There must be an operator between two operands. -/
  | noOperator
  /-- An operator lacks its operand. -/
  | noOperand (isUnary : Bool)
  | other
  deriving DecidableEq, Repr

/-- Why a script cannot be read. -/
inductive ReadFault
  /-- A quote or bracket is left open: this sign is missing. -/
  | missing (sign : Char) (line : Nat)
  /-- No command can go on with this token. -/
  | unexpected (token : Token) (line : Nat) (expected : Option String)
  /-- The variable of a loop has no name. -/
  | badName (line : Nat)
  /-- A command is given a name that is none. -/
  | badCommandName (line : Nat)
  /-- A condition goes wrong at a token. -/
  | badCondition (fault : ConditionFault) (near : String) (line : Nat)
  deriving Repr

/-- A part of a script and the tokens behind it. -/
abbrev Read (α : Type) := Tokens → Except ReadFault (α × Tokens)

/-- Fails at the first token. -/
def unexpected {α : Type} (ts : Tokens) (expected : Option String := none) : Except ReadFault α :=
  match ts with
  | (.unclosed sign, line) :: _ => .error (.missing sign line)
  | (t, line) :: _ => .error (.unexpected t line expected)
  | [] => .error (.unexpected .finish 1 expected)

/-- The keyword that tokens begin with. -/
def keyword? (isBash : Bool) : Tokens → Option String
  | (.word _ (some text), _) :: _ =>
    if keywords.contains text || (isBash && bashKeywords.contains text) then some text else none
  | _ => none

/-- Skips a keyword. -/
def expectKeyword (isBash : Bool) (text : String) (ts : Tokens) : Except ReadFault Tokens :=
  if keyword? isBash ts = some text then .ok (ts.drop 1) else unexpected ts text

/-- Skips line ends. -/
def skipLines : Tokens → Tokens
  | (.sign "\n", _) :: ts => skipLines ts
  | ts => ts

/-- The redirection of a sign. -/
def redirectOf (stream : Option Nat) (sign : String) (target : Word) : Redirect :=
  match sign with
  | ">" | ">|" => ⟨stream.getD 1, .write, target⟩
  | ">>" => ⟨stream.getD 1, .append, target⟩
  | "<" | "<>" => ⟨stream.getD 0, .read, target⟩
  | ">&" => ⟨stream.getD 1, .duplicate, target⟩
  | "<&" => ⟨stream.getD 0, .duplicate, target⟩
  | "<<" => ⟨stream.getD 0, .here, target⟩
  | "<<<" => ⟨stream.getD 0, .here, target ++ [.text "\n" true]⟩
  | "&>>" => ⟨3, .writeBoth, target⟩
  | _ => ⟨1, .writeBoth, target⟩

/-- A redirection, if there is one. -/
def readRedirect : Read (Option Redirect)
  | (.redirect stream sign, _) :: (.word target _, _) :: ts =>
    .ok (some (redirectOf stream sign target), ts)
  | (.redirect .., _) :: ts => unexpected ts
  | ts => .ok (none, ts)

/-- Redirections in a row. -/
def readRedirects : Nat → Read (List Redirect)
  | 0, ts => .ok ([], ts)
  | fuel + 1, ts => do
    match ← readRedirect ts with
    | (some r, ts) =>
      let (rs, ts) ← readRedirects fuel ts
      return (r :: rs, ts)
    | (none, ts) => return ([], ts)

/-- What a simple command is made of. -/
structure Parts where
  assignments : List Assignment := []
  words : List Word := []
  redirects : List Redirect := []

/-- Commands whose arguments may be assignments. -/
def declares (isBash : Bool) (w : Word) : Bool :=
  isBash && ["declare", "typeset", "local", "export", "readonly"].contains ((bareText w).getD "")

/-- A row as an assignment. -/
def rowAssignment? (lead : Word) (values : List Word) : Option Assignment :=
  (assignment? true lead).map fun a => { a with value := .several values }

/-- The parts of a simple command: assignments stand in front of the first word. -/
def readParts (isBash : Bool) : Nat → Bool → Bool → Read Parts
  | 0, _, _, ts => unexpected ts
  | fuel + 1, hasWord, mayAssign, ts => do
    match ← readRedirect ts with
    | (some r, ts) =>
      let (parts, ts) ← readParts isBash fuel hasWord mayAssign ts
      return ({ parts with redirects := r :: parts.redirects }, ts)
    | (none, (.word w _, _) :: rest) =>
      match if hasWord then none else assignment? isBash w with
      | some a =>
        let (parts, ts) ← readParts isBash fuel hasWord mayAssign rest
        return ({ parts with assignments := a :: parts.assignments }, ts)
      | none =>
        let (parts, ts) ← readParts isBash fuel true (mayAssign || declares isBash w) rest
        return ({ parts with words := w :: parts.words }, ts)
    | (none, (.row lead values, line) :: rest) =>
      match if hasWord && !mayAssign then none else rowAssignment? lead values with
      | some a =>
        let (parts, ts) ← readParts isBash fuel hasWord mayAssign rest
        return ({ parts with assignments := a :: parts.assignments }, ts)
      | none => unexpected ((.sign "(", line) :: rest)
    | (none, ts) => return ({}, ts)

/-- Words up to a sign. -/
def readWordList : Nat → Tokens → List Word × Tokens
  | 0, ts => ([], ts)
  | fuel + 1, (.word w _, _) :: ts =>
    let (ws, ts) := readWordList fuel ts
    (w :: ws, ts)
  | _, ts => ([], ts)

/-- Skips the end of a command. -/
def skipSeparator : Tokens → Tokens
  | (.sign ";", _) :: ts | (.sign "\n", _) :: ts => skipLines ts
  | ts => ts

/-- The patterns of a row of cases, between bars. -/
def readPatterns : Nat → Read (List Word)
  | 0, ts => unexpected ts
  | fuel + 1, (.word w _, _) :: (.sign "|", _) :: ts => do
    let (ws, ts) ← readPatterns fuel ts
    return (w :: ws, ts)
  | _, (.word w _, _) :: ts =>
    match ts with
    | (.sign ")", _) :: ts => .ok ([w], ts)
    | ts => unexpected ts ")"
  | _, (.finish, line) :: ts => unexpected ((.finish, line) :: ts) ")"
  | _, ts => unexpected ts

/-! ## Conditions -/

/-- The operators on one operand that conditions know. -/
def isUnary (text : String) : Bool :=
  match text.toList with
  | ['-', c] => c.isAlpha
  | _ => false

/-- The operators on two operands that conditions know. -/
def isComparison (op : String) : Bool :=
  ["=", "==", "!=", "=~", "<", ">", "-eq", "-ne", "-lt", "-le", "-gt", "-ge", "-nt", "-ot",
    "-ef"].contains op

/-- A condition and the tokens behind it, or what is wrong and the tokens there. -/
abbrev ReadCondition := List Token → Except (ConditionFault × List Token) (Condition × List Token)

/-- The condition of an operator on the operand behind it. -/
def unaryOf (op : Option String) : ReadCondition
  | .word w _ :: ts => .ok (.unary (op.getD "") w, ts)
  | ts => .error (.noOperand true, ts)

mutual

/-- Conditions of which one has to hold. -/
def readEither : Nat → ReadCondition
  | 0, ts => .error (.other, ts)
  | fuel + 1, ts => do
    let (a, ts) ← readBoth fuel ts
    match ts with
    | .sign "||" :: ts =>
      let (b, ts) ← readEither fuel ts
      return (.either a b, ts)
    | ts => return (a, ts)

/-- Conditions that all have to hold. -/
def readBoth : Nat → ReadCondition
  | 0, ts => .error (.other, ts)
  | fuel + 1, ts => do
    let (a, ts) ← readCondition fuel ts
    match ts with
    | .sign "&&" :: ts =>
      let (b, ts) ← readBoth fuel ts
      return (.both a b, ts)
    | ts => return (a, ts)

/-- A condition. -/
def readCondition : Nat → ReadCondition
  | 0, ts => .error (.other, ts)
  | fuel + 1, ts =>
    match ts with
    | .word _ (some "!") :: ts => (readCondition fuel ts).map fun (c, ts) => (.not c, ts)
    | .sign "(" :: ts => do
      match ← readEither fuel ts with
      | (c, .sign ")" :: ts) => return (c, ts)
      | (_, ts) => throw (.other, ts)
    | .word a bare :: ts =>
      match ts with
      | .sign "<" :: .word b _ :: ts => .ok (.binary "<" a b, ts)
      | .sign ">" :: .word b _ :: ts => .ok (.binary ">" a b, ts)
      | .sign "<" :: ts | .sign ">" :: ts => .error (.noOperand false, ts)
      | .word _ (some op) :: rest =>
        if (bare.map isUnary).getD false && !isComparison op then unaryOf bare ts
        else if !isComparison op then .error (.noOperator, ts)
        else
          match rest with
          | .word b _ :: rest => .ok (.binary op a b, rest)
          | rest => .error (.noOperand false, rest)
      | .word w none :: rest =>
        if (bare.map isUnary).getD false then unaryOf bare (.word w none :: rest)
        else .error (.noOperator, .word w none :: rest)
      | ts => if (bare.map isUnary).getD false then unaryOf bare ts else .ok (.word a, ts)
    | ts => .error (.other, ts)

end

/-- A token of a condition as it is shown. -/
def Token.text : Token → String
  | .sign text => text
  | .word w bare => bare.getD (String.join (w.map fun
    | .text text _ => text
    | .parameter p _ _ => "$" ++ p.name
    | _ => ""))
  | _ => "]]"

/-! ## Commands -/

/-- Whether what follows is negated; the extended shell takes any number of negations. -/
def skipNegations (isBash : Bool) : Nat → Bool → Tokens → Bool × Tokens
  | 0, negated, ts => (negated, ts)
  | fuel + 1, negated, ts =>
    if keyword? isBash ts != some "!" then (negated, ts)
    else if isBash then skipNegations isBash fuel (!negated) (ts.drop 1)
    else (true, ts.drop 1)

/-- The token ends a list of commands. -/
def endsList (isBash : Bool) (ts : Tokens) : Bool :=
  match keyword? isBash ts, ts with
  | some k, _ => ["then", "else", "elif", "fi", "do", "done", "esac", "\x7d"].contains k
  | none, (.finish, _) :: _ | none, [] => true
  | none, (.sign s, _) :: _ => [")", ";;", ";&", ";;&"].contains s
  | none, _ => false

mutual

/-- Commands in a row, up to a token that ends them; there may be none where that is said. -/
def readList (isBash : Bool) : Nat → Bool → Read Command
  | 0, _, ts => unexpected ts
  | fuel + 1, mayBeEmpty, ts =>
    let ts := skipLines ts
    let isOver : Bool := match ts with
      | (.finish, _) :: _ | [] => true
      | _ => false
    if endsList isBash ts && !mayBeEmpty && !isOver then unexpected ts
    else do
      let (commands, ts) ← readItems isBash fuel ts
      return (.sequence commands, ts)

/-- The commands of a list. -/
def readItems (isBash : Bool) : Nat → Read (List Command)
  | 0, ts => unexpected ts
  | fuel + 1, ts =>
    if endsList isBash ts then .ok ([], ts)
    else do
      let (first, ts) ← readAndOr isBash fuel ts
      match ts with
      | (.sign ";", _) :: ts | (.sign "\n", _) :: ts =>
        let (more, ts) ← readItems isBash fuel (skipLines ts)
        return (first :: more, ts)
      | (.sign "&", _) :: ts =>
        let (more, ts) ← readItems isBash fuel (skipLines ts)
        return (.background first :: more, ts)
      | ts => return ([first], ts)

/-- Pipelines that depend on each other. -/
def readAndOr (isBash : Bool) : Nat → Read Command
  | 0, ts => unexpected ts
  | fuel + 1, ts => do
    let (first, ts) ← readPipeline isBash fuel ts
    readMore isBash fuel first ts

/-- What depends on a pipeline. -/
def readMore (isBash : Bool) : Nat → Command → Read Command
  | 0, _, ts => unexpected ts
  | fuel + 1, first, ts =>
    match ts with
    | (.sign "&&", _) :: ts => do
      let (next, ts) ← readPipeline isBash fuel (skipLines ts)
      readMore isBash fuel (.both first next) ts
    | (.sign "||", _) :: ts => do
      let (next, ts) ← readPipeline isBash fuel (skipLines ts)
      readMore isBash fuel (.either first next) ts
    | ts => .ok (first, ts)

/-- A pipeline. -/
def readPipeline (isBash : Bool) : Nat → Read Command
  | 0, ts => unexpected ts
  | fuel + 1, ts => do
    let ts := if keyword? isBash ts = some "time" then ts.drop 1 else ts
    let (negated, ts) := skipNegations isBash ts.length false ts
    let isEmpty : Bool := isBash && negated && match ts with
      | (.sign "\n", _) :: _ | (.sign ";", _) :: _ | (.finish, _) :: _ => true
      | _ => false
    let (parts, ts) ← if isEmpty then pure ([.sequence []], ts) else readStages isBash fuel ts
    match negated, parts with
    | false, [one] => return (one, ts)
    | negated, parts => return (.pipeline negated parts, ts)

/-- The parts of a pipeline. -/
def readStages (isBash : Bool) : Nat → Read (List Command)
  | 0, ts => unexpected ts
  | fuel + 1, ts => do
    let (first, ts) ← readCommand isBash fuel ts
    match ts with
    | (.sign "|", _) :: ts =>
      let (more, ts) ← readStages isBash fuel (skipLines ts)
      return (first :: more, ts)
    | (.sign "|&", _) :: ts =>
      let (more, ts) ← readStages isBash fuel (skipLines ts)
      return (.group false first [⟨2, .duplicate, [.text "1" true]⟩] :: more, ts)
    | ts => return ([first], ts)

/-- The end of a choice. -/
def readElse (isBash : Bool) : Nat → Read (Option Command)
  | 0, ts => unexpected ts
  | fuel + 1, ts =>
    match keyword? isBash ts with
    | some "else" => do
      let (no, ts) ← readList isBash fuel false (ts.drop 1)
      return (some no, ← expectKeyword isBash "fi" ts)
    | some "elif" => do
      let (no, ts) ← readChoice isBash fuel (ts.drop 1)
      return (some no, ts)
    | _ => do return (none, ← expectKeyword isBash "fi" ts)

/-- A choice behind its first word. -/
def readChoice (isBash : Bool) : Nat → Read Command
  | 0, ts => unexpected ts
  | fuel + 1, ts => do
    let (test, ts) ← readList isBash fuel false ts
    let ts ← expectKeyword isBash "then" ts
    let (yes, ts) ← readList isBash fuel false ts
    let (no, ts) ← readElse isBash fuel ts
    return (.choice test yes no, ts)

/-- The body of a loop. -/
def readBody (isBash : Bool) : Nat → Read Command
  | 0, ts => unexpected ts
  | fuel + 1, ts => do
    let ts ← expectKeyword isBash "do" (skipLines ts)
    let (body, ts) ← readList isBash fuel false ts
    return (body, ← expectKeyword isBash "done" ts)

/-- A loop over words, behind its first word. -/
def readEach (isBash : Bool) : Nat → Read Command
  | 0, ts => unexpected ts
  | fuel + 1, ts =>
    match ts with
    | (.calculation text, _) :: ts => do
      let parts : List String := (Occurrences.split [';'] text.toList).map String.ofList
      let (body, ts) ← readBody isBash fuel (skipSeparator ts)
      match parts with
      | [first, test, next] => return (.count first test next body, ts)
      | _ => unexpected ts
    | (.word _ (some name), line) :: ts =>
      if !isName name.toList && !isBash then .error (.badName line)
      else do
        let (words, ts) ← match keyword? isBash (skipLines ts) with
          | some "in" => do
            let (words, ts) := readWordList fuel ((skipLines ts).drop 1)
            match ts with
            | (.sign ";", _) :: _ | (.sign "\n", _) :: _ => pure (words, ts)
            | ts => unexpected ts
          | _ => pure ([[.parameter { name := "@" } .keep true]], ts)
        let (body, ts) ← readBody isBash fuel (skipSeparator ts)
        return (.each name words body, ts)
    | (t, line) :: ts => if isBash then unexpected ((t, line) :: ts) else .error (.badName line)
    | [] => unexpected []

/-- The rows of cases, up to the word that ends them. -/
def readRows (isBash : Bool) : Nat → Read (List (List Word × Command × String))
  | 0, ts => unexpected ts
  | fuel + 1, ts =>
    let ts := skipLines ts
    if keyword? isBash ts = some "esac" then .ok ([], ts.drop 1)
    else do
      let ts := match ts with
        | (.sign "(", _) :: ts => ts
        | ts => ts
      let (patterns, ts) ← readPatterns fuel ts
      let (body, ts) ← readList isBash fuel true ts
      match ts with
      | (.sign s, line) :: rest =>
        if [";;", ";&", ";;&"].contains s then
          let (rows, ts) ← readRows isBash fuel rest
          return ((patterns, body, s) :: rows, ts)
        else unexpected ((.sign s, line) :: rest) ";;"
      | ts =>
        if keyword? isBash ts = some "esac" then return ([(patterns, body, ";;")], ts.drop 1)
        else unexpected ts ";;"

/-- Cases behind their first word. -/
def readCases (isBash : Bool) : Nat → Read Command
  | 0, ts => unexpected ts
  | fuel + 1, ts =>
    match ts with
    | (.word w _, _) :: ts => do
      let ts ← expectKeyword isBash "in" (skipLines ts)
      let (rows, ts) ← readRows isBash fuel ts
      return (.cases w rows, ts)
    | ts => unexpected ts

/-- A command that has a name from now on, behind the round brackets. -/
def readNamed (isBash : Bool) : Nat → String → Read Command
  | 0, _, ts => unexpected ts
  | fuel + 1, name, ts => do
    let ts := skipLines ts
    let begins : Bool := match keyword? isBash ts, ts with
      | some k, _ => ["if", "for", "case", "while", "until", "\x7b"].contains k
      | none, (.sign "(", _) :: _ | none, (.calculation _, _) :: _ | none, (.condition _, _) :: _
      | none, (.finish, _) :: _ => true
      | none, _ => !isBash
    if !begins then unexpected ts
    else
      let (body, ts) ← readCommand isBash fuel ts
      return (.named name body, ts)

/-- A command. -/
def readCommand (isBash : Bool) : Nat → Read Command
  | 0, ts => unexpected ts
  | fuel + 1, ts =>
    let redirected (read : Except ReadFault (Command × Tokens)) :
        Except ReadFault (Command × Tokens) := do
      let (c, ts) ← read
      let (rs, ts) ← readRedirects ts.length ts
      return (if rs.isEmpty then c else .group false c rs, ts)
    match keyword? isBash ts, ts with
    | some "if", ts => redirected (readChoice isBash fuel (ts.drop 1))
    | some "\x7b", ts => redirected do
      let (body, ts) ← readList isBash fuel false (ts.drop 1)
      return (.group false body [], ← expectKeyword isBash "\x7d" ts)
    | some "for", ts => redirected (readEach isBash fuel (ts.drop 1))
    | some "case", ts => redirected (readCases isBash fuel (ts.drop 1))
    | some "while", ts => redirected do
      let (test, ts) ← readList isBash fuel false (ts.drop 1)
      let (body, ts) ← readBody isBash fuel ts
      return (.loop false test body, ts)
    | some "until", ts => redirected do
      let (test, ts) ← readList isBash fuel false (ts.drop 1)
      let (body, ts) ← readBody isBash fuel ts
      return (.loop true test body, ts)
    | some "function", _ :: (.word _ (some name), _) :: ts =>
      match ts with
      | (.sign "(", _) :: (.sign ")", _) :: ts => readNamed isBash fuel name ts
      | ts => readNamed isBash fuel name ts
    | some _, ts => unexpected ts
    | none, (.sign "(", _) :: ts => do
      let (body, ts) ← readList isBash fuel false ts
      match ts with
      | (.sign ")", _) :: ts =>
        let (rs, ts) ← readRedirects ts.length ts
        return (.group true body rs, ts)
      | ts => unexpected ts ")"
    | none, (.calculation text, line) :: ts => redirected (.ok (.calculation line text, ts))
    | none, (.condition tokens, line) :: ts => redirected do
      let fails (fault : ConditionFault) (rest : List Token) :
          Except ReadFault (Command × Tokens) :=
        .error (.badCondition fault ((rest.head?.map Token.text).getD "]]") line)
      match readEither (4 * tokens.length + 4) tokens with
      | .ok (c, []) => return (.condition line c, ts)
      | .ok (_, rest) => fails .other rest
      | .error (fault, rest) => fails fault rest
    | none, (.word w bare, line) :: (.sign "(", open_) :: ts =>
      match bare, ts with
      | some name, (.sign ")", _) :: ts =>
        if isBash || isName name.toList then readNamed isBash fuel name ts
        else .error (.badCommandName line)
      | some _, ts =>
        if (assignment? isBash w).isSome then unexpected ((.sign "(", open_) :: ts)
        else unexpected ts ")"
      | none, ts => unexpected ((.sign "(", open_) :: ts)
    | none, ts => do
      let line := (ts.head?.map Prod.snd).getD 1
      let (parts, rest) ← readParts isBash (2 * ts.length + 2) false false ts
      if parts.assignments.isEmpty && parts.words.isEmpty && parts.redirects.isEmpty then
        unexpected rest
      else return (.simple line parts.assignments parts.words parts.redirects, rest)

end

/-- The commands of a line: those up to the end of the line behind the last one. -/
def readLine (isBash : Bool) : Nat → Read (List Command)
  | 0, ts => unexpected ts
  | fuel + 1, ts => do
    let (first, ts) ← readAndOr isBash (40 * ts.length + 40) ts
    match ts with
    | (.sign "\n", _) :: ts => return ([first], ts)
    | (.finish, line) :: ts => return ([first], (.finish, line) :: ts)
    | (.sign s, line) :: rest =>
      if s == ";" || s == "&" then
        let first := if s == "&" then .background first else first
        match rest with
        | (.sign "\n", _) :: ts => return ([first], ts)
        | (.finish, line) :: ts => return ([first], (.finish, line) :: ts)
        | rest =>
          let (more, ts) ← readLine isBash fuel rest
          return (first :: more, ts)
      else unexpected ((.sign s, line) :: rest)
    | ts => unexpected ts

/-- The commands of lines, up to one that cannot be read. -/
def readLinesFrom (isBash : Bool) : Nat → Tokens → List Command × Option ReadFault
  | 0, _ => ([], none)
  | fuel + 1, ts =>
    match skipLines ts with
    | (.finish, _) :: _ | [] => ([], none)
    | ts =>
      match readLine isBash ts.length ts with
      | .error fault => ([], some fault)
      | .ok (commands, ts) =>
        let (more, fault) := readLinesFrom isBash fuel ts
        (commands ++ more, fault)

/-- The commands of a script in front of the first line that cannot be read, if there is one, and
why it cannot. These commands are run before the fault is reported. -/
def readScript (isBash : Bool) (script : String) : List Command × Option ReadFault :=
  let ts := tokens isBash script
  readLinesFrom isBash ts.length ts

/-- The command of a script that is read as a whole. -/
def read (isBash : Bool) (script : String) : Except ReadFault Command :=
  match readScript isBash script with
  | (commands, none) => .ok (.sequence commands)
  | (_, some fault) => .error fault

/-! ## Wording -/

/-- The text of a token that cannot stand where it stands. -/
def Token.shown (isBash : Bool) : Token → String
  | .sign "\n" => "newline"
  | .sign text | .redirect _ text => if isBash then text else "redirection"
  | .word _ (some text) => text
  | .word _ none => "word"
  | .row .. | .calculation _ => "("
  | .condition _ => "[["
  | .unclosed c => String.singleton c
  | .finish => "end of file"

/-- A token in the words of the plain shell. -/
def Token.named : Token → String
  | .sign "\n" => "newline"
  | .sign text => "\"" ++ text ++ "\""
  | .word _ (some text) => if keywords.contains text then "\"" ++ text ++ "\"" else "word"
  | .word _ none => "word"
  | .redirect .. => "redirection"
  | .row .. | .calculation _ => "\"(\""
  | .condition _ | .unclosed _ => "word"
  | .finish => "end of file"

/-- The number of the line behind the last one that has an end. -/
def lastLine (script : String) : Nat := (script.toList.filter (· == '\n')).length + 1

/-- A line of a script. -/
def lineOf (script : String) (line : Nat) : String :=
  ((script.splitOn "\n")[line - 1]?).getD ""

/-- The wording of a fault, in the words of one shell or the other, with the line in front of it;
`inside` is what the plain shell names between them. -/
def ReadFault.message (fault : ReadFault) (isBash : Bool) (title : String) (script : String)
    (inside : String := "") : String :=
  let plain (line : Nat) (text : String) : String :=
    title ++ ": " ++ toString line ++ ": " ++ inside ++ "Syntax error: " ++ text ++ "\n"
  let extended (line : Nat) (text : String) : String :=
    title ++ ": line " ++ toString line ++ ": " ++ text ++ "\n"
  match fault, isBash with
  | .missing sign _, false =>
    plain (lastLine script) (match sign with
      | '\x7d' => "Missing '\x7d'"
      | '(' => "Missing '))'"
      | '\x60' => "EOF in backquote substitution"
      | ')' => "end of file unexpected (expecting \")\")"
      | _ => "Unterminated quoted string")
  | .missing sign line, true =>
    let shown := if sign == '(' then ')' else sign
    let isOpen := script.toList.getLast?.any (· != '\n')
    let line := if sign == ')' then lastLine script + (if isOpen then 1 else 0) else line
    extended line
      ("unexpected EOF while looking for matching \x60" ++ String.singleton shown ++ "'")
  | .badCommandName line, false => plain line "Bad function name"
  | .badCommandName line, true => extended line "syntax error"
  | .badCondition _ near line, false => plain line (near ++ " unexpected")
  | .badCondition fault near line, true =>
    (match fault with
      | .noOperator => extended line "conditional binary operator expected"
      | .noOperand isUnary =>
        extended line ("unexpected argument \x60" ++ near ++ "' to conditional " ++
          (if isUnary then "unary" else "binary") ++ " operator")
      | .other => "") ++
      extended line ("syntax error near \x60" ++ near ++ "'") ++
      extended line ("\x60" ++ lineOf script line ++ "'")
  | .badName line, false => plain line "Bad for loop variable"
  | .unexpected token line expected, false =>
    plain line (token.named ++ " unexpected" ++
      ((expected.map fun e => " (expecting \"" ++ e ++ "\")").getD ""))
  | .unexpected .finish line _, true => extended line "syntax error: unexpected end of file"
  | .unexpected token line _, true =>
    extended line ("syntax error near unexpected token \x60" ++ token.shown true ++ "'")
      ++ extended line ("\x60" ++ lineOf script line ++ "'")
  | .badName line, true => extended line "syntax error: bad for loop variable"

end Scaffold.Script

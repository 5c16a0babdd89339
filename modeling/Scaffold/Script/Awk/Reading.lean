import Scaffold.Script.Awk.Token

/-!
# Reading — programs from their pieces

Operators bind in levels; an operand right behind another one joins their texts. A number bounds how
deep expressions and statements nest.
-/

set_option autoImplicit false

namespace Scaffold.Script.Awk

/-- What is around a place of a program. -/
structure Place where
  /-- A larger-than sign leads output elsewhere. -/
  isPrinting : Bool := false
  /-- A vertical bar leads output to a command. -/
  inFunction : Bool := false
  /-- No record is there. -/
  isApart : Bool := false
  inLoop : Bool := false

/-- Reads pieces. -/
abbrev Reader := StateT (List Piece) (Except Fault)

namespace Reader

/-- The next piece. -/
def peek : Reader Token := do return ((← get).head?.map Piece.token).getD .finish

/-- The line of the next piece. -/
def line : Reader Nat := do return ((← get).head?.map Piece.line).getD 1

/-- Goes on behind the next piece. -/
def skip : Reader Unit := modify fun ps => if ps.length ≤ 1 then ps else ps.drop 1

/-- The next piece cannot stand where it stands. -/
def misplaced {α : Type} : Reader α := do
  throw (.misplaced (← line) (← peek).shown)

/-- The next piece is this sign. -/
def isSign (s : String) : Reader Bool := do
  return match ← peek with
    | .sign t => s == t
    | _ => false

/-- The next piece is this keyword. -/
def isKeyword (s : String) : Reader Bool := do
  return match ← peek with
    | .keyword t => s == t
    | _ => false

/-- Goes on behind a sign if it comes next. -/
def accept (s : String) : Reader Bool := do
  if ← isSign s then
    skip
    return true
  else return false

/-- Goes on behind a sign. -/
def expect (s : String) : Reader Unit := do
  if !(← accept s) then misplaced

/-- Goes on behind the ends of lines. -/
def skipLines : Reader Unit := modify fun ps =>
  let rest := ps.dropWhile fun p => match p.token with
    | .newline => true
    | _ => false
  if rest.isEmpty then ps.drop (ps.length - 1) else rest

/-- An operand can begin with the next piece. -/
def beginsOperand : Reader Bool := do
  return match ← peek with
    | .number _ | .text _ | .pattern _ | .name _ | .callee _ | .builtin _ => true
    | .sign s => ["$", "(", "!", "++", "--"].contains s
    | _ => false

end Reader

open Reader

/-- The operators between operands with their level, the loosest ones first. -/
inductive Infix
  | either
  | both
  | isIn
  | fits (negated : Bool)
  | relation (op : Relation)
  | concat
  | arithmetic (op : Arithmetic)
  deriving DecidableEq

/-- The level of an operator. -/
def Infix.level : Infix → Nat
  | .either => 1
  | .both => 2
  | .isIn => 3
  | .fits _ => 4
  | .relation _ => 5
  | .concat => 6
  | .arithmetic .add | .arithmetic .subtract => 7
  | .arithmetic .power => 9
  | .arithmetic _ => 8

/-- The operator of a sign. -/
def Infix.ofSign? : String → Option Infix
  | "||" => some .either
  | "&&" => some .both
  | "~" => some (.fits false)
  | "!~" => some (.fits true)
  | "<" => some (.relation .lt)
  | "<=" => some (.relation .le)
  | "==" => some (.relation .eq)
  | "!=" => some (.relation .ne)
  | ">" => some (.relation .gt)
  | ">=" => some (.relation .ge)
  | "+" => some (.arithmetic .add)
  | "-" => some (.arithmetic .subtract)
  | "*" => some (.arithmetic .multiply)
  | "/" => some (.arithmetic .divide)
  | "%" => some (.arithmetic .modulo)
  | _ => none

/-- The operation of an assignment. -/
def assignment? : String → Option (Option Arithmetic)
  | "=" => some none
  | "+=" => some (some .add)
  | "-=" => some (some .subtract)
  | "*=" => some (some .multiply)
  | "/=" => some (some .divide)
  | "%=" => some (some .modulo)
  | "^=" => some (some .power)
  | _ => none

/-- A value can be assigned to the expression. -/
def Expr.isPlace : Expr → Bool
  | .variable _ | .cell .. | .field _ => true
  | _ => false

/-- The operator that comes next. -/
def infix? (p : Place) : Reader (Option Infix) := do
  match ← peek with
  | .sign ">" => return if p.isPrinting then none else some (.relation .gt)
  | .sign s =>
    match Infix.ofSign? s with
    | some op => return some op
    | none => return if ← beginsOperand then some .concat else none
  | .keyword "in" => return some .isIn
  | _ => return if ← beginsOperand then some .concat else none

/-- How many arguments a function takes at least and at most. -/
def argumentBounds (name : String) : Nat × Nat :=
  match name with
  | "length" => (0, 1)
  | "substr" => (2, 3)
  | "index" | "atan2" => (2, 2)
  | "match" => (2, 2)
  | "split" => (2, 3)
  | "sub" | "gsub" => (2, 3)
  | "sprintf" => (1, 255)
  | "rand" | "systime" => (0, 0)
  | "srand" | "fflush" => (0, 1)
  | "strftime" => (0, 3)
  | _ => (1, 1)

mutual

/-- Reads an expression. -/
def expression : Nat → Place → Reader Expr
  | 0, _ => misplaced
  | fuel + 1, p => do
    let condition ← level fuel 1 p
    if ← accept "?" then
      skipLines
      let yes ← expression fuel p
      skipLines
      expect ":"
      skipLines
      let no ← expression fuel p
      return .choice condition yes no
    else return condition

/-- Reads operands with operators of a level and tighter ones between them. -/
def level : Nat → Nat → Place → Reader Expr
  | 0, _, _ => misplaced
  | fuel + 1, n, p => do
    let left ← signed fuel p
    rest fuel n p left

/-- Reads operators of a level and tighter ones behind an operand. -/
def rest : Nat → Nat → Place → Expr → Reader Expr
  | 0, _, _, _ => misplaced
  | fuel + 1, n, p, left => do
    match ← infix? p with
    | none => return left
    | some op =>
      if op.level < n then return left
      else
        let whole ← match op with
          | .concat => do pure (Expr.concat left (← level fuel (op.level + 1) p))
          | .isIn => do
            skip
            match ← peek with
            | .name name => do
              skip
              let place := match left with
                | .several items => items
                | e => [e]
              pure (Expr.isIn place name)
            | _ => misplaced
          | op => do
            skip
            if op = .either || op = .both then skipLines
            let right ← level fuel (op.level + 1) p
            pure <| match op with
              | .either => Expr.either left right
              | .both => .both left right
              | .fits negated => .fits left right negated
              | .relation r => .relation r left right
              | .arithmetic a => .arithmetic a left right
              | .concat | .isIn => left
        rest fuel n p whole

/-- Reads an operand with the signs in front of it. -/
def signed : Nat → Place → Reader Expr
  | 0, _ => misplaced
  | fuel + 1, p => do
    if ← accept "!" then return .negation (← signed fuel p)
    else if ← accept "-" then return .signed true (← signed fuel p)
    else if ← accept "+" then return .signed false (← signed fuel p)
    else powered fuel p

/-- Reads an operand and the power that it is raised to. -/
def powered : Nat → Place → Reader Expr
  | 0, _ => misplaced
  | fuel + 1, p => do
    let base ← piped fuel p (← stepped fuel p)
    if ← accept "^" then
      let power ←
        if ← accept "-" then do pure (Expr.signed true (← powered fuel p))
        else if ← accept "+" then do pure (Expr.signed false (← powered fuel p))
        else if ← accept "!" then do pure (Expr.negation (← powered fuel p))
        else powered fuel p
      return .arithmetic .power base power
    else return base

/-- Reads the commands that lines are read from behind an operand. -/
def piped : Nat → Place → Expr → Reader Expr
  | 0, _, _ => misplaced
  | fuel + 1, p, e => do
    match (← get).map Piece.token with
    | .sign "|" :: .keyword "getline" :: _ => do
      skip
      skip
      let target ← lineTarget fuel p
      piped fuel p (.getline target .command (some e))
    | _ => return e

/-- Reads the place that a line is read into, if one is given. -/
def lineTarget : Nat → Place → Reader (Option Expr)
  | 0, _ => misplaced
  | fuel + 1, p => do
    match ← peek with
    | .name _ | .sign "$" => return some (← operand fuel p)
    | _ => return none

/-- Reads an operand with what is added to it before or behind, or what is assigned to it. -/
def stepped : Nat → Place → Reader Expr
  | 0, _ => misplaced
  | fuel + 1, p => do
    if ← accept "++" then return .step (← place fuel p) 1 true
    else if ← accept "--" then return .step (← place fuel p) (-1) true
    else
      let e ← operand fuel p
      if !e.isPlace then return e
      else if ← accept "++" then return .step e 1 false
      else if ← accept "--" then return .step e (-1) false
      else
        match ← peek with
        | .sign s =>
          match assignment? s with
          | some op => do
            skip
            skipLines
            return .assign e op (← expression fuel p)
          | none => return e
        | _ => return e

/-- Reads a place that a value can be assigned to. -/
def place : Nat → Place → Reader Expr
  | 0, _ => misplaced
  | fuel + 1, p => do
    let e ← operand fuel p
    if e.isPlace then return e else misplaced

/-- Reads an operand. -/
def operand : Nat → Place → Reader Expr
  | 0, _ => misplaced
  | fuel + 1, p => do
    let line ← Reader.line
    match ← peek with
    | .number x => do
      skip
      return .number x
    | .text s => do
      skip
      return .text s
    | .pattern s => do
      skip
      return .pattern s
    | .name name => do
      skip
      if ← accept "[" then
        let items ← arguments fuel { p with isPrinting := false } "]"
        return .cell name items
      else return .variable name
    | .callee name => do
      skip
      skip
      return .call name (← arguments fuel { p with isPrinting := false } ")")
    | .builtin name => do
      skip
      if ← accept "(" then
        let args ← arguments fuel { p with isPrinting := false } ")"
        let (least, most) := argumentBounds name
        if args.length < least || most < args.length then
          throw (.argumentCount line name)
        else return .builtin name args
      else if name == "length" then return .builtin name []
      else misplaced
    | .keyword "getline" => do
      skip
      let target ← lineTarget fuel p
      if ← accept "<" then
        return .getline target .file (some (← stepped fuel p))
      else return .getline target .records none
    | .sign "$" => do
      skip
      if ← accept "++" then return .field (.step (← place fuel p) 1 true)
      else if ← accept "--" then return .field (.step (← place fuel p) (-1) true)
      else if ← accept "-" then return .field (.signed true (← operand fuel p))
      else return .field (← operand fuel p)
    | .sign "(" => do
      skip
      skipLines
      let items ← arguments fuel { p with isPrinting := false } ")"
      match items with
      | [] => misplaced
      | [e] => return if e.isPlace then .several [e] else e
      | items => return .several items
    | _ => misplaced

/-- Reads expressions with commas between them up to a bracket. -/
def arguments : Nat → Place → String → Reader (List Expr)
  | 0, _, _ => misplaced
  | fuel + 1, p, close => do
    skipLines
    if ← accept close then return []
    else
      let e ← expression fuel p
      skipLines
      if ← accept "," then
        skipLines
        if ← isSign close then misplaced
        return e :: (← arguments fuel p close)
      else
        expect close
        return [e]

end

/-- Reads expressions with commas between them, as many as there are. -/
def expressions : Nat → Nat → Place → Reader (List Expr)
  | 0, _, _ => misplaced
  | count + 1, fuel, p => do
    let e ← expression fuel p
    if ← accept "," then
      skipLines
      return e :: (← expressions count fuel p)
    else return [e]

/-- Reads where output goes. -/
def redirection (fuel : Nat) (p : Place) : Reader (Option (Redirection × Expr)) := do
  let kind : Option Redirection := match ← peek with
    | .sign ">" => some .replace
    | .sign ">>" => some .append
    | .sign "|" => some .command
    | _ => none
  match kind with
  | none => return none
  | some kind => do
    skip
    return some (kind, ← expression fuel p)

/-- A simple statement ends here. -/
def endsStatement : Reader Bool := do
  return match ← peek with
    | .newline | .finish => true
    | .sign s => s == ";" || s == "\x7d"
    | _ => false

/-- Reads the arguments of an output statement. -/
def printed (fuel : Nat) (p : Place) : Reader (List Expr × Option (Redirection × Expr)) := do
  let p := { p with isPrinting := true }
  let isBare := (← endsStatement) || (← isSign ">") || (← isSign ">>") || (← isSign "|")
  let items ← if isBare then pure [] else expressions fuel fuel p
  let items := match items with
    | [.several items] => items
    | items => items
  return (items, ← redirection fuel p)

/-- Reads a statement that fills no more than a line. -/
def simple (fuel : Nat) (p : Place) : Reader Stmt := do
  match ← peek with
  | .keyword "print" => do
    skip
    let (args, target) ← printed fuel p
    return .print args target
  | .keyword "printf" => do
    skip
    let (args, target) ← printed fuel p
    if args.isEmpty then misplaced else return .printf args target
  | .keyword "delete" => do
    skip
    match ← peek with
    | .name name => do
      skip
      if ← accept "[" then return .delete name (some (← arguments fuel p "]"))
      else return .delete name none
    | _ => misplaced
  | _ => return .expr (← expression fuel p)

/-- Goes on behind the end of a simple statement. -/
def endStatement : Reader Unit := do
  match ← peek with
  | .newline => skipLines
  | .sign ";" => do
    skip
    skipLines
  | .sign "\x7d" | .finish => return ()
  | _ => misplaced

/-- The value behind a keyword, if one is given. -/
def optionalValue (fuel : Nat) (p : Place) : Reader (Option Expr) := do
  if ← endsStatement then return none else return some (← expression fuel p)

mutual

/-- Reads a statement. -/
def statement : Nat → Place → Reader Stmt
  | 0, _ => misplaced
  | fuel + 1, p => do
    let line ← Reader.line
    match ← peek with
    | .sign "\x7b" => do
      skip
      let body ← statements fuel p
      skipLines
      return .block body
    | .sign ";" => do
      skip
      skipLines
      return .block []
    | .keyword "if" => do
      skip
      let condition ← bracketed fuel p
      let yes ← statement fuel p
      -- a semicolon may stand in front of the other branch
      let before ← get
      let _ ← accept ";"
      skipLines
      if ← isKeyword "else" then
        skip
        skipLines
        return .choice condition yes (some (← statement fuel p))
      else
        set before
        return .choice condition yes none
    | .keyword "while" => do
      skip
      let condition ← bracketed fuel p
      if ← isSign ";" then
        endStatement
        return .while condition (.block [])
      else return .while condition (← statement fuel { p with inLoop := true })
    | .keyword "do" => do
      skip
      skipLines
      let body ← statement fuel { p with inLoop := true }
      let _ ← accept ";"
      skipLines
      if ← isKeyword "while" then
        skip
        expect "("
        let condition ← expression fuel p
        expect ")"
        endStatement
        return .until body condition
      else misplaced
    | .keyword "for" => do
      skip
      expect "("
      match (← get).map Piece.token with
      | .name name :: .keyword "in" :: .name table :: .sign ")" :: _ => do
        skip
        skip
        skip
        skip
        skipLines
        return .each name table (← statement fuel { p with inLoop := true })
      | _ => do
        let start ← if ← isSign ";" then pure none else some <$> simple fuel p
        expect ";"
        skipLines
        let condition ← if ← isSign ";" then pure none else some <$> expression fuel p
        expect ";"
        skipLines
        let step ← if ← isSign ")" then pure none else some <$> simple fuel p
        expect ")"
        if ← isSign ";" then
          endStatement
          return .loop start condition step (.block [])
        else
          skipLines
          return .loop start condition step (← statement fuel { p with inLoop := true })
    | .keyword "next" => do
      skip
      if p.isApart then throw (.strayNext line)
      endStatement
      return .next
    | .keyword "nextfile" => do
      skip
      if p.isApart then throw (.strayNext line)
      endStatement
      return .nextFile
    | .keyword "exit" => do
      skip
      let status ← optionalValue fuel p
      endStatement
      return .exit status
    | .keyword "return" => do
      skip
      if !p.inFunction then throw (.strayReturn line)
      let value ← optionalValue fuel p
      endStatement
      return .return value
    | .keyword "break" => do
      skip
      if !p.inLoop then throw (.strayLeave line false)
      endStatement
      return .leave
    | .keyword "continue" => do
      skip
      if !p.inLoop then throw (.strayLeave line true)
      endStatement
      return .again
    | _ => do
      let s ← simple fuel p
      endStatement
      return s

/-- Reads a condition in brackets. -/
def bracketed : Nat → Place → Reader Expr
  | 0, _ => misplaced
  | fuel + 1, p => do
    expect "("
    let e ← expression fuel p
    expect ")"
    if !(← isSign ";") then skipLines
    return e

/-- Reads statements up to the brace that ends them. -/
def statements : Nat → Place → Reader (List Stmt)
  | 0, _ => misplaced
  | fuel + 1, p => do
    skipLines
    match ← peek with
    | .finish => throw (.openBrace (← Reader.line))
    | .sign "\x7d" => do
      skip
      return []
    | _ => do
      let s ← statement fuel p
      return s :: (← statements fuel p)

end

/-- Reads an action in braces. -/
def action (fuel : Nat) (p : Place) : Reader (List Stmt) := do
  expect "\x7b"
  statements fuel p

/-- Reads the names of parameters. -/
def parameters : Nat → List String → Reader (List String)
  | 0, _ => misplaced
  | fuel + 1, known => do
    skipLines
    match ← peek with
    | .sign ")" => do
      skip
      return []
    | .name name => do
      if known.contains name then throw (.twiceParameter (← Reader.line) name)
      skip
      if ← accept "," then return name :: (← parameters fuel (name :: known))
      else
        expect ")"
        return [name]
    | _ => misplaced

/-- Reads the parts of a program. -/
def parts : Nat → Nat → Program → Reader Program
  | 0, _, _ => misplaced
  | count + 1, fuel, program => do
    skipLines
    let line ← Reader.line
    match ← peek with
    | .finish => return program
    | .sign "\x7d" => throw (.strayBrace line)
    | .keyword "BEGIN" => do
      skip
      let body ← action fuel { isApart := true }
      ended
      parts count fuel { program with begins := program.begins ++ [body] }
    | .keyword "END" => do
      skip
      let body ← action fuel { isApart := true }
      ended
      parts count fuel { program with ends := program.ends ++ [body] }
    | .keyword "function" => do
      skip
      let name ← match ← peek with
        | .name name | .callee name => pure name
        | _ => misplaced
      skip
      expect "("
      if program.functions.any (·.name == name) then throw (.twice line name)
      let names ← parameters fuel []
      skipLines
      let body ← action fuel { inFunction := true }
      ended
      parts count fuel { program with functions := program.functions ++ [⟨name, names, body⟩] }
    | .sign "\x7b" => do
      let body ← action fuel {}
      ended
      parts count fuel { program with rules := program.rules ++ [⟨.all, some body⟩] }
    | _ => do
      let first ← expression fuel {}
      let pattern ←
        if ← accept "," then do
          skipLines
          pure (Pattern.range first (← expression fuel {}))
        else pure (Pattern.holds first)
      let body ← if ← isSign "\x7b" then some <$> action fuel {} else pure none
      ended
      parts count fuel { program with rules := program.rules ++ [⟨pattern, body⟩] }
where
  /-- Goes on behind a semicolon that ends a part. -/
  ended : Reader Unit := do
    let _ ← accept ";"

/-! ## Functions that are called -/

mutual

/-- The calls in an expression. -/
def Expr.calls : Expr → List (String × Nat)
  | .number _ | .text _ | .pattern _ | .variable _ => []
  | .cell _ es | .isIn es _ | .several es | .builtin _ es => allCalls es
  | .field e | .negation e | .signed _ e | .step e _ _ => e.calls
  | .assign a _ b | .both a b | .either a b | .fits a b _ | .relation _ a b | .concat a b
  | .arithmetic _ a b => a.calls ++ b.calls
  | .choice a b c => a.calls ++ b.calls ++ c.calls
  | .call name args => (name, args.length) :: allCalls args
  | .getline a _ b =>
    (match a with
      | some a => a.calls
      | none => [])
      ++ match b with
        | some b => b.calls
        | none => []

/-- The calls in expressions. -/
def allCalls : List Expr → List (String × Nat)
  | [] => []
  | e :: es => e.calls ++ allCalls es

end

/-- The calls in an optional expression. -/
def optionalCalls (e : Option Expr) : List (String × Nat) := e.elim [] Expr.calls

mutual

/-- The calls in a statement. -/
def Stmt.calls : Stmt → List (String × Nat)
  | .expr e => e.calls
  | .print args target | .printf args target =>
    allCalls args ++ target.elim [] fun (_, e) => e.calls
  | .choice c a b =>
    c.calls ++ a.calls ++ match b with
      | some b => b.calls
      | none => []
  | .while c a | .until a c => c.calls ++ a.calls
  | .loop a c b body =>
    (match a with
      | some a => a.calls
      | none => [])
      ++ optionalCalls c
      ++ (match b with
        | some b => b.calls
        | none => [])
      ++ body.calls
  | .each _ _ body => body.calls
  | .block body => statementCalls body
  | .exit e | .return e => optionalCalls e
  | .delete _ place => place.elim [] allCalls
  | .next | .nextFile | .leave | .again => []

/-- The calls in statements. -/
def statementCalls : List Stmt → List (String × Nat)
  | [] => []
  | s :: ss => s.calls ++ statementCalls ss

end

/-- The calls in a program. -/
def Program.calls (p : Program) : List (String × Nat) :=
  let ofPattern : Pattern → List (String × Nat)
    | .all => []
    | .holds e => e.calls
    | .range a b => a.calls ++ b.calls
  p.begins.flatMap statementCalls ++ p.ends.flatMap statementCalls
    ++ p.functions.flatMap (fun f => statementCalls f.body)
    ++ p.rules.flatMap fun r => ofPattern r.pattern ++ r.action.elim [] statementCalls

/-- Reads a program. -/
def Program.read (text : String) : Except Fault Program := do
  let pieces ← Token.read text
  let fuel := 20 * (pieces.length + 1)
  let (program, _) ← (parts (pieces.length + 1) fuel {}).run pieces
  let lines := (pieces.getLast?.map Piece.line).getD 1
  let _ ← program.calls.mapM fun (name, count) =>
    match program.functions.find? (·.name == name) with
    | none => throw (Fault.unknownFunction lines name)
    | some f =>
      if f.parameters.length < count then throw (Fault.tooManyArguments 1 name) else .ok ()
  return program

end Scaffold.Script.Awk

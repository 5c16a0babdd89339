import Scaffold.Expr.Reading.Cursor

/-!
# Expression — expressions from signs

From the loosest binding to the tightest: a choice, `or`, `and`, `not`, comparisons, sums, joined
texts, products, powers; then a constant, a name or brackets with what is attached to it, and the
filters and tests behind it. Every reader of a part takes the reader of a whole expression as an
argument.
-/

set_option autoImplicit false

namespace Scaffold.Expr.Reading

/-- An operator between two operands, and the line behind it. -/
def joined (start : Nat) (op : BinaryOp) (left right : Tree) : Tree :=
  .binary (right.exit (left.exit start)) op left right

/-- Reads further operands as long as an operator of a level follows. -/
def chainFrom (operator? : Token → Option BinaryOp) (operand : Reading Tree) (start : Nat) :
    Nat → Tree → Reading Tree
  | 0, left => return left
  | fuel + 1, left => do
    match (← peek).bind operator? with
    | none => return left
    | some op =>
      let _ ← next
      let right ← operand
      chainFrom operator? operand start fuel (joined start op left right)

/-- Reads operands with operators of one level between them. -/
def chain (operator? : Token → Option BinaryOp) (operand : Reading Tree) : Reading Tree := do
  let start ← nextLine
  let left ← operand
  chainFrom operator? operand start (← bound) left

/-- An operator that is spelled with a sign. -/
def signed (table : List (String × BinaryOp)) : Token → Option BinaryOp
  | .punctuation s => table.lookup s
  | _ => none

/-- An operator that is spelled as a word. -/
def worded (word : String) (op : BinaryOp) : Token → Option BinaryOp
  | .name n => if n == word then some op else none
  | _ => none

/-- Takes the signs in front of an operand that satisfy a test; gives their lines. -/
def leading (p : Token → Bool) : Nat → Reading (List Nat)
  | 0 => return []
  | fuel + 1 => do
    match ← peek with
    | some token =>
      if p token then
        let line ← nextLine
        let _ ← next
        return line :: (← leading p fuel)
      else return []
    | none => return []

/-- Reads an operand with operators in front of it. -/
def prefixed (p : Token → Bool) (op : UnaryOp) (operand : Reading Tree) : Reading Tree := do
  let lines ← leading p (← bound)
  let tree ← operand
  return lines.foldr (fun line tree => .unary line op tree) tree

/-- Reads one argument; `named` tells that a named one came before. -/
def argument (expression : Reading Tree) (named : Bool) : Reading Argument := do
  if ← skip "**" then return .spreadNamed (← expression)
  else if ← skip "*" then return .spread (← expression)
  else
    let tree ← expression
    match tree with
    | .variable _ name =>
      if ← skip "=" then return .named name (← expression)
      else if named then fail
      else return .positional tree
    | tree => if named then fail else return .positional tree

/-- The most arguments that a call may have. -/
def maxArguments : Nat := 2000

/-- Reads arguments up to the closing bracket. -/
def argumentsFrom (expression : Reading Tree) :
    Nat → List Argument → Bool → Reading (List Argument)
  | 0, _, _ => fail
  | fuel + 1, done, named => do
    if ← skip ")" then return done
    else
      if !done.isEmpty then expect ","
      if !done.isEmpty && (← skip ")") then return done
      else
        let a ← argument expression named
        let done := done ++ [a]
        if maxArguments < done.length then fail
        else argumentsFrom expression fuel done (named || !a.isPositional)

/-- Reads the arguments of a call in their brackets. -/
def arguments (expression : Reading Tree) : Reading (List Argument) := do
  expect "("
  argumentsFrom expression ((← bound) + 1) [] false

/-- Reads items with commas between them up to the closing bracket. -/
def itemsFrom {α : Type} (close : String) (item : Reading α) : Nat → List α → Reading (List α)
  | 0, _ => fail
  | fuel + 1, done => do
    if ← skip close then return done
    else
      if !done.isEmpty then expect ","
      if !done.isEmpty && (← skip close) then return done
      else itemsFrom close item fuel (done ++ [← item])

/-- Reads an entry of a map. -/
def entry (expression : Reading Tree) : Reading (Tree × Tree) := do
  let key ← expression
  expect ":"
  return (key, ← expression)

/-- Reads what stands in round brackets: an expression, or a list if there is a comma. -/
def bracketed (expression : Reading Tree) (line : Nat) : Reading Tree := do
  if ← skip ")" then return .list line []
  else
    let first ← expression
    if ← isAt "," then return .list line (← itemsFrom ")" expression ((← bound) + 1) [first])
    else
      expect ")"
      return first

/-- Takes the texts that follow a text; they belong to it. -/
def adjacentTexts : Nat → String → Reading String
  | 0, text => return text
  | fuel + 1, text => do
    match ← peekText with
    | some more =>
      let _ ← next
      adjacentTexts fuel (text ++ more)
    | none => return text

/-- The constant that a word stands for. -/
def constant? : String → Option Literal
  | "true" | "True" => some (.bool true)
  | "false" | "False" => some (.bool false)
  | "none" | "None" => some .none
  | _ => none

/-- Reads a constant, a name or brackets. -/
def primary (expression : Reading Tree) : Reading Tree := nested do
  let token ← take
  let line ← lastLine
  match token with
  | .name n =>
    match constant? n with
    | some literal => return .literal line literal
    | none => return .variable line n
  | .string s => return .literal line (.string (← adjacentTexts (← bound) s))
  | .int n => return .literal line (.int n)
  | .float x => return .literal line (.float x)
  | .punctuation "(" => bracketed expression line
  | .punctuation "[" => return .list line (← itemsFrom "]" expression ((← bound) + 1) [])
  | .punctuation "\x7b" =>
    return .map line (← itemsFrom "\x7d" (entry expression) ((← bound) + 1) [])
  | _ => fail

/-- The next sign is one of these operators or brackets. -/
def isAtAny (spellings : List String) : Reading Bool := do
  match ← peek with
  | some (.punctuation s) => return spellings.contains s
  | _ => return false

/-- Reads an index or a slice behind its opening bracket. -/
def subscript (expression : Reading Tree) (start : Nat) (base : Tree) : Reading Tree := do
  let first ← if ← isAt ":" then pure none else some <$> expression
  if ← skip ":" then
    let stop ← if ← isAtAny ["]", ":"] then pure none else some <$> expression
    let step ← if ← skip ":" then
        (if ← isAt "]" then pure none else some <$> expression)
      else pure none
    expect "]"
    let line := Tree.exitAll (base.exit start) ([first, stop, step].filterMap id)
    return .slice line base first stop step
  else
    expect "]"
    match first with
    | some index => return .item (index.exit (base.exit start)) base index
    | none => fail

/-- The line behind the parts of a call. The name of a function is not evaluated, and of a method
only what it belongs to. -/
def callLine (start : Nat) (callee : Tree) (args : List Argument) : Nat :=
  let entry := match callee with
    | .variable .. => start
    | .attribute _ (.variable line "self") _ => if args.isEmpty then start else line
    | .attribute _ base _ => base.exit start
    | callee => callee.exit start
  Argument.exit entry args

/-- Reads attributes, subscripts and calls behind an operand; a place may be written like an
attribute. -/
def attachedFrom (expression : Reading Tree) : Nat → Nat → Tree → Reading Tree
  | 0, _, tree => return tree
  | fuel + 1, start, tree => do
    let line ← nextLine
    if ← skip "." then
      match ← peek with
      | some (.int n) =>
        let index : Tree := .literal (← nextLine) (.int n)
        let _ ← next
        attachedFrom expression fuel line (.item (index.exit (tree.exit start)) tree index)
      | _ =>
        let name ← identifier
        attachedFrom expression fuel line (.attribute (tree.exit start) tree name)
    else if ← skip "[" then
      let tree ← subscript expression start tree
      attachedFrom expression fuel line tree
    else if ← isAt "(" then
      let args ← arguments expression
      attachedFrom expression fuel line (.call (callLine start tree args) tree args)
    else return tree

/-- Reads attributes, subscripts and calls behind an operand. -/
def attached (expression : Reading Tree) (start : Nat) (tree : Tree) :
    Reading Tree := do
  attachedFrom expression (← bound) start tree

/-- The sign is a minus. -/
def isMinus : Token → Bool
  | .punctuation s => s == "-"
  | _ => false

/-- Reads a constant, a name or brackets, negated or not. -/
def negated (expression : Reading Tree) : Reading Tree :=
  prefixed isMinus .negate (primary expression)

/-- A test takes the operand that follows its name as its only argument. -/
def beginsOperand : Token → Bool
  | .name n => !(["and", "or", "else", "is"].contains n)
  | .string _ | .int _ | .float _ => true
  | .punctuation s => ["+", "-", "[", "\x7b"].contains s
  | _ => false

/-- Reads the arguments of a test, with or without brackets. -/
def testArguments (expression : Reading Tree) : Reading (List Argument) := do
  if ← isAt "(" then arguments expression
  else if ((← peek).map beginsOperand).getD false then
    let start ← nextLine
    let operand ← negated expression
    return [.positional (← attached expression start operand)]
  else return []

/-- Reads filters and tests behind an operand. -/
def filteredFrom (expression : Reading Tree) : Nat → Tree → Reading Tree
  | 0, tree => return tree
  | fuel + 1, tree => do
    if ← skip "|" then
      let name ← qualified
      let start ← lastLine
      let args ← if ← isAt "(" then arguments expression else pure []
      filteredFrom expression fuel
        (.filter (Argument.exit (tree.exit start) args) name (some tree) args)
    else if ← skipWord "is" then
      let negated ← skipWord "not"
      let name ← qualified
      let start ← lastLine
      let args ← testArguments expression
      let test : Tree := .test (Argument.exit (tree.exit start) args) name tree args
      filteredFrom expression fuel (if negated then .unary start .not test else test)
    else return tree

/-- Reads an operand with all that is attached to it. -/
def operand (expression : Reading Tree) : Reading Tree := do
  let start ← nextLine
  let tree ← negated expression
  let tree ← attached expression start tree
  filteredFrom expression (← bound) tree

/-- Reads sums and all that binds tighter. -/
def sum (expression : Reading Tree) : Reading Tree :=
  chain (signed [("+", .add), ("-", .subtract)])
    (chain (signed [("~", .concat)])
      (chain (signed [("*", .multiply), ("/", .divide), ("//", .floorDivide), ("%", .remainder)])
        (chain (signed [("**", .power)]) (operand expression))))

/-- Takes a comparison operator if one follows; the flag tells that it is negated. -/
def comparison? : Reading (Option (BinaryOp × Bool)) := do
  let table : List (String × BinaryOp) := [("==", .equal), ("!=", .unequal), ("<", .less),
    ("<=", .lessOrEqual), (">", .greater), (">=", .greaterOrEqual)]
  match ← peek with
  | some (.punctuation s) =>
    match table.lookup s with
    | some op =>
      let _ ← next
      return some (op, false)
    | none => return none
  | some (.name "in") =>
    let _ ← next
    return some (.contains, false)
  | some (.name "not") =>
    let _ ← next
    expectWord "in"
    return some (.contains, true)
  | _ => return none

/-- Reads further operands as long as a comparison follows. -/
def comparedFrom (operand : Reading Tree) : Nat → Nat → Tree → Reading (List Comparison)
  | 0, _, _ => return []
  | fuel + 1, start, left => do
    match ← comparison? with
    | none => return []
    | some (op, negated) =>
      let right ← operand
      let line := right.exit (left.exit start)
      return .mk line op negated right :: (← comparedFrom operand fuel (← lastLine) right)

/-- A single comparison is an operator as the others; several in a row belong together. -/
def comparing (start : Nat) (first : Tree) : List Comparison → Tree
  | [] => first
  | [.mk line op negated right] =>
    if negated then .unary start .not (.binary line op first right)
    else .binary line op first right
  | rest =>
    let line := match rest.getLast? with
      | some (.mk line ..) => line
      | none => start
    .comparisons line first rest

/-- Reads comparisons and all that binds tighter. -/
def compared (operand : Reading Tree) : Reading Tree := do
  let start ← lastLine
  let first ← operand
  return comparing start first (← comparedFrom operand (← bound) start first)

/-- The sign is this word. -/
def isWord (word : String) : Token → Bool
  | .name n => n == word
  | _ => false

/-- Reads an expression that is not a choice, given the reader of nested expressions. -/
def disjunction (expression : Reading Tree) : Reading Tree :=
  chain (worded "or" .or)
    (chain (worded "and" .and)
      (prefixed (isWord "not") .not (compared (sum expression))))

/-- Reads the choices behind an expression: `yes if test else no`. -/
def choiceFrom (part : Reading Tree) : Nat → Nat → Tree → Reading Tree
  | 0, _, yes => return yes
  | fuel + 1, start, yes => do
    if ← skipWord "if" then
      let test ← part
      let no ← if ← skipWord "else" then do
          let start ← lastLine
          let first ← part
          some <$> choiceFrom part fuel start first
        else pure none
      choiceFrom part fuel (← lastLine) (.choice start test yes no)
    else return yes

/-- Reads a choice, given the reader of its parts. -/
def conditional (part : Reading Tree) : Reading Tree := nested do
  let start ← lastLine
  let first ← part
  choiceFrom part ((← bound) + 1) start first

/-- Reads an expression that is not a choice; the number bounds the nesting. -/
def unconditionalWithin : Nat → Reading Tree
  | 0 => fail
  | fuel + 1 =>
    let inner := unconditionalWithin fuel
    disjunction (conditional inner)

/-- Reads an expression that is not a choice. -/
def unconditional : Reading Tree := do
  unconditionalWithin ((← bound) + 1)

/-- Reads an expression. -/
def expression : Reading Tree := conditional unconditional

/-- The next sign closes a value or a statement. -/
def isAtTagEnd : Reading Bool := do
  match ← peek with
  | some .closeValue | some .closeBlock => return true
  | _ => return false

/-- Reads further items behind commas up to the end of the tag. -/
def listedFrom (part : Reading Tree) : Nat → List Tree → Reading (List Tree)
  | 0, done => return done
  | fuel + 1, done => do
    if ← skip "," then
      if ← isAtTagEnd then return done else listedFrom part fuel (done ++ [← part])
    else return done

/-- Reads a part, or several with commas between them, which make a list without brackets. -/
def listed (part : Reading Tree) : Reading Tree := do
  let line ← nextLine
  let first ← part
  if ← isAt "," then return .list line (← listedFrom part (← bound) [first])
  else return first

end Scaffold.Expr.Reading

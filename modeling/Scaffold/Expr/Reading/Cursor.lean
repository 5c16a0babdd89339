import Scaffold.Expr.Token.Scanner
import Scaffold.Expr.Tree

/-!
# Cursor — the signs not yet read

A reading takes signs from the front of a template. A failure is reported at the line of the
last sign taken.
-/

set_option autoImplicit false

namespace Scaffold.Expr

/-- Where a reading stands. -/
structure Cursor where
  lexemes : List Lexeme
  /-- The line of the last sign taken. -/
  last : Nat := 1
  /-- How many expressions and statements are open around the cursor. -/
  depth : Nat := 0
  inLoop : Bool := false
  inRoutine : Bool := false
  /-- The names of the blocks met so far. -/
  blocks : List String := []

/-- Reads a part of a template. -/
abbrev Reading := StateT Cursor (Except Failure)

namespace Reading

/-- Fails at the last sign taken. -/
def fail {α : Type} : Reading α := do
  let c ← get
  throw { kind := .malformed, line := some c.last }

/-- The next sign. -/
def peek : Reading (Option Token) := do
  let c ← get
  match c.lexemes with
  | [] => return none
  | .token token _ :: _ => return some token
  | .fault kind line :: _ => throw { kind, line := some (line.getD c.last) }

/-- The next sign if it is a text. A place where no sign can be read counts as the end of the
template here. -/
def peekText : Reading (Option String) := do
  let c ← get
  match c.lexemes with
  | .token (.string s) _ :: _ => return some s
  | .fault .. :: _ =>
    set { c with lexemes := [] }
    return none
  | _ => return none

/-- Moves past a sign. -/
def Cursor.advance (c : Cursor) (line : Nat) : Cursor :=
  { c with lexemes := c.lexemes.drop 1, last := line }

/-- Takes the next sign. -/
def next : Reading (Option Token) := do
  let token ← peek
  let c ← get
  match c.lexemes with
  | .token _ line :: _ => set (Cursor.advance c line)
  | _ => pure ()
  return token

/-- Takes the next sign, which must be there. -/
def take : Reading Token := do
  match ← next with
  | some token => return token
  | none => fail

/-- The line of the last sign taken. -/
def lastLine : Reading Nat := do
  return (← get).last

/-- The line of the next sign. -/
def nextLine : Reading Nat := do
  let c ← get
  match c.lexemes with
  | .token _ line :: _ => return line
  | _ => return c.last

/-- The next sign is this operator or bracket. -/
def isAt (spelling : String) : Reading Bool := do
  match ← peek with
  | some (.punctuation s) => return s == spelling
  | _ => return false

/-- Takes an operator or bracket if it comes next. -/
def skip (spelling : String) : Reading Bool := do
  if ← isAt spelling then
    let _ ← next
    return true
  else return false

/-- Takes an operator or bracket that must come next. -/
def expect (spelling : String) : Reading Unit := do
  match ← take with
  | .punctuation s => if s == spelling then return () else fail
  | _ => fail

/-- The next sign is this word. -/
def isAtWord (word : String) : Reading Bool := do
  match ← peek with
  | some (.name n) => return n == word
  | _ => return false

/-- Takes a word if it comes next. -/
def skipWord (word : String) : Reading Bool := do
  if ← isAtWord word then
    let _ ← next
    return true
  else return false

/-- Takes a word that must come next. -/
def expectWord (word : String) : Reading Unit := do
  match ← take with
  | .name n => if n == word then return () else fail
  | _ => fail

/-- Takes a name. -/
def identifier : Reading String := do
  match ← take with
  | .name n => return n
  | _ => fail

/-- Takes names behind points; they belong to the name in front of them. -/
def qualifiedFrom : Nat → String → Reading String
  | 0, name => return name
  | fuel + 1, name => do
    if ← skip "." then qualifiedFrom fuel (name ++ "." ++ (← identifier)) else return name

/-- Takes a name that may have points in it. -/
def qualified : Reading String := do
  let c ← get
  qualifiedFrom c.lexemes.length (← identifier)

/-- The next sign closes a statement. -/
def isAtBlockEnd : Reading Bool := do
  match ← peek with
  | some .closeBlock => return true
  | _ => return false

/-- Takes the sign that closes a statement. -/
def expectBlockEnd : Reading Unit := do
  match ← take with
  | .closeBlock => return ()
  | _ => fail

/-- The number of signs left, which bounds every repetition. -/
def bound : Reading Nat := do
  return (← get).lexemes.length

/-- How deep expressions and statements nest. -/
def maxDepth : Nat := 150

/-- Opens an expression or a statement. -/
def Cursor.deeper (c : Cursor) : Cursor := { c with depth := c.depth + 1 }

/-- Closes an expression or a statement. -/
def Cursor.shallower (c : Cursor) : Cursor := { c with depth := c.depth - 1 }

/-- Reads a part that counts towards the nesting. -/
def nested {α : Type} (r : Reading α) : Reading α := do
  modify Cursor.deeper
  if maxDepth < (← get).depth then fail
  else
    let a ← r
    modify Cursor.shallower
    return a

end Reading

end Scaffold.Expr

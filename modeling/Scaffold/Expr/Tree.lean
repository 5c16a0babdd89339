/-!
# Tree — expressions and templates as read

A template is text with expressions and statements in it. Every node that can fail when it is
evaluated carries the line that a failure is reported at: the line of the last part that is
evaluated before it. Lists and maps carry the line that they begin on.
-/

set_option autoImplicit false

namespace Scaffold.Expr

/-- A constant. -/
inductive Literal
  | none
  | bool (b : Bool)
  | int (n : Nat)
  | float (x : Float)
  | string (s : String)

/-- Operators in front of an operand. -/
inductive UnaryOp
  | not
  | negate
  deriving DecidableEq, Repr

/-- Operators between two operands. -/
inductive BinaryOp
  | equal
  | unequal
  | less
  | lessOrEqual
  | greater
  | greaterOrEqual
  | and
  | or
  | add
  | subtract
  | multiply
  | divide
  | floorDivide
  | remainder
  | power
  | concat
  | contains
  deriving DecidableEq, Repr

mutual

/-- An expression. -/
inductive Tree
  | variable (line : Nat) (name : String)
  | literal (line : Nat) (value : Literal)
  | unary (line : Nat) (op : UnaryOp) (operand : Tree)
  | binary (line : Nat) (op : BinaryOp) (left right : Tree)
  /-- Comparisons in a row, each of two neighbours, all of which must hold. -/
  | comparisons (line : Nat) (first : Tree) (rest : List Comparison)
  | choice (line : Nat) (test yes : Tree) (no : Option Tree)
  | slice (line : Nat) (base : Tree) (start stop step : Option Tree)
  /-- A filter without operand takes the text of the block it stands on. -/
  | filter (line : Nat) (name : String) (operand : Option Tree) (arguments : List Argument)
  | test (line : Nat) (name : String) (operand : Tree) (arguments : List Argument)
  | attribute (line : Nat) (base : Tree) (name : String)
  | item (line : Nat) (base index : Tree)
  | call (line : Nat) (callee : Tree) (arguments : List Argument)
  | list (line : Nat) (items : List Tree)
  | map (line : Nat) (entries : List (Tree × Tree))

/-- A comparison with the operand on its right, or its negation. -/
inductive Comparison
  | mk (line : Nat) (op : BinaryOp) (negated : Bool) (right : Tree)

/-- An argument of a call, a filter or a test. -/
inductive Argument
  | positional (value : Tree)
  | spread (value : Tree)
  | named (name : String) (value : Tree)
  | spreadNamed (value : Tree)

end

instance : Inhabited Tree := ⟨.literal 0 .none⟩

mutual

/-- An expression of constants alone. -/
def Tree.isConstant : Tree → Bool
  | .literal .. => true
  | .unary _ _ operand => operand.isConstant
  | .binary _ _ left right => left.isConstant && right.isConstant
  | .list _ items => Tree.allConstant items
  | .map _ entries => Tree.allConstantPairs entries
  | _ => false

/-- Expressions of constants alone. -/
def Tree.allConstant : List Tree → Bool
  | [] => true
  | t :: ts => t.isConstant && Tree.allConstant ts

/-- Pairs of expressions of constants alone. -/
def Tree.allConstantPairs : List (Tree × Tree) → Bool
  | [] => true
  | (key, value) :: entries =>
    key.isConstant && value.isConstant && Tree.allConstantPairs entries

end

mutual

/-- The line that an evaluation stands on behind an expression that it came to on the line
`entry`. A list or map of constants does not move it. -/
def Tree.exit (entry : Nat) : Tree → Nat
  | .variable line _ | .literal line _ | .binary line _ _ _ | .comparisons line _ _
  | .slice line _ _ _ _
  | .filter line _ _ _ | .test line _ _ _ | .attribute line _ _ | .item line _ _
  | .call line _ _ => line
  | .unary line _ operand => operand.exit line
  | .choice line condition yes no =>
    match no with
    | some no => no.exit (yes.exit (condition.exit line))
    | none => yes.exit (condition.exit line)
  | .list line items => if Tree.allConstant items then entry else Tree.exitAll line items
  | .map line entries =>
    if Tree.allConstantPairs entries then entry else Tree.exitPairs line entries

/-- The line behind expressions in a row. -/
def Tree.exitAll (entry : Nat) : List Tree → Nat
  | [] => entry
  | t :: ts => Tree.exitAll (t.exit entry) ts

/-- The line behind pairs of expressions in a row. -/
def Tree.exitPairs (entry : Nat) : List (Tree × Tree) → Nat
  | [] => entry
  | (key, value) :: entries => Tree.exitPairs (value.exit (key.exit entry)) entries

end

/-- The value of an argument. -/
def Argument.value : Argument → Tree
  | .positional value | .spread value | .named _ value | .spreadNamed value => value

/-- The argument stands in the list of positions. -/
def Argument.isPositional : Argument → Bool
  | .positional _ | .spread _ => true
  | .named .. | .spreadNamed _ => false

/-- A named argument that is written as a constant. -/
def Argument.isNamedLiteral : Argument → Bool
  | .named _ (.literal ..) => true
  | _ => false

/-- The line behind the arguments of a call: positions first, then names. Names whose values are
all written as constants do not move it. -/
def Argument.exit (entry : Nat) (arguments : List Argument) : Nat :=
  let (positions, names) := arguments.partition Argument.isPositional
  let line := Tree.exitAll entry (positions.map Argument.value)
  if names.all Argument.isNamedLiteral then line
  else Tree.exitAll line (names.map Argument.value)

/-- What an assignment binds: a name, an attribute, or the items of a sequence. -/
inductive Target
  | name (name : String)
  | attribute (line : Nat) (base : Tree) (name : String)
  | items (line : Nat) (targets : List Target)

instance : Inhabited Target := ⟨.name ""⟩

mutual

/-- What an expression stands for when it is assigned to. -/
def Tree.target? : Tree → Option Target
  | .variable _ name => some (.name name)
  | .attribute line base name => some (.attribute line base name)
  | .list line items => (Tree.targets? items).map (.items line)
  | _ => none

/-- What several expressions stand for when they are assigned to. -/
def Tree.targets? : List Tree → Option (List Target)
  | [] => some []
  | t :: ts => do return (← t.target?) :: (← Tree.targets? ts)

end

mutual

/-- A statement. -/
inductive Stmt
  /-- Text as it stands. -/
  | text (text : String)
  /-- An expression whose value is written. -/
  | emit (line : Nat) (value : Tree)
  | loop (line : Nat) (target : Target) (source : Tree) (keep : Option Tree) (recursive : Bool)
      (body otherwise : List Stmt)
  | choice (test : Tree) (yes no : List Stmt)
  | scope (line : Nat) (bindings : List (Target × Tree)) (body : List Stmt)
  | set (target : Target) (value : Tree)
  | setBlock (target : Target) (filter : Option Tree) (body : List Stmt)
  | autoescape (line : Nat) (enabled : Tree) (body : List Stmt)
  | filterBlock (line : Nat) (filter : Tree) (body : List Stmt)
  /-- A named part; a `required` one must be given by another template. -/
  | block (line : Nat) (name : String) (required : Bool) (body : List Stmt)
  | inherit (line : Nat) (name : Tree)
  | include (line : Nat) (name : Tree) (ignoreMissing : Bool)
  | importAll (line : Nat) (source : Tree) (target : Target)
  | importNames (line : Nat) (source : Tree) (names : List (String × String))
  | define (routine : Routine)
  | callBlock (line : Nat) (callee : Tree) (arguments : List Argument) (block : Routine)
  | perform (line : Nat) (callee : Tree) (arguments : List Argument)
  | leave
  | continue

/-- A routine that a template declares: the last parameters have defaults. -/
inductive Routine
  | mk (name : String) (parameters : List String) (defaults : List Tree) (body : List Stmt)

end

instance : Inhabited Stmt := ⟨.text ""⟩

/-- A named part of a template. -/
structure Block where
  /-- Another template must give it. -/
  required : Bool
  body : List Stmt

namespace Routine

/-- The name of a routine. -/
def name : Routine → String
  | mk name _ _ _ => name

/-- The names of the parameters. -/
def parameters : Routine → List String
  | mk _ parameters _ _ => parameters

/-- The defaults of the last parameters. -/
def defaults : Routine → List Tree
  | mk _ _ defaults _ => defaults

/-- The body of a routine. -/
def body : Routine → List Stmt
  | mk _ _ _ body => body

end Routine

end Scaffold.Expr

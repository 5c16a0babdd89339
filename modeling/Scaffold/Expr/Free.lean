import Scaffold.Expr.Tree

/-!
# Free — the names that a routine takes from around it

A name is free in a routine if it is used before it is assigned there. Names that a part of the
routine assigns count for the rest of that part only.
-/

set_option autoImplicit false

namespace Scaffold.Expr

/-- The free names found so far, and the assigned ones by the parts around a place, innermost
first. -/
structure Tracker where
  free : List String := []
  assigned : List (List String) := [[]]

namespace Tracker

/-- A name is assigned from here on. -/
def assign (t : Tracker) (name : String) : Tracker :=
  match t.assigned with
  | [] => { t with assigned := [[name]] }
  | part :: rest => { t with assigned := (name :: part) :: rest }

/-- A name is used here. -/
def use (t : Tracker) (name : String) : Tracker :=
  if t.assigned.any (·.contains name) then t
  else ({ t with free := t.free ++ [name] }).assign name

/-- Looks at a part of its own. -/
def within (t : Tracker) (part : Tracker → Tracker) : Tracker :=
  { part { t with assigned := [] :: t.assigned } with assigned := t.assigned }

mutual

/-- Assigns the names of a target. -/
def assignTarget (t : Tracker) : Target → Tracker
  | .name name => t.assign name
  | .attribute .. => t
  | .items _ targets => assignTargets t targets

/-- Assigns the names of targets. -/
def assignTargets (t : Tracker) : List Target → Tracker
  | [] => t
  | target :: targets => assignTargets (assignTarget t target) targets

end

mutual

/-- Looks at an expression. -/
def tree (t : Tracker) : Tree → Tracker
  | .variable _ name => t.use name
  | .literal .. => t
  | .unary _ _ operand => t.tree operand
  | .binary _ _ left right => (t.tree left).tree right
  | .comparisons _ first rest => (t.tree first).comparisons rest
  | .choice _ condition yes no => ((t.tree condition).tree yes).tree? no
  | .slice _ base start stop step => (((t.tree base).tree? start).tree? stop).tree? step
  | .filter _ _ operand args => (t.tree? operand).arguments args
  | .test _ _ operand args => (t.tree operand).arguments args
  | .attribute _ base _ => t.tree base
  | .item _ base index => (t.tree base).tree index
  | .call _ callee args => (t.tree callee).arguments args
  | .list _ items => t.trees items
  | .map _ entries => t.treePairs entries

/-- Looks at an expression that may be missing. -/
def tree? (t : Tracker) : Option Tree → Tracker
  | none => t
  | some e => t.tree e

/-- Looks at expressions. -/
def trees (t : Tracker) : List Tree → Tracker
  | [] => t
  | e :: es => (t.tree e).trees es

/-- Looks at pairs of expressions. -/
def treePairs (t : Tracker) : List (Tree × Tree) → Tracker
  | [] => t
  | (key, value) :: entries => ((t.tree key).tree value).treePairs entries

/-- Looks at the operands of comparisons. -/
def comparisons (t : Tracker) : List Comparison → Tracker
  | [] => t
  | .mk _ _ _ right :: rest => (t.tree right).comparisons rest

/-- Looks at arguments. -/
def arguments (t : Tracker) : List Argument → Tracker
  | [] => t
  | .positional e :: args => (t.tree e).arguments args
  | .spread e :: args => (t.tree e).arguments args
  | .named _ e :: args => (t.tree e).arguments args
  | .spreadNamed e :: args => (t.tree e).arguments args

end

mutual

/-- Looks at a statement. -/
def stmt (t : Tracker) : Stmt → Tracker
  | .text _ => t
  | .emit _ value => t.tree value
  | .loop _ target source keep _ body otherwise =>
    let t := t.within fun t =>
      (((t.assign "loop").tree source).assignTarget target).tree? keep |>.stmts body
    t.within (·.stmts otherwise)
  | .choice condition yes no => ((t.tree condition).within (·.stmts yes)).within (·.stmts no)
  | .scope _ bindings body => t.within fun t => (t.bindings bindings).stmts body
  | .set target value => (t.assignTarget target).tree value
  | .setBlock target filter body =>
    (t.assignTarget target).within fun t => (t.tree? filter).stmts body
  | .autoescape _ enabled body => t.within fun t => (t.tree enabled).stmts body
  | .filterBlock _ filter body => t.within fun t => (t.tree filter).stmts body
  | .block _ _ _ body => t.within fun t => (t.assign "super").stmts body
  | .inherit _ name => t.tree name
  | .include _ name _ => t.tree name
  | .importAll _ _ target => t.assignTarget target
  | .importNames _ _ names => names.foldl (fun t (_, given) => t.assign given) t
  | .define routine => (t.assign routine.name).routine routine
  | .callBlock _ callee args block => ((t.tree callee).arguments args).routine block
  | .perform _ callee args => (t.tree callee).arguments args
  | .leave | .continue => t

/-- Looks at statements. -/
def stmts (t : Tracker) : List Stmt → Tracker
  | [] => t
  | s :: ss => (t.stmt s).stmts ss

/-- Looks at bindings. -/
def bindings (t : Tracker) : List (Target × Tree) → Tracker
  | [] => t
  | (target, value) :: rest => ((t.assignTarget target).tree value).bindings rest

/-- Looks at a routine. -/
def routine (t : Tracker) : Routine → Tracker
  | .mk _ parameters defaults body => ((parameters.foldl assign t).trees defaults).stmts body

end

end Tracker

/-- The free names of a routine. -/
def Routine.free (r : Routine) : List String :=
  (Tracker.routine {} r).free

mutual

/-- The named blocks of a statement. -/
def Stmt.blocks : Stmt → List (String × Block)
  | .loop _ _ _ _ _ body otherwise => Stmt.allBlocks body ++ Stmt.allBlocks otherwise
  | .choice _ yes no => Stmt.allBlocks yes ++ Stmt.allBlocks no
  | .scope _ _ body | .setBlock _ _ body | .autoescape _ _ body | .filterBlock _ _ body =>
    Stmt.allBlocks body
  | .block _ name required body => (name, ⟨required, body⟩) :: Stmt.allBlocks body
  | _ => []

/-- The named blocks of statements. -/
def Stmt.allBlocks : List Stmt → List (String × Block)
  | [] => []
  | s :: ss => s.blocks ++ Stmt.allBlocks ss

end

end Scaffold.Expr

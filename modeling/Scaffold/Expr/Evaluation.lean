import Scaffold.Expr.Question
import Scaffold.Expr.Escaping

/-!
# Evaluation — the state of an evaluation

Names are looked up in frames, the innermost first. What can change after a value refers to it
lives in numbered cells: name spaces, the states of loops, and the names that routines close over.
-/

set_option autoImplicit false

namespace Scaffold.Expr

/-- Names with their values. -/
abbrev Names := List (String × Value)

/-- Writes a name: in place, or at the end. -/
def setName (name : String) (v : Value) : Names → Names
  | [] => [(name, v)]
  | (n, w) :: names => if n = name then (n, v) :: names else (n, w) :: setName name v names

/-- Names in their order as texts. -/
def inTextOrder (names : Names) : Names :=
  names.mergeSort fun a b => Value.orderTexts a.1 b.1 != .gt

/-- Where a loop stands. -/
structure LoopState where
  /-- The place of the current item, if there is one. -/
  index : Option Nat
  /-- The number of items, if it is known before they are produced. -/
  length : Option Nat
  /-- How many recursive loops stand around it. -/
  depth : Nat
  previous : Value
  next : Value
  /-- The last arguments for which a change was reported, as they were given. -/
  changed : Option (List Value)

/-- A part of an evaluation that values refer to. -/
inductive Cell
  | names (names : Names)
  | loop (state : LoopState)

/-- What a loop runs again when it is called. -/
structure Recursion where
  line : Nat
  target : Target
  body : List Stmt

/-- A loop around a place. -/
structure LoopFrame where
  cell : Nat
  recursion : Option Recursion

/-- Names that are looked up behind the local ones of a frame. -/
inductive Base
  | nothing
  | bindings (names : Names)
  | closure (cell : Nat)

/-- A frame of names. -/
structure Frame where
  locals : Names := []
  loop : Option LoopFrame := none
  base : Base := .nothing
  /-- The cell of the routines that close over this frame; it learns every new name. -/
  closure : Option Nat := none

/-- The state of an evaluation. -/
structure Evaluation where
  frames : List Frame
  /-- The depth of the frames under these. -/
  depth : Nat := 0
  /-- What was written, the last piece first. -/
  output : List String := []
  /-- What was written around the parts whose text is captured, the innermost first. -/
  outputs : List (List String) := []
  cells : Array Cell := #[]
  /-- The number of the next object. -/
  objects : Nat := 0
  escaping : Escaping := .none
  /-- How values were written at the beginning of the template, routine or block. -/
  initial : Escaping := .none
  /-- How values were written around the parts that changed it, the innermost first. -/
  escapings : List Escaping := []
  blocks : List (String × Block) := []
  /-- The text that a filter without operand takes. -/
  piped : Value := .undefined

/-- A computation in an evaluation, which may fail and may ask the run around it. -/
def Run (α : Type) := Evaluation → Asking (Except Halt (α × Evaluation))

namespace Run

/-- The result without any effect. -/
def pure {α : Type} (a : α) : Run α := fun s => .done (.ok (a, s))

/-- Goes on with a result in the state that it has left. -/
def bind {α β : Type} (x : Run α) (f : α → Run β) : Run β := fun s =>
  (x s).bind fun
    | .ok (a, s) => f a s
    | .error h => .done (.error h)

instance : Monad Run where
  pure := Run.pure
  bind := Run.bind

/-- Ends without a value. -/
def halt {α : Type} (h : Halt) : Run α := fun _ => .done (.error h)

/-- Fails at a line. -/
def fail {α : Type} (line : Nat) (kind : Failure.Kind) : Run α := halt ((Halt.of kind).onLine line)

/-- The result of a computation without effects. -/
def lift {α : Type} (line : Nat) : Except Halt α → Run α
  | .ok a => pure a
  | .error h => halt (h.onLine line)

/-- Sets the line of a failure that has none. -/
def onLine {α : Type} (line : Nat) (x : Run α) : Run α := fun s =>
  (x s).bind fun
    | .ok a => .done (.ok a)
    | .error h => .done (.error (h.onLine line))

/-- Asks the run around the evaluation. -/
def ask (q : Question) : Run q.Answer := fun s => .ask q fun a => .done (.ok (a, s))

/-- The state of the evaluation. -/
def get : Run Evaluation := fun s => .done (.ok (s, s))

/-- Changes the state of the evaluation. -/
def modify (f : Evaluation → Evaluation) : Run Unit := fun s => .done (.ok ((), f s))

end Run

namespace Evaluation

/-- The deepest stack of frames. -/
def maxDepth : Nat := 500

/-- How much deeper the frames of a routine count. -/
def routineDepth : Nat := 4

/-- The depth of the frames. -/
def height (s : Evaluation) : Nat := s.depth + s.frames.length

/-- The names of a cell. -/
def namesOf (s : Evaluation) (cell : Nat) : Names :=
  match s.cells[cell]? with
  | some (.names names) => names
  | _ => []

/-- The state of a loop. -/
def loopOf? (s : Evaluation) (cell : Nat) : Option LoopState :=
  match s.cells[cell]? with
  | some (.loop state) => some state
  | _ => none

/-- Changes a cell. -/
def setCell (s : Evaluation) (cell : Nat) (c : Cell) : Evaluation :=
  { s with cells := s.cells.setIfInBounds cell c }

/-- A name in a frame. -/
def lookupFrame? (s : Evaluation) (name : String) (f : Frame) : Option Value :=
  match f.locals.lookup name, f.loop with
  | some v, _ => some v
  | none, some loop => if name = "loop" then some (.cell .loop loop.cell) else behind f
  | none, none => behind f
where
  /-- A name behind the local ones of a frame. -/
  behind (f : Frame) : Option Value :=
    match f.base with
    | .nothing => none
    | .bindings names => names.lookup name
    | .closure cell => (s.namesOf cell).lookup name

/-- A name in the frames. -/
def lookup? (s : Evaluation) (name : String) : Option Value :=
  s.frames.findSome? (s.lookupFrame? name)

/-- A value as an object of its own. -/
def identify (s : Evaluation) (v : Value) : Value × Evaluation :=
  let (v, objects) := v.identified s.objects
  (v, { s with objects })

/-- Assigns a name in the innermost frame. -/
def store (s : Evaluation) (name : String) (v : Value) : Evaluation :=
  let (v, s) := s.identify v
  match s.frames with
  | [] => s
  | f :: rest =>
    let s := match f.closure with
      | some cell => s.setCell cell (.names (setName name v (s.namesOf cell)))
      | none => s
    { s with frames := { f with locals := setName name v f.locals } :: rest }

/-- Adds a cell; its number is the number of cells before. -/
def addCell (s : Evaluation) (c : Cell) : Evaluation :=
  { s with cells := s.cells.push c }

/-- Adds a frame. -/
def push (s : Evaluation) (f : Frame) : Evaluation :=
  { s with frames := f :: s.frames }

/-- Removes the innermost frame. -/
def pop (s : Evaluation) : Evaluation :=
  { s with frames := s.frames.drop 1 }

/-- The innermost loop. -/
def loop? (s : Evaluation) : Option LoopFrame :=
  s.frames.findSome? (·.loop)

/-- What was written since the last capture began, as one text. -/
def captured (s : Evaluation) : String :=
  String.join s.output.reverse

/-- What was written outside of all captures. A loop that is left inside of a captured part does
not end the capture: what follows is written into it and is lost with it. -/
def written (s : Evaluation) : String :=
  String.join (s.outputs.getLast?.getD s.output).reverse

/-- From here on what is written is captured. -/
def beginCapture (s : Evaluation) : Evaluation :=
  { s with output := [], outputs := s.output :: s.outputs }

/-- Ends the innermost capture. -/
def endCapture (s : Evaluation) : Evaluation :=
  { s with output := s.outputs.head?.getD [], outputs := s.outputs.drop 1 }

/-- From here on values are written in another way. -/
def beginEscaping (s : Evaluation) (e : Escaping) : Evaluation :=
  { s with escaping := e, escapings := s.escaping :: s.escapings }

/-- Values are written again as before the last change that has not ended. -/
def endEscaping (s : Evaluation) : Evaluation :=
  { s with escaping := s.escapings.head?.getD s.escaping, escapings := s.escapings.drop 1 }

/-- A loop as it is shown. -/
def showLoop (s : Evaluation) (cell : Nat) : String :=
  match s.loopOf? cell with
  | some l =>
    let length := match l.length with
      | some n => toString n
      | none => "?"
    "<loop " ++ toString (l.index.getD 0) ++ "/" ++ length ++ ">"
  | none => "<loop>"

/-- The names of the attributes of a loop. -/
def loopAttributes : List String := [
  "index0", "index", "length", "revindex", "revindex0", "first", "last", "depth", "depth0",
  "previtem", "nextitem"]

/-- An attribute of a loop. -/
def loopAttribute (l : LoopState) (name : String) : Option Value :=
  match l.index with
  | none => some .undefined
  | some n =>
    match name with
    | "index0" => some (.count n)
    | "index" => some (.count (n + 1))
    | "length" => some (l.length.elim .undefined .count)
    | "revindex" => some (l.length.elim .undefined fun k => .count (k - n))
    | "revindex0" => some (l.length.elim .undefined fun k => .count (k - n - 1))
    | "first" => some (.bool (n == 0))
    | "last" => some (.bool (l.length == some (n + 1) || l.length == some 0))
    | "depth" => some (.count (l.depth + 1))
    | "depth0" => some (.count l.depth)
    | "previtem" => some l.previous
    | "nextitem" => some l.next
    | _ => none

/-- The names of the attributes of a routine. -/
def routineAttributes : List String := ["name", "arguments", "caller"]

/-- An attribute of a routine. -/
def routineAttribute (r : Routine) (usesCaller : Bool) (name : String) : Option Value :=
  match name with
  | "name" => some (.text r.name)
  | "arguments" => some (.seq (r.parameters.map .text))
  | "caller" => some (.bool usesCaller)
  | _ => none

/-- The attributes of a reference to the evaluation. -/
def attributesOf (s : Evaluation) : Value → Names
  | .cell .loop id =>
    match s.loopOf? id with
    | some l => loopAttributes.map fun name => (name, (loopAttribute l name).getD .undefined)
    | none => []
  | .cell _ id => s.namesOf id
  | .routine r _ usesCaller =>
    routineAttributes.map fun name => (name, (routineAttribute r usesCaller name).getD .undefined)
  | _ => []

/-- The text that a reference to the evaluation is written as, if it is not that of a map. -/
def shownAs? (s : Evaluation) : Value → Option String
  | .cell .loop id => some (s.showLoop id)
  | .cell .exports _ => some ""
  | .routine r _ _ => some (Value.spell (.routine r 0 false))
  | _ => none

/-- A reference to the evaluation as a view of the attributes that it is given. -/
def viewOf (s : Evaluation) (v : Value) (attributes : Names) : Value :=
  .view v (s.shownAs? v) (Value.textKeys attributes)

/-- What a reference stands for, and what the references in it stand for, inside of the cells of
`path`. A reference to one of these is not followed; so the number of cells bounds how far references
are followed, and that number does not come to its end. -/
def meaning (s : Evaluation) : Nat → List Nat → Value → Value
  | left, path, .cell kind id =>
    if path.contains id then .again (.cell kind id)
    else
      match left with
      | 0 => .again (.cell kind id)
      | left + 1 =>
        s.viewOf (.cell kind id) <| (s.attributesOf (.cell kind id)).map fun (name, v) =>
          (name, v.fill (s.meaning left (id :: path)))
  | _, _, v => s.viewOf v (s.attributesOf v)

/-- A value in which every reference to the evaluation is replaced by what it stands for. -/
def freeze (s : Evaluation) (v : Value) : Value :=
  v.fill (s.meaning (s.cells.size + 1) [])

end Evaluation

namespace Run

/-- A value as an object of its own. -/
def identified (v : Value) : Run Value := fun s => .done (.ok (s.identify v))

/-- A value with what references to the evaluation stand for in their place. -/
def frozen (v : Value) : Run Value := do
  let s ← get
  return if s.cells.isEmpty then v else s.freeze v

/-- Stops at a value that what is to be done next would look through without an end. -/
def stopAt : Option Value → Run Unit
  | some v => halt (.aborted (.endless v))
  | none => pure ()

/-- The same value with references to the evaluation again. -/
def thawed (v : Value) : Run Value := do
  return if (← get).cells.isEmpty then v else v.thaw

/-- A value that outlives the evaluation. -/
def detached (v : Value) : Run Value := do
  return (← frozen v).detach

/-- Writes a piece of text. -/
def write (text : String) : Run Unit :=
  modify fun s => { s with output := text :: s.output }

/-- Adds a frame, if the stack does not get too deep. -/
def push (line : Nat) (f : Frame) : Run Unit := do
  if Evaluation.maxDepth < (← get).height then fail line .invalidOperation
  else modify (·.push f)

/-- Removes the innermost frame. -/
def pop : Run Unit := modify Evaluation.pop

/-- What a computation writes, in place of writing it. -/
def capture (x : Run Unit) : Run String := do
  modify Evaluation.beginCapture
  x
  let text := (← get).captured
  modify Evaluation.endCapture
  return text

/-- A captured text as a value. -/
def captured (text : String) : Run Value := do
  return .string text ((← get).escaping ≠ .none)

/-- Adds a cell. -/
def newCell (c : Cell) : Run Nat := do
  let id := (← get).cells.size
  modify (·.addCell c)
  return id

end Run

end Scaffold.Expr

import Scaffold.Expr.Free
import Scaffold.Expr.Library
import Scaffold.Expr.Reading.Statement

/-!
# Evaluate — templates to text

Every evaluator of a part takes the evaluators of expressions and of statements as arguments; they
are tied together at the end, where a number bounds how deep evaluations nest.
-/

set_option autoImplicit false

namespace Scaffold.Expr

/-- How statements end: they go on, or they leave a loop or its current round. -/
inductive Flow
  | next
  | leave
  | continue
  deriving DecidableEq

/-- Evaluates an expression. -/
abbrev Exprs := Tree → Run Value

/-- Evaluates statements. -/
abbrev Stmts := List Stmt → Run Flow

namespace Evaluate

/-- Evaluates expressions in a row. -/
def inOrder {α β : Type} (f : α → Run β) : List α → Run (List β)
  | [] => return []
  | a :: rest => do
    let b ← f a
    return b :: (← inOrder f rest)

/-- The values that a spread argument stands for. -/
def spreadValues (line : Nat) (v : Value) : Run (List Value) := do
  match (← Run.frozen v).items? with
  | some items => items.mapM Run.thawed
  | none => Run.fail line .invalidOperation

/-- The named values that a spread argument stands for. -/
def spreadNames (line : Nat) (v : Value) : Run (List (Value × Value)) := do
  match (← Run.frozen v).pairs? with
  | some entries => entries.mapM fun (key, v) => do return (key, ← Run.thawed v)
  | none => Run.fail line .invalidOperation

/-- Evaluates the arguments of a call: positions first, then names; a later name replaces an
earlier one. -/
def arguments (tree : Exprs) (line : Nat) (args : List Argument) (more : Names) :
    Run Arguments := do
  let (positions, names) := args.partition Argument.isPositional
  let values ← inOrder (fun a => do
    match a with
    | .spread e => spreadValues line (← tree e)
    | a => return [← tree a.value]) positions
  let named ← inOrder (fun a => do
    match a with
    | .named n e => return [(.text n, ← tree e)]
    | .spreadNamed e => spreadNames line (← tree e)
    | _ => return []) names
  if names.isEmpty && more.isEmpty then return .ofValues values.flatten
  else return ⟨values.flatten, some (Value.setEntries [] (named.flatten ++ Value.textKeys more))⟩

/-- Assigns a value to a target. -/
def assign (tree : Exprs) : Nat → Nat → Target → Value → Run Unit
  | _, _, .name name, v => Run.modify (·.store name v)
  | _, _, .attribute line base name, v => do
    match ← tree base with
    | .cell .space id =>
      let v ← Run.identified v
      Run.modify fun s => s.setCell id (.names (inTextOrder (setName name v (s.namesOf id))))
    | _ => Run.fail line .invalidOperation
  | 0, line, .items _ _, _ => Run.fail line .cannotUnpack
  | fuel + 1, _, .items line targets, v => do
    let row ← Run.frozen v
    match if row.isRow then row.elements? else none with
    | some items =>
      if items.length = targets.length then
        let _ ← inOrder (fun (t, item) => do assign tree fuel line t (← Run.thawed item))
          (targets.zip items)
      else Run.fail line .cannotUnpack
    | none => Run.fail line .cannotUnpack

/-- How deep targets nest. -/
def targetDepth : Nat := 200

/-- Encloses the free names of a routine in the closure of the innermost frame. -/
def enclose (r : Routine) : Run Nat := do
  let s ← Run.get
  let cell ← match s.frames.head?.bind (·.closure) with
    | some cell => pure cell
    | none => do
      let cell ← Run.newCell (.names [])
      Run.modify fun s =>
        match s.frames with
        | [] => s
        | f :: rest => { s with frames := { f with closure := some cell } :: rest }
      pure cell
  Run.modify fun s =>
    (r.free.filter (· != "caller")).foldl (fun s name =>
      let names := s.namesOf cell
      if (names.lookup name).isSome then s
      else
        let global : Option Value :=
          if Library.names.contains name then some (.function name) else none
        let v := ((s.lookup? name) <|> global).getD .undefined
        s.setCell cell (.names (setName name v names))) s
  return cell

/-- A routine as a value. -/
def routineValue (r : Routine) : Run Value := do
  let cell ← enclose r
  return .routine r cell (r.free.contains "caller")

/-- The values of the parameters of a routine. -/
def parameterValues (r : Routine) (args : Arguments) : Except Halt (List (String × Value)) :=
  if r.parameters.length < args.values.length then .error (.of .tooManyArguments)
  else
    (r.parameters.zip (List.range r.parameters.length)).mapM fun (name, n) =>
      match args.values[n]?, args.lookup? name with
      | some _, some _ => .error (.of .tooManyArguments)
      | some v, none => .ok (name, v)
      | none, some v => .ok (name, v)
      | none, none => .ok (name, .undefined)

/-- Every named argument is a parameter, or the block that is handed over. -/
def checkNames (r : Routine) (usesCaller : Bool) (args : Arguments) : Except Halt Unit :=
  let known (name : String) : Bool :=
    r.parameters.contains name || (usesCaller && name == "caller")
  if (args.named.getD []).all fun (key, _) => (key.text?.map known).getD true then .ok ()
  else .error (.of .tooManyArguments)

/-- Assigns the parameters of a routine, the last one first; an undefined value is replaced by the
default, which is evaluated then. -/
def bindParameters (tree : Exprs) : List ((String × Value) × Option Tree) → Run Unit
  | [] => return ()
  | ((name, v), otherwise) :: rest => do
    let v ← match v, otherwise with
      | .undefined, some e => tree e
      | v, _ => pure v
    Run.modify (·.store name v)
    bindParameters tree rest

/-- Calls a routine: it sees the names that it closes over and those of the whole run. -/
def callRoutine (tree : Exprs) (body : Stmts) (line : Nat) (r : Routine) (closure : Nat)
    (usesCaller : Bool) (args : Arguments) : Run Value := do
  let values ← Run.lift line (parameterValues r args)
  Run.lift line (checkNames r usesCaller args)
  let outer ← Run.get
  let root : List Frame := (outer.frames.getLast?.map fun f => { base := f.base }).toList
  let depth := outer.height + Evaluation.routineDepth
  if Evaluation.maxDepth < depth + 2 then Run.fail line .invalidOperation
  else
    Run.modify fun s =>
      { s with frames := { base := .closure closure } :: root, depth, output := [],
               outputs := [], escapings := [], initial := s.escaping, blocks := [] }
    if usesCaller then
      let caller := (args.lookup? "caller").getD .undefined
      Run.modify (·.store "caller" caller)
    let missing := r.parameters.length - r.defaults.length
    let defaults : List (Option Tree) := List.replicate missing none ++ r.defaults.map some
    bindParameters tree (values.zip defaults).reverse
    let _ ← body r.body
    let text := (← Run.get).written
    Run.modify fun s =>
      { s with frames := outer.frames, depth := outer.depth, output := outer.output,
               outputs := outer.outputs, escapings := outer.escapings, blocks := outer.blocks,
               escaping := outer.escaping, initial := outer.initial }
    Run.captured text

/-- The value of a name in a value that counts as an object; none if it is missing. -/
def member? (v : Value) (name : String) : Run (Option Value) := do
  let s ← Run.get
  match v with
  | .cell .loop id => return (s.loopOf? id).bind (Evaluation.loopAttribute · name)
  | .cell _ id => return (s.namesOf id).lookup name
  | .routine r _ usesCaller => return Evaluation.routineAttribute r usesCaller name
  | v => return v.attribute? name

/-- The value of an attribute. -/
def attributeOf (line : Nat) (v : Value) (name : String) : Run Value := do
  match v with
  | .context => Library.contextAttribute name
  | .document => Library.documentAttribute name
  | v => Run.lift line (v.orUndefined (← member? v name))

/-- The value of a key or place. -/
def itemOf (line : Nat) (v key : Value) : Run Value := do
  match v, key.text? with
  | .context, some name | .document, some name | .cell .., some name | .routine .., some name =>
    attributeOf line v name
  | v, _ => Run.lift line (v.item (← Run.frozen key))

/-- Arguments with what references to the evaluation stand for in their place. -/
def frozenArguments (args : Arguments) : Run Arguments := do
  let values ← inOrder Run.frozen args.values
  match args.named with
  | some named =>
    let named ← inOrder (fun (entry : Value × Value) => do
      return (entry.1, ← Run.frozen entry.2)) named
    return ⟨values, some named⟩
  | none => return ⟨values, none⟩

/-- Arguments for a function of the library. -/
def libraryArguments (name : String) (args : Arguments) : Run Arguments := do
  let args ← frozenArguments args
  Run.stopAt (Library.endless? name args)
  return args

/-- Arguments for a method of the run. Only what spells them out looks into them. -/
def methodArguments (name : String) (args : Arguments) : Run Arguments :=
  if Library.spellers.contains name then libraryArguments name args else return args

/-- Calls a value. -/
def callValue (tree : Exprs) (body : Stmts) (line : Nat) (v : Value) (args : Arguments) :
    Run Value := do
  match v with
  | .function name => do Run.thawed (← Library.call line name (← libraryArguments name args))
  | .routine r closure usesCaller => callRoutine tree body line r closure usesCaller args
  | .cell .loop _ => Run.fail line .unknownFunction
  | _ => Run.fail line .invalidOperation

/-- The arguments are those for which a loop has last reported a change. -/
def repeats (l : LoopState) (args : List Value) : Run Bool := do
  match l.changed with
  | some before => do
    let before ← inOrder Run.frozen before
    let args ← inOrder Run.frozen args
    Run.stopAt ((before.zip args).findSome? fun (a, b) => a.endlessBeside? b)
    return Value.sameAll before args
  | none => return false

/-- Calls a method of a loop, if it has one of this name. -/
def loopMethod? (id : Nat) (name : String) (args : List Value) : Run (Option Value) := do
  match (← Run.get).loopOf? id, name with
  | some l, "cycle" =>
    if args.isEmpty then Run.halt (.aborted .emptyCycle)
    else return some ((args[l.index.getD 0 % args.length]?).getD .undefined)
  | some l, "changed" =>
    let same ← repeats l args
    Run.modify (·.setCell id (.loop { l with changed := some args }))
    return some (.bool !same)
  | _, _ => return none

/-- The value of an attribute of a value, if it has it. -/
def attributeIn? (v : Value) (name : String) : Run (Option Value) := do
  match v with
  | .context =>
    if Library.contextNames.contains name then some <$> Library.contextAttribute name
    else return none
  | .document =>
    if Library.sections.contains name then some <$> Library.documentAttribute name
    else return none
  | v => member? v name

/-- Calls a method of a value: one of its own, or an attribute that can be called. -/
def callMethod (tree : Exprs) (body : Stmts) (line : Nat) (v : Value) (name : String)
    (args : Arguments) : Run Value := do
  let own ← match v with
    | .context => do Library.callMethod? line name (← methodArguments name args)
    | .cell .loop id => loopMethod? id name args.flat
    | _ => pure none
  match own with
  | some result => return result
  | none =>
    match ← attributeIn? v name, v with
    | some f, _ => callValue tree body line f args
    | none, .context =>
      Run.halt (.failed ⟨.unknownMethod, some ("this has no method named " ++ name), some line⟩)
    | none, _ => Run.fail line .unknownMethod

/-- Moves a loop to a place. -/
def standAt (cell n : Nat) (before next : Value) : Run Unit :=
  Run.modify fun s =>
    match s.loopOf? cell with
    | some l => s.setCell cell (.loop { l with index := some n, previous := before, next })
    | none => s

/-- Runs the rounds of a loop, which stands behind its last item when all are done; tells whether it
never came beyond its first place. -/
def rounds (tree : Exprs) (body : Stmts) (line cell : Nat) (target : Target)
    (statements : List Stmt) : Nat → Value → List Value → Run Bool
  | n, before, [] => do
    standAt cell n before .undefined
    return n == 0
  | n, before, item :: rest => do
    standAt cell n before (rest.head?.getD .undefined)
    assign tree targetDepth line target item
    match ← body statements with
    | .leave => return n == 0
    | _ => rounds tree body line cell target statements (n + 1) item rest

/-- Removes the frame of a loop. A scope that was left from within still stands on top of it; then
nothing is handed back. -/
def endLoop : Run Unit := do
  match (← Run.get).frames.head?.bind (·.loop) with
  | some _ => Run.pop
  | none => Run.halt (.aborted .openScope)

/-- Runs a loop over items, and what stands for them if the loop never came beyond its first place.
The number of items is shown if it is `counted`. -/
def runLoop (tree : Exprs) (body : Stmts) (line : Nat) (recursion : Option Recursion)
    (target : Target) (statements : List Stmt) (items : List Value) (counted : Bool) :
    Run Bool := do
  let s ← Run.get
  let depth := match s.loop? with
    | some l => if l.recursion.isSome then ((s.loopOf? l.cell).map (·.depth + 1)).getD 0 else 0
    | none => 0
  let cell ← Run.newCell (.loop
    { index := none, length := if counted then some items.length else none, depth,
      previous := .undefined, next := .undefined,
      changed := none })
  Run.push line { loop := some ⟨cell, recursion⟩ }
  let unmoved ← rounds tree body line cell target statements 0 .undefined items
  endLoop
  return unmoved

/-- The items that a loop runs over. -/
def loopItems (line : Nat) (v : Value) : Run (List Value) := do
  match (← Run.frozen v).items? with
  | some items => items.mapM Run.thawed
  | none => Run.fail line .invalidOperation

/-- The loop that a call of the loop around a place runs again. -/
def recursion (line : Nat) : Run Recursion := do
  match (← Run.get).loop? with
  | some l =>
    match l.recursion with
    | some r => return r
    | none => Run.fail line .invalidOperation
  | none => Run.fail line .unknownFunction

/-- Calls the loop around a place: it runs again over other items. -/
def recurse (tree : Exprs) (body : Stmts) (line : Nat) (args : Arguments) : Run Value := do
  match args.flat with
  | [v] => do
    let r ← recursion line
    let text ← Run.capture do
      let _ ← runLoop tree body r.line (some r) r.target r.body (← loopItems r.line v) v.isCounted
    Run.captured text
  | _ => Run.fail line .invalidOperation

/-- Runs a named block; one that another template must give cannot be run. -/
def runBlock (body : Stmts) (line : Nat) (name : String) : Run Unit := do
  let outer ← Run.get
  match outer.blocks.lookup name with
  | some block =>
    if block.required then Run.fail line .invalidOperation
    else
      Run.modify fun s => { s with escapings := [], initial := s.escaping }
      Run.push line {}
      let _ ← body block.body
      Run.pop
      Run.modify fun s => { s with escapings := outer.escapings, initial := outer.initial }
  | none => Run.fail line .unknownBlock

/-- Evaluates a call. -/
def call (tree : Exprs) (body : Stmts) (line : Nat) (callee : Tree) (args : List Argument)
    (more : Names) : Run Value := do
  match callee with
  | .variable _ name => do
    let args ← arguments tree line args more
    if name == "super" then Run.fail line .invalidOperation
    else if name == "loop" then recurse tree body line args
    else
      match (← Run.get).lookup? name with
      | some f => callValue tree body line f args
      | none =>
        if Library.names.contains name then callValue tree body line (.function name) args
        else Run.fail line .unknownFunction
  | .attribute _ (.variable _ "self") name => do
    Run.captured (← Run.capture (runBlock body line name))
  | .attribute _ base name => do
    let v ← tree base
    let args ← arguments tree line args more
    callMethod tree body line v name args
  | callee => do
    let f ← tree callee
    let args ← arguments tree line args more
    callValue tree body line f args

/-- Evaluates an operand that may be missing. -/
def orElse (tree : Exprs) (otherwise : Value) : Option Tree → Run Value
  | some e => tree e
  | none => return otherwise

/-- An operand that an operator would compare or write without an end. -/
def endlessOperand? (op : BinaryOp) (a b : Value) : Option Value :=
  match op with
  | .equal | .unequal | .less | .lessOrEqual | .greater | .greaterOrEqual => a.endlessBeside? b
  | .contains => a.endlessWithin? b
  | .concat => Value.firstEndless? true [a, b]
  | _ => none

/-- Applies an operator to the values of its operands. -/
def operate (line : Nat) (op : BinaryOp) (a b : Value) : Run Value := do
  let a ← Run.frozen a
  let b ← Run.frozen b
  Run.stopAt (endlessOperand? op a b)
  Run.lift line (Value.binary op a b)

/-- Evaluates an operator between two operands. The second operand of `and` and `or` is evaluated
only if the first one does not decide; constants on both sides give a truth value for `and`. -/
def binary (tree : Exprs) (line : Nat) (op : BinaryOp) (left right : Tree) : Run Value := do
  let constants : Option Value :=
    if op = .and then Value.constant? (.binary line op left right) else none
  match constants, op with
  | some v, _ => return v
  | none, .and => do
    let a ← tree left
    if (← Run.frozen a).isTrue then tree right else return a
  | none, .or => do
    let a ← tree left
    if (← Run.frozen a).isTrue then return a else tree right
  | none, op => do
    let a ← tree left
    let b ← tree right
    Run.thawed (← operate line op a b)

/-- Evaluates comparisons in a row up to the first that does not hold. -/
def comparisons (tree : Exprs) (left : Value) : List Comparison → Run Value
  | [] => return .bool true
  | .mk line op negated right :: rest => do
    let right ← tree right
    let holds ← operate line op left right
    if holds.isTrue == negated then return .bool false else comparisons tree right rest

/-- Evaluates an expression, given the evaluators of its parts. -/
def expression (tree : Exprs) (body : Stmts) : Tree → Run Value
  | .variable _ name => do
    match (← Run.get).lookup? name with
    | some v => return v
    | none => return if Library.names.contains name then .function name else .undefined
  | .literal _ value => return .ofLiteral value
  | .unary line op operand => do
    Run.lift line (Value.unary op (← Run.frozen (← tree operand)))
  | .binary line op left right => binary tree line op left right
  | .comparisons _ first rest => do comparisons tree (← tree first) rest
  | .choice _ condition yes no => do
    if (← Run.frozen (← tree condition)).isTrue then tree yes else orElse tree .undefined no
  | .slice line base start stop step => do
    let v ← Run.frozen (← tree base)
    let start ← orElse tree .none start
    let stop ← orElse tree .none stop
    let step ← orElse tree (.count 1) step
    Run.thawed (← Run.lift line (v.slice start stop step))
  | .filter line name operand args => do
    let s ← Run.get
    let v ← orElse tree s.piped operand
    let args ← arguments tree line args []
    let args ← frozenArguments (args.behind v)
    Run.stopAt (Filter.endless? name args)
    Run.thawed (← Run.lift line (Filter.run (← Run.get).escaping name args))
  | .test line name operand args => do
    let v ← tree operand
    let args ← arguments tree line args []
    let args ← frozenArguments (args.behind v)
    Run.stopAt (Test.endless? name args)
    return .bool (← Run.lift line (Test.run name args))
  | .attribute line base name => do attributeOf line (← tree base) name
  | .item line base index => do
    let v ← tree base
    itemOf line v (← tree index)
  | .call line callee args => call tree body line callee args []
  | .list _ items => do Run.identified (.seq (← inOrder tree items))
  | .map _ entries => do
    let entries ← inOrder (fun (entry : Tree × Tree) => do
      let key ← tree entry.1
      return (key, ← tree entry.2)) entries
    Run.identified (.map (Value.setEntries [] entries) .plain)

/-- Runs bindings of a scope. -/
def bindings (tree : Exprs) (line : Nat) : List (Target × Tree) → Run Unit
  | [] => return ()
  | (target, value) :: rest => do
    assign tree targetDepth line target (← tree value)
    bindings tree line rest

/-- Filters a captured text. -/
def piped (tree : Exprs) (v : Value) (filter : Tree) : Run Value := do
  let outer := (← Run.get).piped
  Run.modify fun s => { s with piped := v }
  let v ← tree filter
  Run.modify fun s => { s with piped := outer }
  return v

/-- Writes a value. -/
def emit (line : Nat) (v : Value) : Run Unit := do
  let v ← Run.frozen v
  let escaping := (← Run.get).escaping
  Run.stopAt (Value.firstEndless? (escaping ≠ .json) [v])
  Run.write (← Run.lift line (escaping.write v))

/-- Keeps the items of a loop for which a condition holds. -/
def keepItems (tree : Exprs) (line : Nat) (target : Target) (condition : Tree) :
    List Value → Run (List Value)
  | [] => return []
  | item :: rest => do
    assign tree targetDepth line target item
    let holds := (← Run.frozen (← tree condition)).isTrue
    let kept ← keepItems tree line target condition rest
    return if holds then item :: kept else kept

/-- Looks for another template by one of the names that a value gives. There is none; a value
without names asks for none. -/
def otherTemplate (line : Nat) (v : Value) (ignoreMissing : Bool) : Run Unit := do
  let names := match v with
    | .undefined | .none | .bool _ | .int .. | .float _ | .string .. | .bytes _ | .invalid _ => [v]
    | v => v.elements?.getD []
  if names.any fun n => n.text?.isNone then Run.fail line .invalidOperation
  else if names.isEmpty || ignoreMissing then return ()
  else Run.fail line .templateNotFound

/-- Captures what a part writes, unless the part is left before its end. -/
def capturing (body : Stmts) (statements : List Stmt) : Run (String × Flow) := do
  Run.modify Evaluation.beginCapture
  match ← body statements with
  | .next =>
    let text := (← Run.get).captured
    Run.modify Evaluation.endCapture
    return (text, .next)
  | flow => return ("", flow)

/-- Runs a statement, given the evaluators of its parts. -/
def statement (tree : Exprs) (body : Stmts) : Stmt → Run Flow
  | .text text => do
    Run.write text
    return .next
  | .emit line value => do
    match value with
    | .call _ (.variable _ "loop") [.spread operand] => do
      let _ ← spreadValues line (← tree operand)
      let _ ← recursion line
      Run.fail line .invalidOperation
    | value => emit line (← tree value)
    return .next
  | .loop line target source keep recursive inner otherwise => do
    let source ← tree source
    let items ← loopItems line source
    let items ← match keep with
      | none => pure items
      | some condition => do
        Run.push line {}
        let kept ← keepItems tree line target condition items
        Run.pop
        pure kept
    let counted := keep.isSome || source.isCounted
    let recursion : Option Recursion := if recursive then some ⟨line, target, inner⟩ else none
    if ← runLoop tree body line recursion target inner items counted then body otherwise
    else return .next
  | .choice condition yes no => do
    if (← Run.frozen (← tree condition)).isTrue then body yes else body no
  | .scope line pairs inner => do
    Run.push line {}
    bindings tree line pairs
    let flow ← body inner
    -- a loop that is left from here leaves the frame behind
    if flow = .next then Run.pop
    return flow
  | .set target value => do
    assign tree targetDepth 0 target (← tree value)
    return .next
  | .setBlock target filter inner => do
    let (text, flow) ← capturing body inner
    if flow = .next then
      let v ← Run.captured text
      let v ← match filter with
        | some filter => piped tree v filter
        | none => pure v
      assign tree targetDepth 0 target v
    return flow
  | .autoescape line enabled inner => do
    let value ← Run.frozen (← tree enabled)
    let escaping ← Run.lift line (Escaping.ofValue (← Run.get).initial value)
    Run.modify (·.beginEscaping escaping)
    let flow ← body inner
    if flow = .next then Run.modify Evaluation.endEscaping
    return flow
  | .filterBlock line filter inner => do
    let (text, flow) ← capturing body inner
    if flow = .next then emit line (← piped tree (← Run.captured text) filter)
    return flow
  | .block line name _ _ => do
    runBlock body line name
    return .next
  | .inherit line name => do
    let v ← tree name
    if v.text?.isSome then Run.fail line .templateNotFound else Run.fail line .invalidOperation
  | .include line name ignoreMissing => do
    otherTemplate line (← Run.frozen (← tree name)) ignoreMissing
    return .next
  | .importAll line source target => do
    otherTemplate line (← Run.frozen (← tree source)) false
    assign tree targetDepth line target (.cell .exports (← Run.newCell (.names [])))
    return .next
  | .importNames line source names => do
    otherTemplate line (← Run.frozen (← tree source)) false
    let values ← inOrder (fun (name, given) => do
      return (given, ← tree (.variable line name))) names
    Run.modify fun s => values.foldr (fun (name, v) s => s.store name v) s
    return .next
  | .define routine => do
    let v ← routineValue routine
    Run.modify (·.store routine.name v)
    return .next
  | .callBlock line callee args block => do
    let caller ← routineValue block
    emit line (← call tree body line callee args [("caller", caller)])
    return .next
  | .perform line callee args => do
    let _ ← call tree body line callee args []
    return .next
  | .leave => return .leave
  | .continue => return .continue

/-- Runs statements in a row until one of them leaves them. -/
def statements (tree : Exprs) (body : Stmts) : List Stmt → Run Flow
  | [] => return .next
  | s :: rest => do
    match ← statement tree body s with
    | .next => statements tree body rest
    | flow => return flow

mutual

/-- Evaluates an expression; the number bounds how deep evaluations nest. -/
def treeWithin : Nat → Tree → Run Value
  | 0, _ => Run.halt .invalid
  | fuel + 1, t => expression (treeWithin fuel) (bodyWithin fuel) t

/-- Runs statements; the number bounds how deep evaluations nest. -/
def bodyWithin : Nat → List Stmt → Run Flow
  | 0, _ => Run.halt .invalid
  | fuel + 1, ss => statements (treeWithin fuel) (bodyWithin fuel) ss

end

end Evaluate

/-- How deep the evaluation of a template of some length nests: every routine and every loop that
runs again adds frames, whose number is bounded, and between them stands a part of the template. -/
def nestingBound (length : Nat) : Nat :=
  (length + 20) * (Evaluation.maxDepth + 10)

/-- Evaluates a template with names for values; the answer is the text or the failure. -/
def render (template : String) (names : Names) : Asking (Except Halt String) :=
  match read template with
  | .error failure => .done (.error (.failed failure))
  | .ok statements =>
    let (names, objects) := names.foldl (fun (names, n) (name, v) =>
      let (v, n) := v.identified n
      (names ++ [(name, v)], n)) (([] : Names), 0)
    let start : Evaluation :=
      { frames := [{ base := .bindings names }], objects, blocks := Stmt.allBlocks statements }
    (Evaluate.bodyWithin (nestingBound template.length) statements start).bind fun
      | .ok (_, s) => .done (.ok s.written)
      | .error h => .done (.error h)

end Scaffold.Expr

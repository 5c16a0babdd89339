import Scaffold.Proofs.Expr.Calls
import Scaffold.Proofs.Expr.Filters

/-!
# Composition — what evaluations are put together from

An evaluation does only a few things: it changes its own state, looks at the run, calls functions of
the library and methods of the run, and ends without a value where there is a reason to
(`Run.Composed`). All else is one such thing behind the other. Every part of the evaluator is
composed in this way: each part by the parts that it is built of, in the order in which the
evaluator defines them, and trees and statements that nest by an induction on how deep they may
(`within_composed`). So what is true of these few things, and is kept where one follows the other,
is true of every evaluation.
-/

set_option autoImplicit false

namespace Scaffold.Expr

/-! ## Runs -/

namespace Run

/-- The computation is put together from what an evaluation can do. -/
inductive Composed : {α : Type} → Run α → Prop
  /-- It changes its own state. -/
  | step {α : Type} (f : Evaluation → α × Evaluation) : Composed fun s => .done (.ok (f s))
  /-- It ends without a value, where it can. -/
  | halt {α : Type} {h : Halt} (hh : h.Within Stop.Genuine) : Composed (Run.halt h : Run α)
  /-- It looks at the run. -/
  | look {q : Question} (hq : q.Looks) : Composed (Run.ask q)
  | function (line : Nat) (name : String) (args : Arguments) :
      Composed (Library.call line name args)
  | method (line : Nat) (name : String) (args : Arguments) :
      Composed (Library.callMethod? line name args)
  | bind {α β : Type} {x : Run α} {f : α → Run β} (hx : Composed x) (hf : ∀ a, Composed (f a)) :
      Composed (x >>= f)

variable {α β : Type}

theorem composed_pure (a : α) : Composed (pure a : Run α) := .step fun s => (a, s)

theorem composed_fail (line : Nat) (kind : Failure.Kind) :
    Composed (Run.fail line kind : Run α) := .halt trivial

theorem composed_lift (line : Nat) {x : Except Halt α} (hx : Halts Stop.Genuine x) :
    Composed (Run.lift line x) := by
  cases x with
  | ok a => exact composed_pure a
  | error h => exact .halt ((hx h rfl).onLine line)

theorem composed_get : Composed Run.get := .step fun s => (s, s)

theorem composed_modify (f : Evaluation → Evaluation) : Composed (Run.modify f) :=
  .step fun s => ((), f s)

theorem composed_frozen (v : Value) : Composed (Run.frozen v) :=
  composed_get.bind fun _ => composed_pure _

theorem composed_stopAt {v? : Option Value} (h : Value.Endless v?) : Composed (Run.stopAt v?) := by
  cases v? with
  | none => exact composed_pure ()
  | some v => exact .halt (h v rfl)

theorem composed_thawed (v : Value) : Composed (Run.thawed v) :=
  composed_get.bind fun _ => composed_pure _

theorem composed_identified (v : Value) : Composed (Run.identified v) :=
  .step fun s => s.identify v

theorem composed_newCell (cell : Cell) : Composed (Run.newCell cell) :=
  composed_get.bind fun _ => (composed_modify _).bind fun _ => composed_pure _

theorem composed_push (line : Nat) (f : Frame) : Composed (Run.push line f) := by
  refine composed_get.bind fun s => ?_
  split
  · exact composed_fail line _
  · exact composed_modify _

theorem composed_pop : Composed Run.pop := composed_modify _

theorem composed_captured (text : String) : Composed (Run.captured text) :=
  composed_get.bind fun _ => composed_pure _

theorem Composed.capture {x : Run Unit} (hx : Composed x) : Composed (Run.capture x) :=
  (composed_modify _).bind fun _ => hx.bind fun _ => composed_get.bind fun _ =>
    (composed_modify _).bind fun _ => composed_pure _

theorem composed_mapM {f : α → Run β} (hf : ∀ a, Composed (f a)) (as : List α) :
    Composed (as.mapM f) := by
  have hloop (as : List α) (seen : List β) : Composed (List.mapM.loop f as seen) := by
    induction as generalizing seen with
    | nil => exact composed_pure _
    | cons a as ih => exact (hf a).bind fun b => ih _
  exact hloop as []

end Run
open Run

/-! ## The evaluator -/

namespace Library

theorem contextAttribute_composed (name : String) : (contextAttribute name).Composed := by
  unfold contextAttribute
  split
  · exact .look trivial
  · exact .look trivial
  · exact .look trivial
  · exact composed_pure _

theorem documentAttribute_composed (name : String) : (documentAttribute name).Composed := by
  unfold documentAttribute
  split
  · exact .look trivial
  · exact composed_pure _

end Library

namespace Evaluate

theorem inOrder_composed {α β : Type} {f : α → Run β} (hf : ∀ a, (f a).Composed)
    (as : List α) : (inOrder f as).Composed := by
  induction as with
  | nil => exact composed_pure _
  | cons a as ih => exact (hf a).bind fun b => ih.bind fun bs => composed_pure _

theorem halts_parameterValues {S : Stop → Prop} (r : Routine) (args : Arguments) :
    Halts S (parameterValues r args) := by
  unfold parameterValues
  split
  · exact halts_of _
  · refine halts_mapM (fun parameter => ?_) _
    dsimp only
    split
    · exact halts_of _
    all_goals exact halts_ok _

theorem halts_checkNames {S : Stop → Prop} (r : Routine) (usesCaller : Bool) (args : Arguments) :
    Halts S (checkNames r usesCaller args) := by
  unfold checkNames
  dsimp only
  split
  · exact halts_ok _
  · exact halts_of _

theorem spreadValues_composed (line : Nat) (v : Value) : (spreadValues line v).Composed := by
  refine (composed_frozen v).bind fun v => ?_
  split
  · exact composed_mapM composed_thawed _
  · exact composed_fail line _

theorem spreadNames_composed (line : Nat) (v : Value) : (spreadNames line v).Composed := by
  refine (composed_frozen v).bind fun v => ?_
  split
  · exact composed_mapM (fun entry => (composed_thawed _).bind fun _ => composed_pure _) _
  · exact composed_fail line _

theorem loopItems_composed (line : Nat) (v : Value) : (loopItems line v).Composed :=
  spreadValues_composed line v

theorem enclose_composed (r : Routine) : (enclose r).Composed := by
  refine composed_get.bind fun s => ?_
  dsimp only
  split
  · exact (composed_pure _).bind fun _ => (composed_modify _).bind fun _ =>
      composed_pure _
  · refine (composed_newCell _).bind fun cell => (composed_modify _).bind fun _ => ?_
    exact (composed_pure _).bind fun _ => (composed_modify _).bind fun _ =>
      composed_pure _

theorem routineValue_composed (r : Routine) : (routineValue r).Composed :=
  (enclose_composed r).bind fun _ => composed_pure _

theorem member?_composed (v : Value) (name : String) : (member? v name).Composed := by
  refine composed_get.bind fun s => ?_
  split <;> exact composed_pure _

theorem attributeOf_composed (line : Nat) (v : Value) (name : String) :
    (attributeOf line v name).Composed := by
  unfold attributeOf
  split
  · exact Library.contextAttribute_composed name
  · exact Library.documentAttribute_composed name
  · exact (member?_composed v name).bind fun _ => composed_lift line (Value.halts_orUndefined v _)

theorem itemOf_composed (line : Nat) (v key : Value) : (itemOf line v key).Composed := by
  unfold itemOf
  split
  case h_5 => exact (composed_frozen key).bind fun _ =>
      composed_lift line (Value.halts_orUndefined _ _)
  all_goals exact attributeOf_composed line _ _

theorem frozenArguments_composed (args : Arguments) : (frozenArguments args).Composed := by
  refine (inOrder_composed composed_frozen _).bind fun values => ?_
  split
  · refine (inOrder_composed (fun entry => ?_) _).bind fun named => composed_pure _
    exact (composed_frozen _).bind fun _ => composed_pure _
  · exact composed_pure _

theorem libraryArguments_composed (name : String) (args : Arguments) :
    (libraryArguments name args).Composed :=
  (frozenArguments_composed args).bind fun args =>
    (composed_stopAt (Library.endless_endless? name args)).bind fun _ => composed_pure _

theorem methodArguments_composed (name : String) (args : Arguments) :
    (methodArguments name args).Composed := by
  unfold methodArguments
  split
  · exact libraryArguments_composed name args
  · exact composed_pure args

theorem operate_composed (line : Nat) (op : BinaryOp) (a b : Value) :
    (operate line op a b).Composed :=
  (composed_frozen a).bind fun a => (composed_frozen b).bind fun b =>
    (composed_stopAt (endless_endlessOperand? op a b)).bind fun _ =>
      composed_lift line (Value.halts_binary op a b)

theorem repeats_composed (l : LoopState) (args : List Value) : (repeats l args).Composed := by
  unfold repeats
  split
  · refine (inOrder_composed composed_frozen _).bind fun before => ?_
    refine (inOrder_composed composed_frozen _).bind fun args => ?_
    refine (composed_stopAt (Value.endless_findSome? (fun pair => ?_) _)).bind fun _ =>
      composed_pure _
    exact Value.endless_endlessBeside? pair.1 pair.2
  · exact composed_pure _

theorem attributeIn?_composed (v : Value) (name : String) :
    (attributeIn? v name).Composed := by
  unfold attributeIn?
  split
  · split
    · exact (Library.contextAttribute_composed name).bind fun _ => composed_pure _
    · exact composed_pure _
  · split
    · exact (Library.documentAttribute_composed name).bind fun _ => composed_pure _
    · exact composed_pure _
  · exact member?_composed v name

theorem loopMethod?_composed (id : Nat) (name : String) (args : List Value) :
    (loopMethod? id name args).Composed := by
  refine composed_get.bind fun s => ?_
  split
  · split
    · exact .halt trivial
    · exact composed_pure _
  · exact (repeats_composed _ args).bind fun _ => (composed_modify _).bind fun _ =>
      composed_pure _
  · exact composed_pure _

theorem standAt_composed (cell n : Nat) (before next : Value) :
    (standAt cell n before next).Composed := composed_modify _

theorem endLoop_composed : endLoop.Composed := by
  refine composed_get.bind fun s => ?_
  split
  · exact composed_pop
  · exact .halt trivial

theorem recursion_composed (line : Nat) : (recursion line).Composed := by
  refine composed_get.bind fun s => ?_
  split
  · split
    · exact composed_pure _
    · exact composed_fail line _
  · exact composed_fail line _

theorem emit_composed (line : Nat) (v : Value) : (emit line v).Composed :=
  (composed_frozen v).bind fun _ => composed_get.bind fun _ =>
    (composed_stopAt (Value.endless_firstEndless? _ _)).bind fun _ =>
      (composed_lift line (Escaping.halts_write _ _)).bind fun _ => composed_modify _

theorem otherTemplate_composed (line : Nat) (v : Value) (ignoreMissing : Bool) :
    (otherTemplate line v ignoreMissing).Composed := by
  have hnames (names : List Value) :
      (if names.any fun n => n.text?.isNone then Run.fail line .invalidOperation
        else if names.isEmpty || ignoreMissing then return ()
        else Run.fail line .templateNotFound : Run Unit).Composed := by
    split
    · exact composed_fail line _
    · split
      · exact composed_pure _
      · exact composed_fail line _
  exact hnames _

/-! ### Parts of an expression or of statements

Every evaluator of a part is composed if the evaluators of expressions and of statements that it is
given are. -/

section Parts

variable {tree : Exprs} {body : Stmts} (htree : ∀ t, (tree t).Composed)
  (hbody : ∀ ss, (body ss).Composed)

include htree

theorem arguments_composed (line : Nat) (args : List Argument) (more : Names) :
    (arguments tree line args more).Composed := by
  unfold arguments
  dsimp only
  refine (inOrder_composed (fun a => ?_) _).bind fun values => ?_
  · split
    · exact (htree _).bind fun v => spreadValues_composed line v
    · exact (htree _).bind fun v => composed_pure _
  refine (inOrder_composed (fun a => ?_) _).bind fun named => ?_
  · split
    · exact (htree _).bind fun v => composed_pure _
    · exact (htree _).bind fun v => spreadNames_composed line v
    · exact composed_pure _
  split <;> exact composed_pure _

theorem assign_composed (fuel line : Nat) (target : Target) (v : Value) :
    (assign tree fuel line target v).Composed := by
  have hmember (fuel outer line : Nat) (base : Tree) (name : String) (v : Value) :
      (assign tree fuel outer (.attribute line base name) v).Composed := by
    rw [assign]
    refine (htree base).bind fun base => ?_
    split
    · exact (composed_identified v).bind fun _ => composed_modify _
    · exact composed_fail line _
  induction fuel generalizing line target v with
  | zero =>
    rcases target with name | ⟨line, base, name⟩ | ⟨line, targets⟩
    · exact composed_modify _
    · exact hmember _ _ line base name v
    · exact composed_fail _ _
  | succ fuel ih =>
    rcases target with name | ⟨line, base, name⟩ | ⟨line, targets⟩
    · exact composed_modify _
    · exact hmember _ _ line base name v
    · refine (composed_frozen v).bind fun row => ?_
      dsimp only
      split
      · split
        · refine (inOrder_composed (fun part => ?_) _).bind fun _ => composed_pure _
          exact (composed_thawed _).bind fun item => ih line part.1 item
        · exact composed_fail line _
      · exact composed_fail line _

theorem bindParameters_composed (parameters : List ((String × Value) × Option Tree)) :
    (bindParameters tree parameters).Composed := by
  induction parameters with
  | nil => exact composed_pure _
  | cons parameter parameters ih =>
    unfold bindParameters
    dsimp only
    split
    · exact (htree _).bind fun _ => (composed_modify _).bind fun _ => ih
    · exact (composed_pure _).bind fun _ => (composed_modify _).bind fun _ => ih

theorem orElse_composed (otherwise : Value) (operand : Option Tree) :
    (orElse tree otherwise operand).Composed := by
  cases operand with
  | none => exact composed_pure _
  | some e => exact htree e

theorem binary_composed (line : Nat) (op : BinaryOp) (left right : Tree) :
    (binary tree line op left right).Composed := by
  have htwo : (do
      let a ← tree left
      let b ← tree right
      Run.thawed (← operate line op a b) : Run Value).Composed :=
    (htree left).bind fun a => (htree right).bind fun b =>
      (operate_composed line op a b).bind fun v => composed_thawed v
  unfold binary
  dsimp only
  split
  · exact composed_pure _
  · refine (htree left).bind fun a => (composed_frozen a).bind fun shown => ?_
    split
    · exact htree right
    · exact composed_pure _
  · refine (htree left).bind fun a => (composed_frozen a).bind fun shown => ?_
    split
    · exact composed_pure _
    · exact htree right
  · exact htwo

theorem comparisons_composed (left : Value) (rest : List Comparison) :
    (comparisons tree left rest).Composed := by
  induction rest generalizing left with
  | nil => exact composed_pure _
  | cons comparison rest ih =>
    obtain ⟨line, op, negated, right⟩ := comparison
    refine (htree right).bind fun right => ?_
    refine (operate_composed line op left right).bind fun holds => ?_
    split
    · exact composed_pure _
    · exact ih right

theorem bindings_composed (line : Nat) (pairs : List (Target × Tree)) :
    (bindings tree line pairs).Composed := by
  induction pairs with
  | nil => exact composed_pure _
  | cons pair pairs ih =>
    exact (htree _).bind fun v => (assign_composed htree _ line _ v).bind fun _ => ih

theorem piped_composed (v : Value) (filter : Tree) : (piped tree v filter).Composed :=
  composed_get.bind fun _ => (composed_modify _).bind fun _ => (htree filter).bind fun _ =>
    (composed_modify _).bind fun _ => composed_pure _

theorem keepItems_composed (line : Nat) (target : Target) (condition : Tree)
    (items : List Value) : (keepItems tree line target condition items).Composed := by
  induction items with
  | nil => exact composed_pure _
  | cons item items ih =>
    refine (assign_composed htree _ line target item).bind fun _ => ?_
    refine (htree condition).bind fun v => (composed_frozen v).bind fun v => ?_
    exact ih.bind fun kept => composed_pure _

include hbody

theorem callRoutine_composed (line : Nat) (r : Routine) (closure : Nat) (usesCaller : Bool)
    (args : Arguments) : (callRoutine tree body line r closure usesCaller args).Composed := by
  refine (composed_lift line (halts_parameterValues r args)).bind fun values => ?_
  refine (composed_lift line (halts_checkNames r usesCaller args)).bind fun _ => ?_
  refine composed_get.bind fun outer => ?_
  dsimp only
  split
  · exact composed_fail line _
  · refine (composed_modify _).bind fun _ => ?_
    have hbody := hbody r.body
    split
    · refine (composed_modify _).bind fun _ => ?_
      refine (bindParameters_composed htree _).bind fun _ => hbody.bind fun _ => ?_
      exact composed_get.bind fun s => (composed_modify _).bind fun _ =>
        composed_captured _
    · refine (bindParameters_composed htree _).bind fun _ => hbody.bind fun _ => ?_
      exact composed_get.bind fun s => (composed_modify _).bind fun _ =>
        composed_captured _

theorem callValue_composed (line : Nat) (v : Value) (args : Arguments) :
    (callValue tree body line v args).Composed := by
  unfold callValue
  split
  · refine (libraryArguments_composed _ args).bind fun args => ?_
    exact (Run.Composed.function line _ args).bind fun v => composed_thawed v
  · exact callRoutine_composed htree hbody line _ _ _ args
  · exact composed_fail line _
  · exact composed_fail line _

theorem callMethod_composed (line : Nat) (v : Value) (name : String) (args : Arguments) :
    (callMethod tree body line v name args).Composed := by
  unfold callMethod
  dsimp only
  split
  case' h_1 =>
    refine (methodArguments_composed name args).bind fun given => ?_
    refine (Run.Composed.method line name given).bind fun own => ?_
  case' h_2 => refine (loopMethod?_composed _ name _).bind fun own => ?_
  case' h_3 => refine (composed_pure none).bind fun own => ?_
  -- a method of the value itself comes first, and then an attribute that can be called
  all_goals
    split
    · exact composed_pure _
    · refine (attributeIn?_composed _ name).bind fun found => ?_
      split
      · exact callValue_composed htree hbody line _ args
      all_goals exact .halt trivial

theorem rounds_composed (line cell : Nat) (target : Target) (statements : List Stmt) (n : Nat)
    (before : Value) (items : List Value) :
    (rounds tree body line cell target statements n before items).Composed := by
  induction items generalizing n before with
  | nil => exact (standAt_composed _ _ _ _).bind fun _ => composed_pure _
  | cons item items ih =>
    refine (standAt_composed _ _ _ _).bind fun _ => ?_
    refine (assign_composed htree _ line target item).bind fun _ => ?_
    refine (hbody statements).bind fun flow => ?_
    split
    · exact composed_pure _
    · exact ih _ _

theorem runLoop_composed (line : Nat) (recursion : Option Recursion) (target : Target)
    (statements : List Stmt) (items : List Value) (counted : Bool) :
    (runLoop tree body line recursion target statements items counted).Composed := by
  refine composed_get.bind fun s => (composed_newCell _).bind fun cell => ?_
  refine (composed_push line _).bind fun _ => ?_
  refine (rounds_composed htree hbody line cell target statements _ _ items).bind fun _ => ?_
  exact endLoop_composed.bind fun _ => composed_pure _

theorem recurse_composed (line : Nat) (args : Arguments) :
    (recurse tree body line args).Composed := by
  unfold recurse
  split
  · refine (recursion_composed line).bind fun r => ?_
    refine (Run.Composed.capture ?_).bind fun text => composed_captured text
    refine (loopItems_composed _ _).bind fun items => ?_
    exact (runLoop_composed htree hbody _ _ _ _ items _).bind fun _ => composed_pure _
  · exact composed_fail line _

omit htree in
theorem runBlock_composed (line : Nat) (name : String) :
    (runBlock body line name).Composed := by
  refine composed_get.bind fun outer => ?_
  split
  · split
    · exact composed_fail line _
    · refine (composed_modify _).bind fun _ => (composed_push line _).bind fun _ => ?_
      exact (hbody _).bind fun _ => composed_pop.bind fun _ => composed_modify _
  · exact composed_fail line _

theorem call_composed (line : Nat) (callee : Tree) (args : List Argument) (more : Names) :
    (call tree body line callee args more).Composed := by
  have hargs := arguments_composed htree line args more
  have hvalue := callValue_composed htree hbody line
  unfold call
  split
  · refine hargs.bind fun args => ?_
    split
    · exact composed_fail line _
    split
    · exact recurse_composed htree hbody line args
    refine composed_get.bind fun s => ?_
    split
    · exact hvalue _ args
    · split
      · exact hvalue _ args
      · exact composed_fail line _
  · exact (runBlock_composed hbody line _).capture.bind fun text => composed_captured text
  · exact (htree _).bind fun v => hargs.bind fun args =>
      callMethod_composed htree hbody line v _ args
  · exact (htree _).bind fun f => hargs.bind fun args => hvalue f args

theorem expression_composed (t : Tree) : (expression tree body t).Composed := by
  have hargs (line : Nat) (args : List Argument) := arguments_composed htree line args []
  match t with
  | .variable line name =>
    refine composed_get.bind fun s => ?_
    split <;> exact composed_pure _
  | .literal line value => exact composed_pure _
  | .unary line op operand =>
    exact (htree operand).bind fun v => (composed_frozen v).bind fun v =>
      composed_lift line (Value.halts_unary op v)
  | .binary line op left right => exact binary_composed htree line op left right
  | .comparisons line first rest =>
    exact (htree first).bind fun v => comparisons_composed htree v rest
  | .choice line condition yes no =>
    refine (htree condition).bind fun v => (composed_frozen v).bind fun v => ?_
    split
    · exact htree yes
    · exact orElse_composed htree _ no
  | .slice line base start stop step =>
    refine (htree base).bind fun v => (composed_frozen v).bind fun v => ?_
    refine (orElse_composed htree _ start).bind fun start => ?_
    refine (orElse_composed htree _ stop).bind fun stop => ?_
    refine (orElse_composed htree _ step).bind fun step => ?_
    exact (composed_lift line (Value.halts_slice v start stop step)).bind fun v => composed_thawed v
  | .filter line name operand args =>
    refine composed_get.bind fun s => (orElse_composed htree _ operand).bind fun v => ?_
    refine (hargs line args).bind fun args => (frozenArguments_composed _).bind fun args => ?_
    refine (composed_stopAt (Filter.endless_endless? name args)).bind fun _ => ?_
    refine composed_get.bind fun s => ?_
    exact (composed_lift line (Filter.halts_run _ _ name)).bind fun v => composed_thawed v
  | .test line name operand args =>
    refine (htree operand).bind fun v => (hargs line args).bind fun args => ?_
    refine (frozenArguments_composed _).bind fun args => ?_
    refine (composed_stopAt (Test.endless_endless? name args)).bind fun _ => ?_
    exact (composed_lift line (Test.halts_run _ name)).bind fun v => composed_pure _
  | .attribute line base name =>
    exact (htree base).bind fun v => attributeOf_composed line v name
  | .item line base index =>
    exact (htree base).bind fun v => (htree index).bind fun key => itemOf_composed line v key
  | .call line callee args => exact call_composed htree hbody line callee args []
  | .list line items =>
    exact (inOrder_composed htree items).bind fun _ => composed_identified _
  | .map line entries =>
    refine (inOrder_composed (fun entry => ?_) entries).bind fun _ => composed_identified _
    exact (htree _).bind fun key => (htree _).bind fun v => composed_pure _

omit htree in
theorem capturing_composed (statements : List Stmt) :
    (capturing body statements).Composed := by
  refine (composed_modify _).bind fun _ => (hbody statements).bind fun flow => ?_
  split
  · exact composed_get.bind fun s => (composed_modify _).bind fun _ => composed_pure _
  · exact composed_pure _

theorem loop_composed (line : Nat) (target : Target) (source : Tree) (keep : Option Tree)
    (recursive : Bool) (inner otherwise : List Stmt) :
    (statement tree body (.loop line target source keep recursive inner otherwise)).Composed := by
  have hloop (source : Value) (items : List Value) (recursion : Option Recursion) :
      (do
        if ← runLoop tree body line recursion target inner items
          (keep.isSome || source.isCounted) then body otherwise else return .next :
        Run Flow).Composed := by
    refine (runLoop_composed htree hbody line _ target inner items _).bind fun unmoved => ?_
    split
    · exact hbody otherwise
    · exact composed_pure _
  refine (htree source).bind fun source => (loopItems_composed line source).bind fun items => ?_
  dsimp only
  split
  · exact (composed_pure items).bind fun items => hloop source items _
  · refine (composed_push line _).bind fun _ => ?_
    refine (keepItems_composed htree line target _ items).bind fun kept => ?_
    exact composed_pop.bind fun _ => (composed_pure kept).bind fun kept =>
      hloop source kept _

theorem statement_composed (stmt : Stmt) : (statement tree body stmt).Composed := by
  have hassign := assign_composed htree targetDepth
  match stmt with
  | .text text => exact (composed_modify _).bind fun _ => composed_pure _
  | .emit line value =>
    have hwritten (value : Tree) :
        (do emit line (← tree value); return .next : Run Flow).Composed :=
      (htree value).bind fun v => (emit_composed line v).bind fun _ => composed_pure _
    unfold statement
    dsimp only
    split
    · refine (htree _).bind fun v => (spreadValues_composed line v).bind fun _ => ?_
      exact (recursion_composed line).bind fun _ => (composed_fail line _).bind fun _ =>
        composed_pure _
    · exact hwritten _
  | .loop line target source keep recursive inner otherwise =>
    exact loop_composed htree hbody line target source keep recursive inner otherwise
  | .choice condition yes no =>
    refine (htree condition).bind fun v => (composed_frozen v).bind fun v => ?_
    split
    · exact hbody yes
    · exact hbody no
  | .scope line pairs inner =>
    refine (composed_push line _).bind fun _ => ?_
    refine (bindings_composed htree line pairs).bind fun _ => (hbody inner).bind fun flow => ?_
    split
    · exact composed_pop.bind fun _ => composed_pure _
    · exact composed_pure _
  | .set target value =>
    exact (htree value).bind fun v => (hassign 0 target v).bind fun _ => composed_pure _
  | .setBlock target filter inner =>
    refine (capturing_composed hbody inner).bind fun captured => ?_
    dsimp only
    split
    · refine (composed_captured _).bind fun v => ?_
      split
      · exact (piped_composed htree v _).bind fun v => (hassign 0 target v).bind fun _ =>
          composed_pure _
      · exact (composed_pure v).bind fun v => (hassign 0 target v).bind fun _ =>
          composed_pure _
    · exact composed_pure _
  | .autoescape line enabled inner =>
    refine (htree enabled).bind fun v => (composed_frozen v).bind fun v => ?_
    refine composed_get.bind fun s => ?_
    refine (composed_lift line (Escaping.halts_ofValue _ v)).bind fun escaping => ?_
    refine (composed_modify _).bind fun _ => (hbody inner).bind fun flow => ?_
    split
    · exact (composed_modify _).bind fun _ => composed_pure _
    · exact composed_pure _
  | .filterBlock line filter inner =>
    refine (capturing_composed hbody inner).bind fun captured => ?_
    dsimp only
    split
    · refine (composed_captured _).bind fun v => (piped_composed htree v filter).bind fun v => ?_
      exact (emit_composed line v).bind fun _ => composed_pure _
    · exact composed_pure _
  | .block line name _ _ =>
    exact (runBlock_composed hbody line name).bind fun _ => composed_pure _
  | .inherit line name =>
    refine (htree name).bind fun v => ?_
    split <;> exact composed_fail line _
  | .include line name ignoreMissing =>
    refine (htree name).bind fun v => (composed_frozen v).bind fun v => ?_
    exact (otherTemplate_composed line v ignoreMissing).bind fun _ => composed_pure _
  | .importAll line source target =>
    refine (htree source).bind fun v => (composed_frozen v).bind fun v => ?_
    refine (otherTemplate_composed line v false).bind fun _ => ?_
    exact (composed_newCell _).bind fun cell => (hassign line target _).bind fun _ =>
      composed_pure _
  | .importNames line source names =>
    refine (htree source).bind fun v => (composed_frozen v).bind fun v => ?_
    refine (otherTemplate_composed line v false).bind fun _ => ?_
    refine (inOrder_composed (fun pair => ?_) names).bind fun values => ?_
    · exact (htree _).bind fun v => composed_pure _
    · exact (composed_modify _).bind fun _ => composed_pure _
  | .define routine =>
    exact (routineValue_composed routine).bind fun v => (composed_modify _).bind fun _ =>
      composed_pure _
  | .callBlock line callee args block =>
    refine (routineValue_composed block).bind fun caller => ?_
    refine (call_composed htree hbody line callee args _).bind fun v => ?_
    exact (emit_composed line v).bind fun _ => composed_pure _
  | .perform line callee args =>
    exact (call_composed htree hbody line callee args []).bind fun _ => composed_pure _
  | .leave => exact composed_pure _
  | .continue => exact composed_pure _

theorem statements_composed (stmts : List Stmt) :
    (statements tree body stmts).Composed := by
  induction stmts with
  | nil => exact composed_pure _
  | cons stmt stmts ih =>
    refine (statement_composed htree hbody stmt).bind fun flow => ?_
    split
    · exact ih
    · exact composed_pure _

end Parts

/-- However deep evaluations may nest, they are composed. -/
theorem within_composed (fuel : Nat) :
    (∀ t, (treeWithin fuel t).Composed) ∧ ∀ ss, (bodyWithin fuel ss).Composed := by
  induction fuel with
  | zero => exact ⟨fun t => .halt trivial, fun ss => .halt trivial⟩
  | succ fuel ih =>
    exact ⟨expression_composed ih.1 ih.2, statements_composed ih.1 ih.2⟩

end Evaluate

end Scaffold.Expr

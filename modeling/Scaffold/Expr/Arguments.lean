import Scaffold.Expr.Value.Print
import Scaffold.Expr.Value.Arithmetic

/-!
# Arguments — what functions, filters and tests are applied to

Arguments are taken one by one, each in the form that is asked for. What was given by name is a map
behind the other arguments. It counts as such wherever it is the last argument, also if it was
handed on as a value, and as one more argument where no names are expected.

A computation that takes all arguments without names gives what it makes of them
(`Params.positional_of_run`).
-/

set_option autoImplicit false

namespace Scaffold.Expr

/-- The arguments of a call. -/
structure Arguments where
  values : List Value
  named : Option (List (Value × Value))

namespace Arguments

/-- Arguments in a row; the last one may hold those that were given by name. -/
def ofValues (values : List Value) : Arguments :=
  match values.getLast? with
  | some (.map entries .arguments _) => ⟨values.dropLast, some entries⟩
  | _ => ⟨values, none⟩

/-- The named arguments as a map behind the others. -/
def flat (args : Arguments) : List Value :=
  args.values ++ (args.named.map (Value.map · .arguments)).toList

/-- The argument of a name. -/
def lookup? (args : Arguments) (name : String) : Option Value :=
  (args.named.getD []).findSome? fun (key, v) => if key.text? == some name then some v else none

/-- The same arguments behind another one. -/
def behind (args : Arguments) (v : Value) : Arguments :=
  if args.values.isEmpty && args.named.isNone then ofValues [v]
  else { args with values := v :: args.values }

end Arguments

/-- The arguments not yet taken. -/
structure Taking where
  values : List Value
  named : List (Value × Value)

/-- Takes arguments. -/
abbrev Params := StateT Taking (Except Halt)

namespace Params

/-- Fails for a reason without further details. -/
def fail {α : Type} (kind : Failure.Kind) : Params α := throw (.of kind)

/-- Takes the next positional argument. -/
def next? : Params (Option Value) := do
  let t ← get
  set { t with values := t.values.drop 1 }
  return t.values.head?

/-- Takes a value that must be given. -/
def value : Params Value := do
  match ← next? with
  | some v => return v
  | none => fail .missingArgument

/-- Takes what is left. -/
def rest : Params (List Value) := do
  let t ← get
  set { t with values := [] }
  return t.values

/-- Takes the argument of a name. -/
def keyword? (name : String) : Params (Option Value) := do
  let t ← get
  let hasName (entry : Value × Value) : Bool := entry.1.text? == some name
  set { t with named := t.named.filter (!hasName ·) }
  return (t.named.find? hasName).map Prod.snd

/-- An argument that counts as left out is left out. -/
def present (v : Option Value) : Option Value :=
  v.bind fun v => if v.isAbsent then none else some v

/-- The text that a value is. -/
def asText (v : Value) : Params String :=
  match v.text? with
  | some s => return s
  | none => fail .invalidOperation

/-- The text that a value is written as. -/
def asShown (v : Value) : Params String :=
  match v with
  | .string s _ => return s
  | v => return v.print

/-- The integer that a value stands for. -/
def asInt (v : Value) : Params Int :=
  match v.integer? 64 with
  | some n => return n
  | none => fail .invalidOperation

/-- The natural number that a value stands for. -/
def asNat (v : Value) : Params Nat :=
  match v.natural? 64 with
  | some n => return n
  | none => fail .invalidOperation

/-- The truth value that a value is. -/
def asBool (v : Value) : Params Bool :=
  match v with
  | .bool b => return b
  | _ => fail .invalidOperation

/-- Takes an argument in some form. -/
def takeAs {α : Type} (form : Value → Params α) : Params α := do
  form (← value)

/-- Takes an argument in some form, if it is given. -/
def optional {α : Type} (form : Value → Params α) : Params (Option α) := do
  match present (← next?) with
  | some v => some <$> form v
  | none => return none

/-- Takes the argument of a name in some form, if it is given. -/
def keyword {α : Type} (name : String) (form : Value → Params α) : Params (Option α) := do
  match present (← keyword? name) with
  | some v => some <$> form v
  | none => return none

/-- A value as it is. -/
def asIs (v : Value) : Params Value := return v

/-- What was given by name is no text. -/
def written (v : Value) : Params Value :=
  match v with
  | .map _ .arguments _ => fail .invalidOperation
  | v => return v

/-- Takes an argument by the text that it is written as; named arguments are no text. -/
def shown : Params String := takeAs fun v => do asShown (← written v)

/-- Takes an argument by the text that it is written as, if it is given. -/
def shown? : Params (Option String) := optional fun v => do asShown (← written v)

/-- Takes an argument that is written as a text, if it is given. -/
def label? : Params (Option Value) := optional written

/-- Takes an argument that is written as a text; named arguments are no text. -/
def label : Params Value := takeAs written

/-- No positional argument is left. -/
def noMore : Params Unit := do
  if (← get).values.isEmpty then return () else fail .tooManyArguments

/-- No named argument is left; what was given by another key than a text cannot be one. -/
def noMoreNames : Params Unit := do
  match (← get).named with
  | [] => return ()
  | (key, _) :: _ => fail (if key.text?.isSome then .tooManyArguments else .invalidOperation)

/-- Takes arguments without names; all must be taken. -/
def positional {α : Type} (params : Params α) (args : Arguments) : Except Halt α :=
  (do let a ← params; noMore; return a).run' { values := args.flat, named := [] }

/-- Takes arguments with names; all must be taken. -/
def withNames {α : Type} (params : Params α) (args : Arguments) : Except Halt α :=
  (do let a ← params; noMoreNames; return a).run'
    { values := args.values, named := args.named.getD [] }

/-- Lifts a computation that can fail. -/
def lift {α : Type} (x : Except Halt α) : Params α := liftM x

/-! ## Taking arguments one by one -/

section Taken

variable {α : Type}

/-- The next argument is taken in the form that is asked for. -/
@[simp] theorem run_takeAs (form : Value → Params α) (v : Value) (values : List Value)
    (named : List (Value × Value)) :
    (takeAs form).run ⟨v :: values, named⟩ = (form v).run ⟨values, named⟩ := rfl

@[simp] theorem run_noMore (named : List (Value × Value)) :
    noMore.run ⟨[], named⟩ = pure ((), ⟨[], named⟩) := rfl

@[simp] theorem asText_text (s : String) : asText (.text s) = pure s := rfl

/-- An integer of 64 bits is taken as it is. -/
theorem asInt_int {n : Int} (hn : fits 64 n = true) (signed : Bool) :
    asInt (.int n signed) = pure n := by
  have hinteger : (Value.int n signed).integer? 64 = some n := if_pos hn
  rw [asInt, hinteger]

/-- What takes all arguments gives what it makes of them. -/
theorem positional_of_run {params : Params α} {values : List Value} {a : α}
    (h : params.run ⟨values, []⟩ = pure (a, ⟨[], []⟩)) :
    positional params ⟨values, none⟩ = .ok a := by
  have hflat : Arguments.flat ⟨values, none⟩ = values := List.append_nil values
  rw [positional, hflat, StateT.run'_eq, StateT.run_bind, h]
  rfl

end Taken

end Params

end Scaffold.Expr

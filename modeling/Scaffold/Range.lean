import Scaffold.Evaluation

/-!
# Range — what a file template is repeated over

A range is a row of sources. The combinations of their elements are walked in order, the last
source fastest; while a combination is worked on, the names `k0`, `v0`, `k1`, `v1`, … stand for
the key and the value that each source contributes to it.
-/

set_option autoImplicit false

namespace Scaffold

open Scaffold.Expr (Value)

/-- A source of a range. -/
inductive RangeSource
  /-- Declared fields by name. -/
  | fields (m : FieldMap)
  /-- Elements by place. -/
  | sequence (items : List Value)
  /-- Values by key. -/
  | map (entries : List (Value × Value))

namespace RangeSource

/-- The keys of a map in order, each with the value that is found under it. -/
def enumerated? (v : Value) : Option (List (Value × Value)) := do
  let keys ← v.elements?
  keys.mapM fun key => (v.item key).toOption.map (key, ·)

/-- No look-up fails in a value that is not undefined itself. -/
theorem enumerated?_eq {v : Value} (hdefined : v ≠ .undefined) :
    enumerated? v =
      v.elements?.map fun keys => keys.map fun key => (key, (v.at? key).getD .undefined) := by
  have hitem (key : Value) : v.item key = .ok ((v.at? key).getD .undefined) := by
    rw [Value.item]
    cases v.at? key with
    | some part => rfl
    | none =>
      cases v with
      | undefined => exact absurd rfl hdefined
      | _ => rfl
  simp only [enumerated?, hitem]
  cases v.elements? with
  | none => rfl
  | some keys => exact List.mapM_pure

/-- The source that a value stands for; texts, numbers and absent values are none. -/
def ofValue? (v : Value) : Option RangeSource :=
  match v with
  | .fields m _ => some (.fields m)
  | v =>
    match v.kind with
    | .seq | .iterable => v.elements?.map .sequence
    | .map => (enumerated? v).map .map
    | _ => none

/-- The pairs of key and value, in order. -/
def entries : RangeSource → List (Value × Value)
  | .fields m => m.entries.map fun (key, field) => (.text key, .ofField field)
  | .sequence items => (List.range items.length).zip items |>.map fun (n, v) => (.count n, v)
  | .map entries => entries

/-- The number of elements. -/
def size : RangeSource → Nat
  | .fields m => m.size
  | .sequence items => items.length
  | .map entries => entries.length

/-- There is no element. -/
def isEmpty (s : RangeSource) : Bool :=
  s.size == 0

/-- The sources that values from a position on stand for; the first value that stands for none is
reported. -/
def ofValuesFrom (position : Nat) : List Value → Except Error (List RangeSource)
  | [] => .ok []
  | v :: vs =>
    match ofValue? v with
    | some source => return source :: (← ofValuesFrom (position + 1) vs)
    | none => .error (.range (.unsupported position v.kind.name))

/-- The sources that values stand for. -/
def ofValues (vs : List Value) : Except Error (List RangeSource) :=
  ofValuesFrom 0 vs

end RangeSource

namespace Range

/-- The name of the key at a level. -/
def keyName (level : Nat) : String := "k" ++ toString level

/-- The name of the value at a level. -/
def valueName (level : Nat) : String := "v" ++ toString level

/-- Binds the element of a level. -/
def bindLevel (level : Nat) (entry : Value × Value) (names : Bindings) : Bindings :=
  (names.set (keyName level) entry.1).set (valueName level) entry.2

/-- Removes the names of a level. -/
def unbindLevel (level : Nat) (names : Bindings) : Bindings :=
  (names.erase (keyName level)).erase (valueName level)

/-- Walks on below every element of a level, until a walk fails. -/
def each {m : Type → Type} [Monad m]
    (below : Bindings → m (Except Error Unit × Bindings)) (level : Nat) :
    List (Value × Value) → Bindings → m (Except Error Unit × Bindings)
  | [], names => pure (.ok (), names)
  | entry :: entries, names => do
    match ← below (bindLevel level entry names) with
    | (.ok (), names) => each below level entries names
    | (.error e, names) => pure (.error e, names)

/-- Acts on every combination in order, the levels counted from `level` on, until an action fails
or a source without elements is met. -/
def walk {m : Type → Type} [Monad m] (action : Bindings → m (Except Error Unit)) :
    List RangeSource → Nat → Bindings → m (Except Error Unit × Bindings)
  | [], _, names => do return (← action names, names)
  | source :: sources, level, names =>
    if source.isEmpty then pure (.error (.range (.empty level)), names)
    else do
      let (result, names) ← each (walk action sources (level + 1)) level source.entries names
      return (result, unbindLevel level names)

end Range

end Scaffold

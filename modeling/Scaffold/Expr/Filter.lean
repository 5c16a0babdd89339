import Scaffold.Expr.Arguments
import Scaffold.Expr.Filter.Data
import Scaffold.Expr.Filter.Number
import Scaffold.Expr.Filter.Row
import Scaffold.Expr.Filter.Text
import Scaffold.Text.Classes

/-!
# Filter — filters and tests by name

Some filters apply another filter or test, named by an argument, to every item of a value. A test
can ask whether a filter or test exists.
-/

set_option autoImplicit false

/-!
## Test — questions with yes or no

A test answers for a value, with further arguments or without.
-/

namespace Scaffold.Expr.Test

open Params

/-- A test on the value alone. -/
def holds (p : Value → Bool) : Arguments → Except Halt Bool :=
  positional do
    return p (← value)

/-- A test on the value and another one. -/
def relates (p : Value → Value → Bool) : Arguments → Except Halt Bool :=
  positional do
    let v ← value
    return p v (← value)

/-- A test on two texts. -/
def relatesTexts (p : String → String → Bool) : Arguments → Except Halt Bool :=
  positional do
    let s ← shown
    return p s (← shown)

/-- A test on a text. -/
def holdsText (p : String → Bool) : Arguments → Except Halt Bool :=
  positional do
    return p (← takeAs asText)

/-- The remainder by two of an integer. -/
def parity? (v : Value) : Option Nat :=
  (v.integer? 128).map fun n => (n % 2).toNat

/-- One number divides another one. -/
def divides (v by_ : Value) : Bool :=
  match Pair.of? false v by_ with
  | some (.ints m n) => n != 0 && m % n == 0
  | some (.floats x y) => Decimal.remainder x y == 0.0
  | _ => false

/-- Two values that cannot be told apart. -/
def isSame (a b : Value) : Bool :=
  if a.isObject || b.isObject then a.isOneObject b
  else
    a.kind = b.kind && a.same b
      && (match a, b with
        | .int .., .float _ | .float _, .int .. => false
        | _, _ => true)

/-- The value of a container holds another one. -/
def isIn (v container : Value) : Bool :=
  match container.contains v with
  | .ok b => b
  | .error _ => false

/-- The class of a value is this one. -/
def hasKind (kind : Kind) : Arguments → Except Halt Bool :=
  holds fun v => v.kind = kind

/-- The tests by name, without those that ask for filters and tests. -/
def plainTests : List (String × (Arguments → Except Halt Bool)) := [
  ("undefined", hasKind .undefined), ("defined", holds fun v => v.kind ≠ .undefined),
  ("none", hasKind .none), ("safe", holds Value.isSafe), ("escaped", holds Value.isSafe),
  ("odd", holds fun v => parity? v == some 1), ("even", holds fun v => parity? v == some 0),
  ("divisibleby", relates divides), ("number", hasKind .number),
  ("integer", holds fun v => match v with
    | .int .. => true
    | _ => false),
  ("int", holds fun v => match v with
    | .int .. => true
    | _ => false),
  ("float", holds fun v => match v with
    | .float _ => true
    | _ => false),
  ("string", hasKind .string), ("sequence", hasKind .seq), ("mapping", hasKind .map),
  ("boolean", hasKind .bool), ("iterable", holds fun v => v.items?.isSome),
  ("true", holds fun v => match v with
    | .bool b => b
    | _ => false),
  ("false", holds fun v => match v with
    | .bool b => !b
    | _ => false),
  ("startingwith", relatesTexts fun s t => t.toList.isPrefixOf s.toList),
  ("endingwith", relatesTexts fun s t => t.toList.isSuffixOf s.toList),
  ("lower", holdsText fun s => s.toList.all Text.isLowercase),
  ("upper", holdsText fun s => s.toList.all Text.isUppercase),
  ("sameas", relates isSame),
  ("eq", relates Value.same), ("equalto", relates Value.same), ("==", relates Value.same),
  ("ne", relates fun a b => !a.same b), ("!=", relates fun a b => !a.same b),
  ("lt", relates fun a b => a.order b = .lt), ("lessthan", relates fun a b => a.order b = .lt),
  ("<", relates fun a b => a.order b = .lt),
  ("le", relates fun a b => a.order b ≠ .gt), ("<=", relates fun a b => a.order b ≠ .gt),
  ("gt", relates fun a b => a.order b = .gt), ("greaterthan", relates fun a b => a.order b = .gt),
  (">", relates fun a b => a.order b = .gt),
  ("ge", relates fun a b => a.order b ≠ .lt), (">=", relates fun a b => a.order b ≠ .lt),
  ("in", relates isIn)]

end Scaffold.Expr.Test

/-! ## Names -/

namespace Scaffold.Expr

namespace Filter

open Params

/-- The filters that apply no other. -/
def plainFilters (e : Escaping) : List (String × (Arguments → Except Halt Value)) :=
  textFilters e ++ rowFilters e ++ numberFilters ++ dataFilters

/-- The filters that apply others. -/
def applyingFilters : List String := ["map", "select", "reject", "selectattr", "rejectattr"]

/-- A filter of this name exists. -/
def exists? (name : String) : Bool :=
  ((plainFilters .none).lookup name).isSome || applyingFilters.contains name

/-- The filters that look at the parts of their operands, but not into these. -/
def shallowFilters : List String := [
  "length", "count", "first", "last", "reverse", "list", "items", "batch", "slice", "attr",
  "default", "d", "chain", "zip", "sum", "bool", "abs", "int", "float", "round", "select", "reject",
  "selectattr", "rejectattr"]

/-- The filter looks through its operands as a whole. -/
def looksThrough (name : String) (args : Arguments) : Bool :=
  if name = "map" then
    ((args.values[1]?).bind Value.text?).any (!shallowFilters.contains ·)
  else !shallowFilters.contains name

/-- An operand that a filter would look through without an end. -/
def endless? (name : String) (args : Arguments) : Option Value :=
  if looksThrough name args then Value.firstEndless? false args.flat else none

end Filter

namespace Test

/-- The tests that compare two values. -/
def comparingTests : List String := [
  "eq", "equalto", "==", "ne", "!=", "lt", "lessthan", "<", "le", "<=", "gt", "greaterthan", ">",
  "ge", ">="]

/-- A value that a test would compare to another one without an end. -/
def endless? (name : String) (args : Arguments) : Option Value :=
  match args.values with
  | a :: b :: _ =>
    if name = "in" then a.endlessWithin? b
    else if comparingTests.contains name then a.endlessBeside? b
    else none
  | _ => none

/-- The tests that ask for filters and tests. -/
def askingTests : List String := ["filter", "test"]

/-- A test of this name exists. -/
def exists? (name : String) : Bool :=
  (plainTests.lookup name).isSome || askingTests.contains name

/-- Applies a test by name. -/
def run (name : String) (args : Arguments) : Except Halt Bool :=
  match plainTests.lookup name with
  | some test => test args
  | none =>
    match name with
    | "filter" => holdsText Filter.exists? args
    | "test" => holdsText exists? args
    | _ => .error (.of .unknownTest)

end Test

namespace Filter

open Params

/-- An item, or the part of it at the end of a path, passes a test; without a test it passes if it
counts as true. -/
def passes (path test : Option String) (more : List Value) (item : Value) : Params Bool := do
  let part ← match path with
    | some path => lift (item.path path)
    | none => pure item
  match test with
  | some name => lift (Test.run name (.ofValues (part :: more)))
  | none => return part.isTrue

/-- Keeps the items for which a test holds, or does not hold; without a test, those that count as
true. -/
def selectItems (keep : Bool) (byAttribute : Bool) : Arguments → Except Halt Value :=
  positional do
    let v ← value
    let path ← if byAttribute then some <$> shown else pure none
    let test ← shown?
    let more ← rest
    match test with
    | some name => if Test.exists? name then pure () else fail .unknownTest
    | none => pure ()
    let items ← itemsOf v
    let kept ← items.filterM fun item => return (← passes path test more item) == keep
    return .seq kept

/-- The value at the end of a path. -/
def partAt (path v : Value) : Except Halt Value :=
  match path.text? with
  | some p => v.path p
  | none => v.item path

/-- Takes the value at the end of a path, or another one where there is none. -/
def attributeOf (path otherwise : Value) (v : Value) : Except Halt Value :=
  match partAt path v, otherwise with
  | .ok .undefined, _ => .ok otherwise
  | .ok part, _ => .ok part
  | .error h, .undefined => .error h
  | .error _, otherwise => .ok otherwise

/-- Takes an attribute of every item. -/
def mapAttribute (path : Value) : Arguments → Except Halt Value :=
  withNames do
    let v ← value
    noMore
    let _ ← keyword? "attribute"
    let otherwise := (← keyword? "default").getD .undefined
    noMoreNames
    return .seq (← lift ((← itemsOf v).mapM (attributeOf path otherwise)))

/-- Applies a filter by name; the number bounds how filters apply filters. -/
def runWithin (e : Escaping) : Nat → String → Arguments → Except Halt Value
  | 0, _, _ => .error .invalid
  | fuel + 1, name, args =>
    match (plainFilters e).lookup name with
    | some filter => filter args
    | none =>
      match name with
      | "select" => selectItems true false args
      | "reject" => selectItems false false args
      | "selectattr" => selectItems true true args
      | "rejectattr" => selectItems false true args
      | "map" =>
        match present (args.lookup? "attribute") with
        | some path => mapAttribute path args
        | none =>
          match args.values with
          | [] => .error (.of .missingArgument)
          | [_] => .error .invalid
          | v :: inner :: more =>
            match inner.text? with
            | none => .error .invalid
            | some inner =>
              if exists? inner then
                match v.items? with
                | none => .error .invalid
                | some items => do
                  let values ← items.mapM fun item =>
                    runWithin e fuel inner (.ofValues (item :: more))
                  return .seq values
              else .error (.of .unknownFilter)
      | _ => .error (.of .unknownFilter)

/-- Applies a filter by name. -/
def run (e : Escaping) (name : String) (args : Arguments) : Except Halt Value :=
  runWithin e (args.values.length + 1) name args

end Filter

end Scaffold.Expr

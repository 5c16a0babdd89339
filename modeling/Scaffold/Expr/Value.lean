import Scaffold.Expr.Tree
import Scaffold.Field
import Scaffold.Text.Utf8

/-!
# Value — what expressions compute with

Values are data except for the handles: `context` and `document` stand for the run around an
expression, `cell` for a part of the evaluation that can change. A handle is only a name; what it
stands for is asked of the run or looked up in the evaluation.
-/

set_option autoImplicit false

namespace Scaffold.Expr

/-- The changing parts of an evaluation that a value can refer to. -/
inductive CellKind
  /-- A name space whose attributes can be assigned. -/
  | space
  /-- The state of a loop. -/
  | loop
  /-- The names that another template exports. -/
  | exports
  deriving DecidableEq, Repr

/-- Where a map comes from. -/
inductive MapForm
  /-- Written down or read as data. -/
  | plain
  /-- Arguments that were given by name; they stay so wherever they are handed on as the last
  argument. -/
  | arguments
  /-- Several maps that were joined. -/
  | joined
  deriving DecidableEq, Repr

/-- Which object a value is. What is bound to a name is one object wherever the name and its copies
lead, while two values that are written down are two, also if they are equal. -/
inductive Identity
  /-- No other value can be this one. -/
  | fresh
  | numbered (n : Nat)
  deriving DecidableEq, Repr

/-- A value of an expression. -/
inductive Value
  | undefined
  | none
  | bool (b : Bool)
  /-- An integer, held in a word with a sign or without one: the smaller word of its sort that it
  fits into. -/
  | int (n : Int) (signed : Bool)
  | float (x : Float)
  /-- A text; a `safe` one is not escaped again. -/
  | string (s : String) (safe : Bool)
  | bytes (b : Bytes)
  | seq (items : List Value) (identity : Identity := .fresh)
  /-- Items that are produced on demand; how many there are is known before if they are
  `counted`. -/
  | iterable (items : List Value) (counted : Bool) (identity : Identity := .fresh)
  /-- Items that come again and again. -/
  | repeated (items : List Value) (times : Nat) (identity : Identity := .fresh)
  | map (entries : List (Value × Value)) (form : MapForm) (identity : Identity := .fresh)
  /-- Items with the value that they have in common: a sequence of that value and the items. -/
  | group (key : Value) (items : List Value) (identity : Identity := .fresh)
  /-- A declared field map, which counts as an object of its own kind. -/
  | fields (m : FieldMap) (identity : Identity := .fresh)
  /-- The run that evaluates: `this`. -/
  | context
  /-- The live document: `top`. -/
  | document
  /-- A function of the library. -/
  | function (name : String)
  /-- A routine of the template, with the names that it closes over. -/
  | routine (routine : Routine) (closure : Nat) (usesCaller : Bool)
  | cell (kind : CellKind) (id : Nat)
  /-- What a reference to the evaluation stood for when it was looked at: its attributes, and the
  text that it is written as if that is another one than that of a map. -/
  | view (of : Value) (shown : Option String) (entries : List (Value × Value))
  /-- A reference to the evaluation inside of what it stands for itself. -/
  | again (of : Value)
  /-- A value that could not be built, with the reason. -/
  | invalid (reason : String)

instance : Inhabited Value := ⟨.undefined⟩

namespace Value

/-- A text that is escaped where that is asked for. -/
def text (s : String) : Value := .string s false

/-- The value of a field. -/
def ofField : Field → Value
  | .text s => text s
  | .list items => .seq (items.map text)

/-- Entries with texts as keys. -/
def textKeys (entries : List (String × Value)) : List (Value × Value) :=
  entries.map fun (key, value) => (text key, value)

/-- A map from texts. -/
def record (entries : List (String × Value)) : Value :=
  .map (textKeys entries) .plain

/-- An integer as constants and counts give it: without a sign. -/
def count (n : Nat) : Value := .int n false

/-- An integer as calculations give it: with a sign. -/
def integer (n : Int) : Value := .int n true

/-- An integer of read data: with a sign if it needs one. -/
def number (n : Int) : Value := .int n (n < 0)

/-- A field map as plain data. -/
def ofFieldMap (m : FieldMap) : Value :=
  record (m.entries.map fun (key, value) => (key, ofField value))

/-- An optional value. -/
def ofOption {α : Type} (f : α → Value) : Option α → Value
  | some a => f a
  | Option.none => .none

end Value

/-- The classes of values that operations tell apart. -/
inductive Kind
  | undefined
  | none
  | bool
  | number
  | string
  | bytes
  | seq
  | map
  | iterable
  | plain
  | invalid
  deriving DecidableEq, Repr

/-- The name of a class. -/
def Kind.name : Kind → String
  | .undefined => "undefined"
  | .none => "none"
  | .bool => "bool"
  | .number => "number"
  | .string => "string"
  | .bytes => "bytes"
  | .seq => "sequence"
  | .map => "map"
  | .iterable => "iterator"
  | .plain => "plain object"
  | .invalid => "invalid value"

/-- The class of a value. -/
def Value.kind : Value → Kind
  | .undefined => .undefined
  | .none => .none
  | .bool _ => .bool
  | .int .. | .float _ => .number
  | .string .. => .string
  | .bytes _ => .bytes
  | .seq .. | .group .. => .seq
  | .iterable .. | .repeated .. => .iterable
  | .map .. | .fields .. | .cell .. | .routine .. | .view .. | .again _ => .map
  | .context | .document | .function _ => .plain
  | .invalid _ => .invalid

end Scaffold.Expr

/-!
## Identity — which values are one object

A value with parts becomes an object of its own when it is bound to a name or written down, and so
do the parts that it holds. What is produced on demand holds no parts: they are made anew each time.
-/

namespace Scaffold.Expr.Value

mutual

/-- Gives the objects in a value that have no number the next numbers, from `n` on; also the number
that comes next. -/
def identified : Value → Nat → Value × Nat
  | .seq items .fresh, n =>
    let (items, n) := identifiedAll items n
    (.seq items (.numbered n), n + 1)
  | .map entries form .fresh, n =>
    let (entries, n) := identifiedEntries entries n
    (.map entries form (.numbered n), n + 1)
  | .iterable items counted .fresh, n => (.iterable items counted (.numbered n), n + 1)
  | .repeated items times .fresh, n => (.repeated items times (.numbered n), n + 1)
  | .group key items .fresh, n => (.group key items (.numbered n), n + 1)
  | .fields m .fresh, n => (.fields m (.numbered n), n + 1)
  | v, n => (v, n)

/-- Gives the objects in values numbers. -/
def identifiedAll : List Value → Nat → List Value × Nat
  | [], n => ([], n)
  | v :: vs, n =>
    let (v, n) := v.identified n
    let (vs, n) := identifiedAll vs n
    (v :: vs, n)

/-- Gives the objects in the values of entries numbers. -/
def identifiedEntries : List (Value × Value) → Nat → List (Value × Value) × Nat
  | [], n => ([], n)
  | (key, v) :: entries, n =>
    let (v, n) := v.identified n
    let (entries, n) := identifiedEntries entries n
    ((key, v) :: entries, n)

end

/-- The identity of a value; none if the value is no object that has one. -/
def identity? : Value → Option Identity
  | .seq _ id | .iterable _ _ id | .repeated _ _ id | .map _ _ id | .group _ _ id
  | .fields _ id => some id
  | _ => Option.none

/-- The reference to the evaluation that a value shows the meaning of. -/
def referred : Value → Value
  | .view of _ _ | .again of => of
  | v => v

/-- Two values are one object. What refers to the evaluation is the object that it refers to. -/
def isOneObject (a b : Value) : Bool :=
  match a.referred, b.referred with
  | .cell _ m, .cell _ n => m = n
  | .routine r closure _, .routine r' closure' _ => r.name = r'.name && closure = closure'
  | .context, .context | .document, .document => true
  | .function f, .function g => f = g
  | a, b =>
    match a.identity?, b.identity? with
    | some (.numbered m), some (.numbered n) => m = n
    | _, _ => false

/-- A value counts as an object, not as plain data. -/
def isObject (v : Value) : Bool :=
  match v with
  | .context | .document | .function _ | .routine .. | .cell .. | .view .. | .again _ => true
  | v => v.identity?.isSome

end Scaffold.Expr.Value

namespace Scaffold

/-! ## Interchanged data -/

mutual

/-- A JSON value as a value of expressions. -/
def Json.toValue : Json → Expr.Value
  | .null => .none
  | .bool b => .bool b
  | .int n => .number n
  | .float x => .float x
  | .string s => .text s
  | .array items => .seq (Json.itemsToValues items)
  | .object members => .map (Json.membersToValues members) .plain

/-- The items of an array as values. -/
def Json.itemsToValues : List Json → List Expr.Value
  | [] => []
  | j :: js => j.toValue :: itemsToValues js

/-- The members of an object as entries of a map. -/
def Json.membersToValues : List (String × Json) → List (Expr.Value × Expr.Value)
  | [] => []
  | (name, j) :: members => (.text name, j.toValue) :: membersToValues members

end

end Scaffold

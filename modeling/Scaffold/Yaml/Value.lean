import Scaffold.Decimal
import Scaffold.Text.Quoted
import Scaffold.Yaml.Token

/-!
# Value — generic document data

What a document holds when nothing is expected of it. Mappings keep their order.
-/

set_option autoImplicit false

namespace Scaffold.Yaml

/-- A number: exact if it is an integer. -/
inductive Number
  | int (n : Int)
  | float (x : Float)

/-- How the floating point numbers of documents are written. -/
def floatLayout : Decimal.Layout :=
  ⟨some (-5), some 15, "", 1, ".nan", ".inf", "-.inf"⟩

/-- The text of a number. -/
def Number.text : Number → String
  | .int n => toString n
  | .float x => floatLayout.render x

/-- Equality of numbers: an integer equals no floating point number, and a value that is no
number equals itself. -/
def Number.same : Number → Number → Bool
  | .int a, .int b => a == b
  | .float a, .float b => (a.isNaN && b.isNaN) || a == b
  | _, _ => false

/-- Generic document data. -/
inductive Value
  | null
  | bool (b : Bool)
  | number (n : Number)
  | string (s : String)
  | sequence (items : List Value)
  | mapping (entries : List (Value × Value))
  | tagged (tag : String) (value : Value)

mutual

/-- Equality of values; the order of a mapping's entries does not matter. -/
def Value.same : Value → Value → Bool
  | .null, .null => true
  | .bool a, .bool b => a == b
  | .number a, .number b => a.same b
  | .string a, .string b => a == b
  | .sequence as, .sequence bs => sameItems as bs
  | .mapping as, .mapping bs => as.length == bs.length && sameEntries as bs
  | .tagged t a, .tagged u b => t == u && a.same b
  | _, _ => false

/-- Equality of sequences, item by item. -/
def sameItems : List Value → List Value → Bool
  | [], [] => true
  | a :: as, b :: bs => a.same b && sameItems as bs
  | _, _ => false

/-- Every entry is found among the others. -/
def sameEntries : List (Value × Value) → List (Value × Value) → Bool
  | [], _ => true
  | (k, v) :: entries, others => others.any (fun (l, w) => k.same l && v.same w)
    && sameEntries entries others

end

mutual

/-- A value spelled out with its constructors. -/
def Value.spelledOut : Value → String
  | .null => "Null"
  | .bool b => "Bool(" ++ toString b ++ ")"
  | .number n => "Number(" ++ n.text ++ ")"
  | .string s => "String(" ++ Text.quoted s ++ ")"
  | .sequence items => "Sequence [" ++ ", ".intercalate (spelledItems items) ++ "]"
  | .mapping entries => "Mapping \x7b" ++ ", ".intercalate (spelledEntries entries) ++ "\x7d"
  | .tagged tag value =>
    "TaggedValue \x7b tag: !" ++ tag ++ ", value: " ++ value.spelledOut ++ " \x7d"

/-- The items of a sequence spelled out. -/
def spelledItems : List Value → List String
  | [] => []
  | v :: vs => v.spelledOut :: spelledItems vs

/-- The entries of a mapping; keys that are simple are shown bare. -/
def spelledEntries : List (Value × Value) → List String
  | [] => []
  | (k, v) :: entries =>
    let key := match k with
      | .bool b => toString b
      | .number n => n.text
      | .string s => Text.quoted s
      | k => k.spelledOut
    (key ++ ": " ++ v.spelledOut) :: spelledEntries entries

end

/-- The text of a scalar: nothing for null, and `none` for a value that is no scalar. -/
def Value.scalarText? : Value → Option String
  | .null => some ""
  | .bool b => some (toString b)
  | .number n => some n.text
  | .string s => some s
  | _ => none

end Scaffold.Yaml

/-!
## Scalar — what the text of a scalar means

A plain scalar is null, a boolean or a number if it is spelled like one, else text. A standard tag
forces the reading and refuses other spellings.
-/

namespace Scaffold.Yaml

/-- The reading of a scalar. An integer is `wide` when it does not fit into 64 bits. -/
inductive Scalar
  | null
  | bool (b : Bool)
  | int (n : Int)
  | wide (n : Int)
  | float (x : Float)
  | string (s : String)

namespace Scalar

/-- The spellings of null. -/
def isNull (text : String) : Bool :=
  ["null", "Null", "NULL", "~"].contains text

/-- The spellings of the booleans. -/
def bool? (text : String) : Option Bool :=
  if ["true", "True", "TRUE"].contains text then some true
  else if ["false", "False", "FALSE"].contains text then some false
  else none

/-- Several digits of which the first is zero: text, not a number. -/
def isZeroLed (text : List Char) : Bool :=
  let text := match text with
    | '-' :: rest | '+' :: rest => rest
    | rest => rest
  match text with
  | '0' :: d :: rest => (d :: rest).all Decimal.isDigit
  | _ => false

/-- A number written in base two, eight or sixteen. -/
def based? : List Char → Option Nat
  | '0' :: 'x' :: rest => Decimal.digits? 16 rest
  | '0' :: 'o' :: rest => Decimal.digits? 8 rest
  | '0' :: 'b' :: rest => Decimal.digits? 2 rest
  | _ => none

/-- An unsigned number, with an optional plus sign. -/
def unsigned? (text : List Char) : Option Nat :=
  let digits := match text with
    | '+' :: rest => rest
    | rest => rest
  match based? digits with
  | some n => some n
  | none => if isZeroLed text then none else Decimal.digits? 10 digits

/-- A number with a minus sign. -/
def negative? : List Char → Option Nat
  | '-' :: digits =>
    match based? digits with
    | some n => some n
    | none => if isZeroLed digits then none else Decimal.digits? 10 digits
  | _ => none

/-- An integer of at most 128 bits. -/
def int? (text : String) : Option Scalar :=
  match unsigned? text.toList with
  | some n =>
    if n < Nat.pow 2 64 then some (.int n) else if n < Nat.pow 2 128 then some (.wide n) else none
  | none =>
    match negative? text.toList with
    | some n =>
      if n ≤ Nat.pow 2 63 then some (.int (-n))
      else if n ≤ Nat.pow 2 127 then some (.wide (-n))
      else none
    | none => none

/-- A floating point number, the infinities and the value that is no number. -/
def float? (text : String) : Option Float :=
  let unplussed := match text.toList with
    | '+' :: rest => rest
    | rest => rest
  if text.toList.head? == some '+' && (unplussed.head? == some '+' || unplussed.head? == some '-')
  then none
  else
    let bare := String.ofList unplussed
    if [".inf", ".Inf", ".INF"].contains bare then some (1.0 / 0.0)
    else if ["-.inf", "-.Inf", "-.INF"].contains text then some (-1.0 / 0.0)
    else if [".nan", ".NaN", ".NAN"].contains text then some (0.0 / 0.0)
    else match Decimal.decimal? unplussed with
      | some x => if x.isFinite then some x else none
      | none => none

/-- The reading of a plain scalar without tag. -/
def plain (text : String) : Scalar :=
  if text.isEmpty || isNull text then .null
  else match bool? text with
    | some b => .bool b
    | none =>
      match int? text with
      | some n => n
      | none =>
        if isZeroLed text.toList then .string text
        else match float? text with
          | some x => .float x
          | none => .string text

/-- The names of the standard tags. -/
def standardTag (name : String) : String :=
  "tag:yaml.org,2002:" ++ name

/-- The reading of a scalar; the tag counts unless it `isSpent`. An error names what the tag
asks for. -/
def read (tag : Option String) (text : String) (style : Style) (isSpent : Bool) :
    Except String Scalar :=
  match if isSpent then none else tag with
  | some tag =>
    if tag == standardTag "bool" then
      match bool? text with
      | some b => .ok (.bool b)
      | none => .error "a boolean"
    else if tag == standardTag "int" then
      match int? text with
      | some n => .ok n
      | none => .error "an integer"
    else if tag == standardTag "float" then
      match float? text with
      | some x => .ok (.float x)
      | none => .error "a float"
    else if tag == standardTag "null" then
      if isNull text then .ok .null else .error "null"
    else if tag.toList.head? == some '!' && style == .plain then .ok (plain text)
    else .ok (.string text)
  | none => .ok (if style == .plain then plain text else .string text)

end Scalar

end Scaffold.Yaml

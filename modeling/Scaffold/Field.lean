import Scaffold.Json.Value
import Scaffold.OrderedMap
import Scaffold.Yaml.Value
import Scaffold.Error

/-!
# Field — declared values

A field is a text or a list of texts; a field map is an ordered map of them. Both shapes of a
field map in a document are read here: a mapping of scalars and lists of scalars, and a sequence
of `key=value` texts.
-/

set_option autoImplicit false

namespace Scaffold

/-- A declared value. -/
inductive Field
  | text (value : String)
  | list (values : List String)
  deriving DecidableEq, Repr

/-- The text of a field that is one text. -/
def Field.text? : Field → Option String
  | .text value => some value
  | .list _ => none

/-- How a field is shown. -/
def Field.show : Field → String
  | .text value => value
  | .list values => "[" ++ ", ".intercalate values ++ "]"

/-- The texts of a field, in order. -/
def Field.texts : Field → List String
  | .text value => [value]
  | .list values => values

/-- Declared values by name. -/
abbrev FieldMap := OrderedMap Field

namespace FieldMap

/-- The same keys with the same values, in any order. -/
def same (a b : FieldMap) : Bool :=
  a.size == b.size && a.entries.all fun (key, value) => b.get? key == some value

/-- The field that a document's value declares under a name. -/
def field (key : String) (value : Yaml.Value) : Except Error Field :=
  match value with
  | .sequence items =>
    match items.mapM Yaml.Value.scalarText? with
    | some texts => .ok (.list texts)
    | none => .error (.unsupportedType key)
  | value =>
    match value.scalarText? with
    | some text => .ok (.text text)
    | none => .error (.unsupportedType key)

/-- Adds an entry of a mapping. -/
def addEntry (m : FieldMap) (entry : Yaml.Value × Yaml.Value) : Except Error FieldMap :=
  match entry.1.scalarText? with
  | none => .error (.unsupportedType entry.1.spelledOut)
  | some key => return m.set key (← field key entry.2)

/-- What stands before the first `=` of a text, without blanks around it, and what stands behind
it; in a text without `=` nothing stands behind it. -/
def splitPair (text : String) : String × String :=
  let cs := text.toList
  (String.ofList (Text.trimChars (cs.takeWhile (· != '='))),
    String.ofList ((cs.dropWhile (· != '=')).drop 1))

/-- Adds a `key=value` item of a sequence. -/
def addItem (m : FieldMap) (item : Yaml.Value) : Except Error FieldMap :=
  match item with
  | .string text =>
    let (key, value) := splitPair text
    .ok (m.set key (.text value))
  | item => .error (.unsupportedType item.spelledOut)

/-- The field map that generic data declare. -/
def ofYaml (value : Yaml.Value) : Except Error FieldMap :=
  match value with
  | .null => .ok .empty
  | .mapping entries => entries.foldlM addEntry .empty
  | .sequence items => items.foldlM addItem .empty
  | value => .error (.unsupportedType value.spelledOut)

end FieldMap

/-- A field as JSON. -/
def Field.toJson : Field → Json
  | .text value => .string value
  | .list values => .array (values.map .string)

/-- A field map as JSON. -/
def FieldMap.toJson (m : FieldMap) : Json :=
  .object (m.entries.map fun (key, value) => (key, value.toJson))

/-- A field as generic data. -/
def Field.toYaml : Field → Yaml.Value
  | .text value => .string value
  | .list values => .sequence (values.map .string)

/-- A field map as generic data. -/
def FieldMap.toYaml (m : FieldMap) : Yaml.Value :=
  .mapping (m.entries.map fun (key, value) => (.string key, value.toYaml))

end Scaffold

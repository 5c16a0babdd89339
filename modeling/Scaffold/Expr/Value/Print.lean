import Scaffold.Decimal
import Scaffold.Expr.Value.View
import Scaffold.Text.Quoted
import Scaffold.Expr.Failure
import Scaffold.Json.Value

/-!
# Print — how values are written

A text is written as it stands, a row or a map with its parts spelled out: texts between quotation
marks, absent values by name.
-/

set_option autoImplicit false

namespace Scaffold.Expr.Value

/-- How doubles are written inside of rows and maps. -/
def partLayout : Decimal.Layout :=
  ⟨some (-4), some 15, "", 1, "NaN", "inf", "-inf"⟩

/-- How a byte is spelled. -/
def spellByte (b : UInt8) : List Char :=
  let n : Nat := b.toNat
  if n = 9 then ['\\', 't']
  else if n = 10 then ['\\', 'n']
  else if n = 13 then ['\\', 'r']
  else if n = 39 then ['\\', '\'']
  else if n = 92 then ['\\', '\\']
  else if 32 ≤ n && n < 127 then [Char.ofNat n]
  else
    let digit (d : Nat) : Char := if d < 10 then Char.ofNat (48 + d) else Char.ofNat (87 + d)
    ['\\', 'x', digit (n / 16), digit (n % 16)]

/-- A truth value by name. -/
def boolText (b : Bool) : String :=
  if b then "True" else "False"

/-- Parts between brackets with commas between them. -/
def bracketText (before after : String) (parts : List String) : String :=
  before ++ ", ".intercalate parts ++ after

/-- A field spelled out. -/
def spellField : Field → String
  | .text s => Text.quoted s
  | .list items => bracketText "[" "]" (items.map Text.quoted)

/-- A function by name. -/
def functionText (name : String) : String :=
  "<function " ++ name ++ ">"

mutual

/-- A value spelled out. -/
def spell : Value → String
  | .undefined => "undefined"
  | .none => "None"
  | .bool b => boolText b
  | .int n _ => toString n
  | .float x => partLayout.render x
  | .string s _ => Text.quoted s
  | .bytes b => "b'" ++ String.ofList (b.flatMap spellByte) ++ "'"
  | .seq items _ | .iterable items _ _ => bracketText "[" "]" (spellAll items)
  | .repeated items times _ =>
    let times := min times (maxElements / max items.length 1)
    bracketText "[" "]" (List.replicate times (spellAll items)).flatten
  | .group key items _ =>
    bracketText "[" "]" [spell key, bracketText "[" "]" (spellAll items)]
  | .map entries _ _ | .view _ Option.none entries =>
    bracketText "\x7b" "\x7d" (spellEntries entries)
  | .view _ (some shown) _ => shown
  | .fields m _ =>
    bracketText "\x7b" "\x7d" (m.entries.map fun (key, value) =>
      Text.quoted key ++ ": " ++ spellField value)
  | .context => "<this>"
  | .document => "<top>"
  | .function name => functionText name
  | .routine r _ _ => "<macro " ++ r.name ++ ">"
  | .cell _ _ | .again _ => ""
  | .invalid reason => "<invalid value: " ++ reason ++ ">"

/-- Values spelled out. -/
def spellAll : List Value → List String
  | [] => []
  | v :: vs => spell v :: spellAll vs

/-- Entries spelled out. -/
def spellEntries : List (Value × Value) → List String
  | [] => []
  | (key, value) :: entries => (spell key ++ ": " ++ spell value) :: spellEntries entries

end

/-- The text that a value is written as. -/
def print : Value → String
  | .undefined => ""
  | .float x => Decimal.plain.render x
  | .string s _ => s
  | .bytes b => Utf8.toStringLossy b
  | v => spell v

end Scaffold.Expr.Value

/-!
## Tall — values spelled out over several lines

Every part of a row or a map begins a line of its own, indented below its bracket and with a comma
behind it. What has no parts is spelled as it is within a line.
-/

namespace Scaffold.Expr.Value

/-- The lines of a part: indented, with a comma at the end of the last one. -/
def partLines : List String → List String
  | [] => []
  | [last] => ["    " ++ last ++ ","]
  | line :: lines => ("    " ++ line) :: partLines lines

/-- Parts below one another between two brackets, which close at once where there is none. -/
def bracketLines (before after : String) (parts : List (List String)) : List String :=
  if parts.isEmpty then [before ++ after]
  else before :: parts.flatMap partLines ++ [after]

/-- A key with its value behind it: the value begins on the last line of the key. -/
def entryLines (key value : List String) : List String :=
  match value with
  | [] => key
  | first :: lines =>
    key.dropLast ++ (key.getLast?.getD "" ++ ": " ++ first) :: lines

/-- The lines of a field. -/
def fieldLines : Field → List String
  | .text s => [Text.quoted s]
  | .list items => bracketLines "[" "]" (items.map fun s => [Text.quoted s])

mutual

/-- The lines of a value. -/
def tallLines : Value → List String
  | .seq items _ | .iterable items _ _ => bracketLines "[" "]" (allTallLines items)
  | .repeated items times _ =>
    let times := min times (maxElements / max items.length 1)
    bracketLines "[" "]" (List.replicate times (allTallLines items)).flatten
  | .group key items _ =>
    bracketLines "[" "]" [tallLines key, bracketLines "[" "]" (allTallLines items)]
  | .map entries _ _ | .view _ Option.none entries =>
    bracketLines "\x7b" "\x7d" (entriesTallLines entries)
  | .fields m _ =>
    bracketLines "\x7b" "\x7d" (m.entries.map fun (key, value) =>
      entryLines [Text.quoted key] (fieldLines value))
  | v => [spell v]

/-- The lines of every value. -/
def allTallLines : List Value → List (List String)
  | [] => []
  | v :: vs => tallLines v :: allTallLines vs

/-- The lines of every entry. -/
def entriesTallLines : List (Value × Value) → List (List String)
  | [] => []
  | (key, value) :: entries =>
    entryLines (tallLines key) (tallLines value) :: entriesTallLines entries

end

/-- A value spelled out with its parts below one another. -/
def tall (v : Value) : String := "\n".intercalate v.tallLines

end Scaffold.Expr.Value

/-!
## Json — values as JSON

Absent values become null, bytes a list of numbers, and what can only be shown the text that it is
shown as. A map needs keys that can be written as names.
-/

namespace Scaffold.Expr.Value

/-- The name that a key is written as. -/
def memberName : Value → Except Halt String
  | .string s _ => .ok s
  | .int n _ => .ok (toString n)
  | .bool b => .ok (if b then "true" else "false")
  | .float x =>
    if x.isNaN || x.isInf then .error (.of .notSerializable)
    else .ok (Json.floatLayout.render x)
  | _ => .error (.of .notSerializable)

mutual

/-- A value as JSON. -/
def toJson : Value → Except Halt Json
  | .undefined | .none => .ok .null
  | .bool b => .ok (.bool b)
  | .int n _ => .ok (.int n)
  | .float x => .ok (if x.isNaN || x.isInf then .null else .float x)
  | .string s _ => .ok (.string s)
  | .bytes b => .ok (.array (b.map fun x => .int x.toNat))
  | .seq items _ | .iterable items _ _ => return .array (← allToJson items)
  | .repeated items times _ => do
    let items ← allToJson items
    return .array (List.replicate (min times (maxElements / max items.length 1)) items).flatten
  | .group key items _ => return .array [← toJson key, .array (← allToJson items)]
  | .map entries _ _ | .view _ _ entries => return .object (← entriesToJson entries)
  | .fields m _ => .ok m.toJson
  | .invalid _ => .error (.of .notSerializable)
  | v => .ok (.string v.print)

/-- Values as JSON. -/
def allToJson : List Value → Except Halt (List Json)
  | [] => .ok []
  | v :: vs => return (← toJson v) :: (← allToJson vs)

/-- Entries of a map as JSON. -/
def entriesToJson : List (Value × Value) → Except Halt (List (String × Json))
  | [] => .ok []
  | (key, value) :: entries =>
    return (← memberName key, ← toJson value) :: (← entriesToJson entries)

end

end Scaffold.Expr.Value

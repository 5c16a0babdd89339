import Scaffold.Encoding.Digits
import Scaffold.Expr.Arguments
import Scaffold.Expr.Value.Print
import Scaffold.Inflection.Number
import Scaffold.Expr.Value
import Scaffold.Json.Value
import Scaffold.Json.Reading

/-!
# Data — encodings, patterns and names

Encoders take bytes: those of a text, bytes themselves, or a sequence of numbers below 256.
-/

set_option autoImplicit false

namespace Scaffold.Expr.Filter

open Params

/-- Fails with a wording of its own. -/
def failWith {α : Type} (detail : String) : Params α := throw (.because detail)

/-- The byte that a value stands for. -/
def byteOf? (v : Value) : Option UInt8 :=
  match v.integer? 64 with
  | some (.ofNat n) => if n < 256 then some n.toUInt8 else none
  | _ => none

/-- The bytes that a value stands for. -/
def bytesOf? (v : Value) : Option Bytes :=
  match v with
  | .string s _ => some (Utf8.ofString s)
  | .bytes b => some b
  | v => if v.kind = .seq then (v.elements?.getD []).mapM byteOf? else none

/-- Encodes the bytes of a value. -/
def encodeWith (expects : String) (encode : Bytes → List Char) : Arguments → Except Halt Value :=
  positional do
    let v ← value
    noMore
    match bytesOf? v with
    | some b => return .text (String.ofList (encode b))
    | none => failWith expects

/-- Base64. -/
def b64enc : Arguments → Except Halt Value :=
  encodeWith "b64enc expects a string or bytes" Base64.encode

/-- Two digits a byte. -/
def hexenc : Arguments → Except Halt Value :=
  encodeWith "hexenc expects a string or bytes" Hex.encode

/-- The bytes of a text in Base64. -/
def b64dec : Arguments → Except Halt Value :=
  positional do
    let text ← takeAs asText
    noMore
    match Base64.decode (Utf8.ofString (Text.trim text)) with
    | .ok b => return .bytes b
    | .error fault => failWith ("invalid base64: " ++ fault.message)

/-- The bytes of a text with two digits a byte. -/
def hexdec : Arguments → Except Halt Value :=
  positional do
    let text ← takeAs asText
    noMore
    match Hex.decode (Utf8.ofString (Text.trim text)) with
    | .ok b => return .bytes b
    | .error fault => failWith ("invalid hex: " ++ fault.message)

/-- The value that a JSON text writes. -/
def fromJson : Arguments → Except Halt Value :=
  positional do
    let text ← takeAs asText
    noMore
    match Json.ofText text with
    | .ok j => return j.toValue
    | .error fault => failWith ("invalid JSON: " ++ fault.message)

/-- How far parts are indented: not at all, by two blanks, or by a number of them. -/
def indentation (v : Value) : Params (Option Nat) :=
  match v with
  | .bool true => return some 2
  | .bool false => return none
  | v => some <$> asNat v

/-- A JSON text in which no character marks anything up. -/
def harmless (c : Char) : List Char :=
  match c with
  | '<' => "\\u003c".toList
  | '>' => "\\u003e".toList
  | '&' => "\\u0026".toList
  | '\'' => "\\u0027".toList
  | c => [c]

/-- JSON as a text, on one line or with its parts indented. -/
def printed (width : Option Nat) (j : Json) : Params Value :=
  match width with
  | some w =>
    if Value.maxElements < w then fail .invalidOperation
    else return .string (String.ofList ((j.printIndented w).toList.flatMap harmless)) true
  | none => return .string (String.ofList (j.print.toList.flatMap harmless)) true

/-- A value as a JSON text that is not escaped again. -/
def toJson : Arguments → Except Halt Value :=
  withNames do
    let v ← value
    let given := present (← next?)
    noMore
    let given ← match given with
      | some g => pure (some g)
      | none => keyword "indent" asIs
    let width ← match given with
      | some g => indentation g
      | none => pure none
    let j ← match v.toJson with
      | .ok j => pure j
      | .error _ => fail .invalidOperation
    printed width j

/-- The pattern that a text writes. -/
def pattern (source : String) : Params Regex.Pattern :=
  match Regex.ofText? source with
  | some p => return p
  | none => failWith ("invalid regex '" ++ source ++ "'")

/-- Whether a part of a text matches a pattern. -/
def regex : Arguments → Except Halt Value :=
  positional do
    let text ← takeAs asText
    let source ← takeAs asText
    noMore
    return .bool ((← pattern source).matches text)

/-- A text with the matches of a pattern replaced. -/
def regexReplace : Arguments → Except Halt Value :=
  positional do
    let text ← takeAs asText
    let source ← takeAs asText
    let new ← takeAs asText
    noMore
    return .text ((← pattern source).replaceAll text new)

/-- Applies a function to a text. -/
def onName (f : String → String) : Arguments → Except Halt Value :=
  positional do
    return .text (f (← takeAs asText))

/-- The filters on data and names by name. -/
def dataFilters : List (String × (Arguments → Except Halt Value)) := [
  ("tojson", toJson), ("fromjson", fromJson), ("b64enc", b64enc), ("b64dec", b64dec),
  ("hexenc", hexenc), ("hexdec", hexdec), ("regex", regex), ("regex_replace", regexReplace),
  ("camel_case", onName Inflection.camelCase), ("kebab_case", onName Inflection.kebabCase),
  ("pascal_case", onName Inflection.pascalCase),
  ("screaming_snake_case", onName Inflection.screamingSnakeCase),
  ("snake_case", onName Inflection.snakeCase), ("table_case", onName Inflection.tableCase),
  ("train_case", onName Inflection.trainCase), ("plural", onName Inflection.plural),
  ("singular", onName Inflection.singular), ("foreign_key", onName Inflection.foreignKey)]

end Scaffold.Expr.Filter

import Scaffold.Document.Basic

/-!
# Data — declarations as values

How the parts of a document look to an expression: records are maps with their fields in order of
declaration, and an absent part is none.
-/

set_option autoImplicit false

namespace Scaffold

open Scaffold.Expr (Value)

mutual

/-- Generic document data as a value; a tag becomes the only key of a map. -/
def Yaml.Value.toValue : Yaml.Value → Expr.Value
  | .null => .none
  | .bool b => .bool b
  | .number (.int n) => .number n
  | .number (.float x) => .float x
  | .string s => .text s
  | .sequence items => .seq (Yaml.itemsToValues items)
  | .mapping entries => .map (Yaml.entriesToValues entries) .plain
  | .tagged tag value => .map [(.text ("!" ++ tag), value.toValue)] .plain

/-- The items of a sequence as values. -/
def Yaml.itemsToValues : List Yaml.Value → List Expr.Value
  | [] => []
  | v :: vs => v.toValue :: itemsToValues vs

/-- The entries of a mapping as values. -/
def Yaml.entriesToValues : List (Yaml.Value × Yaml.Value) → List (Expr.Value × Expr.Value)
  | [] => []
  | (k, v) :: entries => (k.toValue, v.toValue) :: entriesToValues entries

end

/-- An optional field map as a value. -/
def FieldMap.optionalValue (m : Option FieldMap) : Value :=
  .ofOption .ofFieldMap m

/-- A file template as a value. -/
def FileSpec.toValue (spec : FileSpec) : Value :=
  .record [
    ("path", .text spec.path),
    ("content", .text spec.content),
    ("isDir", .bool spec.isDir),
    ("range", .text spec.range),
    ("comment", .text spec.comment),
    ("ignore", .bool spec.ignore)]

/-- The files and fields of a multipart request as a value. -/
def Upload.toValue (upload : Upload) : Value :=
  .record [
    ("files", FieldMap.optionalValue upload.files),
    ("data", FieldMap.optionalValue upload.data)]

/-- A request as a value, without its response. -/
def RemoteSpec.toValue (spec : RemoteSpec) : Value :=
  .record [
    ("type", .text spec.type),
    ("url", .text spec.url),
    ("method", .text spec.method),
    ("headers", FieldMap.optionalValue spec.headers),
    ("requestParams", FieldMap.optionalValue spec.requestParams),
    ("requestFormData", FieldMap.optionalValue spec.requestFormData),
    ("requestUploadFiles", .ofOption Upload.toValue spec.requestUploadFiles),
    ("requestBody", .text spec.requestBody),
    ("responseJudge", .text spec.responseJudge),
    ("responseParser", .text spec.responseParser),
    ("postResponseParser", .text spec.postResponseParser),
    ("skipHttpsVerifyCert", .bool spec.skipHttpsVerifyCert)]

/-- A response as a value. -/
def Response.toValue (response : Response) : Value :=
  .record [
    ("status", .number response.status),
    ("reason", .text response.reason),
    ("headers", .record (response.headers.entries.map fun (key, value) => (key, .text value))),
    ("data", response.data)]

/-- The hook commands as a value. -/
def Executes.toValue (executes : Executes) : Value :=
  .record [
    ("pre", .seq (executes.pre.map .text)),
    ("post", .seq (executes.post.map .text))]

/-- The remote variables as a value. -/
def RemoteVars.toValue (vars : RemoteVars) : Value :=
  .record (vars.entries.map fun (name, spec) => (name, .ofOption RemoteSpec.toValue spec))

/-- The file templates as a value. -/
def Document.templatesValue (d : Document) : Value :=
  .record (d.templates.entries.map fun (path, spec) => (path, spec.toValue))

end Scaffold

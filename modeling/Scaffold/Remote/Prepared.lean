import Scaffold.Encoding.Digits
import Scaffold.Evaluation
import Scaffold.FileSystem.Path
import Scaffold.Text.Case

/-!
# Prepared — the requests of remote variables

A request is prepared by evaluating its expressions in a fixed order: type, address, method,
headers, parameters, and then only the first body that is declared. Lists stand for several pairs
of one name.
-/

set_option autoImplicit false

namespace Scaffold

/-- Pairs of a name and a value, in order. -/
abbrev Pairs := List (String × String)

/-- The body of a prepared request. -/
inductive PreparedBody
  | none
  | raw (text : String)
  | form (pairs : Pairs)
  /-- Files by path, and fields. -/
  | multipart (files fields : Pairs)
  deriving DecidableEq, Repr

/-- A request with every expression evaluated. -/
structure Prepared where
  kind : String
  method : String
  url : String
  headers : Pairs
  body : PreparedBody
  skipVerify : Bool
  deriving DecidableEq, Repr

namespace Prepared

/-- The pairs that a field stands for under a name. -/
def pairsOf (name : String) : Field → Pairs
  | .text value => [(name, value)]
  | .list values => values.map (name, ·)

/-- Evaluates declared fields, in order. -/
def pairsOfEntries (names : Bindings) : List (String × Field) → Step Pairs
  | [] => return []
  | (name, field) :: entries => do
    let field ← evaluateField names field
    return pairsOf name field ++ (← pairsOfEntries names entries)

/-- Evaluates the fields of a section; an absent one has none. -/
def pairs (names : Bindings) (section? : Option FieldMap) : Step Pairs :=
  match section? with
  | some m => pairsOfEntries names m.entries
  | none => return []

/-- Evaluates an expression to its text without the blanks around it. -/
def trimmed (expr : String) (names : Bindings) : Step String := do
  return Text.trim (← evaluateText expr names)

/-- An address with its scheme, unless it begins with that. -/
def withKind (kind address : String) : String :=
  if kind.toList.isPrefixOf address.toList then address else kind ++ "://" ++ address

/-- An address with parameters behind those that it has. -/
def withParams (address : String) (params : Pairs) : String :=
  if params.isEmpty then address
  else
    let mark := if address.toList.contains '?' then "&" else "?"
    address ++ mark ++ FormUrl.encode params

/-- Evaluates the first body that is declared: a raw one, a form, or files and fields. -/
def chooseBody (sourceRoot : String) (spec : RemoteSpec) (names : Bindings) :
    Step PreparedBody := do
  if !Text.isBlankText spec.requestBody then
    return .raw (← evaluateText spec.requestBody names)
  else if spec.requestFormData.any (!·.isEmpty) then
    return .form (← pairs names spec.requestFormData)
  else
    match spec.requestUploadFiles with
    | some upload =>
      if upload.isEmpty then return .none
      else
        let files ← pairs names upload.files
        let fields ← pairs names upload.data
        return .multipart (files.map fun (name, path) => (name, Path.join sourceRoot path)) fields
    | none => return .none

/-- The schemes that a request can have. -/
def kinds : List String := ["http", "https"]

/-- Prepares the request of a remote variable. -/
def ofSpec (sourceRoot name : String) (spec : RemoteSpec) (names : Bindings) : Step Prepared := do
  Step.modify (·.setData spec.toValue)
  if Text.isBlankText spec.url then Step.fail (.remoteVar name .missingUrl)
  else
    let kind := Text.lower (← trimmed spec.type names)
    if !kinds.contains kind then Step.fail (.remoteVar name (.unsupportedType kind))
    else
      let address := withKind kind (← trimmed spec.url names)
      let method := Text.upper (← trimmed spec.method names)
      let headers ← pairs names spec.headers
      let params ← pairs names spec.requestParams
      let body ← chooseBody sourceRoot spec names
      return {
        kind, headers, body
        method := if method.isEmpty then "GET" else method
        url := withParams address params
        skipVerify := kind == "https" && spec.skipHttpsVerifyCert }

/-- A header of some name is there, in whatever case it is written. -/
def hasHeader (p : Prepared) (name : String) : Bool :=
  p.headers.any fun (key, _) => key.toList.map Char.toLower == name.toList.map Char.toLower

end Prepared

end Scaffold

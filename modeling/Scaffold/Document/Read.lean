import Scaffold.Document.Basic
import Scaffold.Yaml.Reading

/-!
# Read — documents from their text

A document is a mapping with known fields; what is left out has its default, and unknown fields
are passed over. Remote variables without a url are refused here, where their place is known.
-/

set_option autoImplicit false

namespace Scaffold

open Yaml (Reading)

/-- A field map, from generic data. -/
def FieldMap.reading : Reading FieldMap := do
  match FieldMap.ofYaml (← Reading.value) with
  | .ok m => return m
  | .error e => Reading.refuse e.message

/-- A text. -/
def readText : Reading String :=
  Reading.string "a string"

/-- A list of texts. -/
def readTexts : Reading (List String) :=
  Reading.sequence "a sequence" readText

/-- A file template. -/
def FileSpec.reading : Reading FileSpec :=
  Reading.record "struct FileSpec" {} fun name =>
    match name with
    | "path" => some fun s => return { s with path := ← readText }
    | "content" => some fun s => return { s with content := ← readText }
    | "isDir" => some fun s => return { s with isDir := ← Reading.bool }
    | "range" => some fun s => return { s with range := ← readText }
    | "comment" => some fun s => return { s with comment := ← readText }
    | "ignore" => some fun s => return { s with ignore := ← Reading.bool }
    | _ => none

/-- The files and fields of a multipart request. -/
def Upload.reading : Reading Upload :=
  Reading.record "struct UploadFiles" {} fun name =>
    match name with
    | "files" => some fun s => return { s with files := ← Reading.optional FieldMap.reading }
    | "data" => some fun s => return { s with data := ← Reading.optional FieldMap.reading }
    | _ => none

/-- A request. -/
def RemoteSpec.reading : Reading RemoteSpec :=
  Reading.record "struct RemoteVarSpec" {} fun name =>
    match name with
    | "type" => some fun s => return { s with type := ← readText }
    | "url" => some fun s => return { s with url := ← readText }
    | "method" => some fun s => return { s with method := ← readText }
    | "headers" => some fun s => return { s with headers := ← Reading.optional FieldMap.reading }
    | "requestParams" => some fun s =>
      return { s with requestParams := ← Reading.optional FieldMap.reading }
    | "requestFormData" => some fun s =>
      return { s with requestFormData := ← Reading.optional FieldMap.reading }
    | "requestUploadFiles" => some fun s =>
      return { s with requestUploadFiles := ← Reading.optional Upload.reading }
    | "requestBody" => some fun s => return { s with requestBody := ← readText }
    | "responseJudge" => some fun s => return { s with responseJudge := ← readText }
    | "responseParser" => some fun s => return { s with responseParser := ← readText }
    | "postResponseParser" => some fun s => return { s with postResponseParser := ← readText }
    | "skipHttpsVerifyCert" => some fun s =>
      return { s with skipHttpsVerifyCert := ← Reading.bool }
    | _ => none

/-- Remote variables; an entry with a request must have a url. -/
def RemoteVars.reading : Reading RemoteVars :=
  Reading.mapping "a mapping of remote variable names to request specs" OrderedMap.empty
    fun vars path => do
      let name ← readText
      let spec ← Reading.under path (Reading.optional RemoteSpec.reading)
      if spec.any fun spec => Text.isBlankText spec.url then
        Reading.refuse ("remote variable '" ++ name ++ "' is missing url")
      return vars.set name spec

/-- The hook commands. -/
def Executes.reading : Reading Executes :=
  Reading.record "struct Executes" {} fun name =>
    match name with
    | "pre" => some fun s => return { s with pre := ← readTexts }
    | "post" => some fun s => return { s with post := ← readTexts }
    | _ => none

/-- The platform whose shell counts in a mapping of shells. -/
def Shell.platform : String := "unix"

/-- The text of a value, whatever tag it carries. -/
def untaggedText? : Yaml.Value → Option String
  | .string s => some s
  | .tagged _ value => untaggedText? value
  | _ => none

/-- The shell that generic data declare: a text, or one text per platform. -/
def Shell.ofYaml? (value : Yaml.Value) : Option Shell :=
  let declare (text : Option String) : Option Shell :=
    some ⟨(text.map Text.trim).filter (!·.isEmpty)⟩
  match value with
  | .null => declare none
  | .string s => declare (some s)
  | .mapping entries =>
    declare ((entries.find? fun (key, _) =>
      (untaggedText? key).any fun key => key.map Char.toLower == platform).bind
        (untaggedText? ·.2))
  | _ => none

/-- The shell. -/
def Shell.reading : Reading Shell := do
  match Shell.ofYaml? (← Reading.value) with
  | some shell => return shell
  | none => Reading.refuse "unsupported shell configuration"

/-- The file templates by their path expressions. -/
def readTemplates : Reading (OrderedMap FileSpec) :=
  Reading.mapping "a map" OrderedMap.empty fun templates path => do
    let name ← readText
    return templates.set name (← Reading.under path FileSpec.reading)

/-- A document. -/
def Document.reading : Reading Document :=
  Reading.record "struct TemplateDocument" {} fun name =>
    match name with
    | "import" => some fun d => return { d with imports := ← readTexts }
    | "envs" => some fun d => return { d with envs := ← Reading.optional FieldMap.reading }
    | "vars" => some fun d => return { d with vars := ← Reading.optional FieldMap.reading }
    | "remoteVars" => some fun d =>
      return { d with remoteVars := ← Reading.optional RemoteVars.reading }
    | "templates" => some fun d => return { d with templates := ← readTemplates }
    | "executes" => some fun d =>
      return { d with executes := ← Reading.optional Executes.reading }
    | "shell" => some fun d => return { d with shell := ← Shell.reading }
    | "comments" => some fun d =>
      return { d with comments := ← Reading.optional Reading.value }
    | _ => none

/-- Reads one value from a text. -/
def readYaml {α : Type} (content : Bytes) (r : Reading α) : Except Error α :=
  match (Yaml.Stream.ofBytes content).read r with
  | .ok a => .ok a
  | .error fault =>
    let (line, column) := fault.position
    .error (.parse line column fault.message)

/-- The white space of the ASCII characters, as bytes. -/
def isAsciiBlank (b : UInt8) : Bool :=
  b == 0x20 || b == 0x9 || b == 0xA || b == 0xC || b == 0xD

/-- The document of a text; nothing but white space is the document without declarations. -/
def Document.ofBytes (content : Bytes) : Except Error Document :=
  if content.all isAsciiBlank then .ok {} else readYaml content Document.reading

end Scaffold

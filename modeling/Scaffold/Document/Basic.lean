import Scaffold.Expr.Value

/-!
# Document — what a template document declares

Envs, vars, remote variables, file templates, hook commands and the shell they run in. Sections
that a document may leave out are optional: absent is not the same as empty.
-/

set_option autoImplicit false

namespace Scaffold

/-- One entry below the output directory. -/
structure FileSpec where
  /-- Expression for a source file to copy; it wins over `content`. -/
  path : String := ""
  /-- Expression for the content of the file. -/
  content : String := ""
  isDir : Bool := false
  /-- Expression that registers what the entry is repeated over. -/
  range : String := ""
  comment : String := ""
  ignore : Bool := false
  deriving DecidableEq, Repr

/-- Files and fields of a multipart request. -/
structure Upload where
  files : Option FieldMap := none
  data : Option FieldMap := none

/-- Neither files nor fields. -/
def Upload.isEmpty (upload : Upload) : Bool :=
  upload.files.all (·.isEmpty) && upload.data.all (·.isEmpty)

/-- What a remote variable resolved to. -/
structure Response where
  status : Nat
  reason : String
  headers : OrderedMap String
  data : Expr.Value

/-- A request whose response becomes a variable. -/
structure RemoteSpec where
  type : String := ""
  url : String := ""
  method : String := ""
  headers : Option FieldMap := none
  requestParams : Option FieldMap := none
  requestFormData : Option FieldMap := none
  requestUploadFiles : Option Upload := none
  requestBody : String := ""
  responseJudge : String := ""
  responseParser : String := ""
  postResponseParser : String := ""
  skipHttpsVerifyCert : Bool := false
  response : Option Response := none

/-- Remote variables by name; a name may be declared without a request. -/
abbrev RemoteVars := OrderedMap (Option RemoteSpec)

/-- The hook commands. -/
structure Executes where
  pre : List String := []
  post : List String := []
  deriving DecidableEq, Repr

/-- The shell that a document declares, if it declares one for this platform. -/
structure Shell where
  declared : Option String := none
  deriving DecidableEq, Repr

/-- The shell of documents that declare none. -/
def Shell.standard : String := "bash -c"

/-- The shell that commands run in. -/
def Shell.effective (shell : Shell) : String :=
  shell.declared.getD standard

/-- A template document. -/
structure Document where
  imports : List String := []
  envs : Option FieldMap := none
  vars : Option FieldMap := none
  remoteVars : Option RemoteVars := none
  templates : OrderedMap FileSpec := .empty
  executes : Option Executes := none
  shell : Shell := {}
  comments : Option Yaml.Value := none

namespace Document

/-- The request of a remote variable. -/
def remoteSpec? (d : Document) (name : String) : Option RemoteSpec :=
  d.remoteVars.bind fun vars => (vars.get? name).join

/-- Stores the response to a remote variable that is declared with a request. -/
def setResponse (d : Document) (name : String) (response : Response) : Document :=
  match d.remoteVars, d.remoteSpec? name with
  | some vars, some spec =>
    { d with remoteVars := some (vars.set name (some { spec with response := some response })) }
  | _, _ => d

/-- The commands before the templates. -/
def preCommands (d : Document) : List String :=
  (d.executes.map (·.pre)).getD []

/-- The commands after the templates. -/
def postCommands (d : Document) : List String :=
  (d.executes.map (·.post)).getD []

/-- Writes a section over another one; absent sections change nothing. -/
def overlay {α : Type} : Option (OrderedMap α) → Option (OrderedMap α) → Option (OrderedMap α)
  | none, upper => upper
  | some base, none => some base
  | some base, some upper => some (base.setAll upper.entries)

/-- Writes the declarations of another document over those of this one. Known keys keep their
place and take the new value; imports, hooks, shell and comments stay. -/
def merge (d other : Document) : Document :=
  { d with
    envs := overlay d.envs other.envs
    vars := overlay d.vars other.vars
    remoteVars := overlay d.remoteVars other.remoteVars
    templates := d.templates.setAll other.templates.entries }

/-- A document on top of its imports: the imports from left to right, then its own declarations;
everything that is not merged is its own. -/
def compose (imported : List Document) (d : Document) : Document :=
  let base := imported.foldl merge {}
  { base with
    imports := d.imports
    executes := d.executes
    shell := d.shell
    comments := d.comments }.merge d

end Document

end Scaffold

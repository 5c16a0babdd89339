import Scaffold.Document.Data
import Scaffold.Expr.Question
import Scaffold.Expr.Value
import Scaffold.Project

/-!
# Context — what a run knows while it evaluates

The context holds the document as far as it is resolved, the project, the environment of the
process, the item that is being worked on, and four slots in which an evaluation leaves what it
has to say: an error, a return value, blocks of raw bytes, and the sources of a range. Whoever
evaluates takes them out again.
-/

set_option autoImplicit false

namespace Scaffold

open Scaffold.Calendar (Clock)
open Scaffold.Expr (Value)

/-- The phases of a run. -/
inductive Phase
  | envs
  | vars
  | remoteVars
  | templates
  | executesPre
  | executesPost
  deriving DecidableEq, Repr

/-- The name of a phase. -/
def Phase.text : Phase → String
  | .envs => "env"
  | .vars => "vars"
  | .remoteVars => "remoteVars"
  | .templates => "templates"
  | .executesPre => "executes-pre"
  | .executesPost => "executes-post"

/-- The context of a run. -/
structure Context where
  document : Document
  project : Project
  /-- The environment of the process. -/
  environment : List (String × String) := []
  /-- What the clock of the system shows whenever the time is asked for from now on. -/
  clock : Clock := default
  phase : Phase := .envs
  /-- The name of the current item. -/
  name : String := ""
  /-- The data of the current item. -/
  data : Value := .undefined
  error : Option String := none
  returned : Option Value := none
  /-- The blocks of raw bytes for the file that is being written. -/
  writes : List Bytes := []
  pathRange : Option (List Value) := none

namespace Context

/-- Turns to another item. -/
def enter (c : Context) (phase : Phase) (name : String) (data : Value) : Context :=
  { c with phase, name, data }

/-- Sets the clock. -/
def setClock (c : Context) (clock : Clock) : Context :=
  { c with clock }

/-- Changes the data of the current item. -/
def setData (c : Context) (data : Value) : Context :=
  { c with data }

/-- Empties all slots. -/
def reset (c : Context) : Context :=
  { c with error := none, returned := none, writes := [], pathRange := none }

/-- Empties the slots that hold what is said about the file that is being written. -/
def clearFile (c : Context) : Context :=
  { c with writes := [], pathRange := none }

/-- Empties the slots of a single evaluation. -/
def drain (c : Context) : Context :=
  { c with error := none, returned := none }

/-- Declares a variable. -/
def setVar (c : Context) (name : String) (value : Field) : Context :=
  { c with document := { c.document with
      vars := some ((c.document.vars.getD .empty).set name value) } }

/-- Stores the response to a remote variable that is declared with a request. -/
def setResponse (c : Context) (name : String) (response : Response) : Context :=
  { c with document := c.document.setResponse name response }

/-! ## What an evaluation can ask -/

/-- The text that the document declares for an environment variable. -/
def declaredEnv? (c : Context) (name : String) : Option String :=
  (c.document.envs.bind (·.get? name)).bind Field.text?

/-- The value of an environment variable: the declared text, else that of the process. -/
def env? (c : Context) (name : String) : Option String :=
  c.declaredEnv? name <|> c.environment.lookup name

/-- A declared variable. -/
def var? (c : Context) (name : String) : Option Field :=
  c.document.vars.bind (·.get? name)

/-- The response that a remote variable has got. -/
def response? (c : Context) (name : String) : Option Response :=
  (c.document.remoteSpec? name).bind (·.response)

/-- What the project says about itself. -/
def aboutProject (p : Project) : Expr.ProjectQuestion → Value
  | .productName => .text p.product.name
  | .moduleName => .text p.name
  | .moduleDescription => .text p.desc
  | .versionName => .text p.version.name
  | .product => p.product.toJson.toValue
  | .version => p.version.toJson.toValue
  | .currentDepends groups => .seq ((p.currentDepends groups).map (·.toJson.toValue))
  | .currentPluginDepends groups => .seq ((p.currentPluginDepends groups).map (·.toJson.toValue))
  | .dependGroup name => .ofOption (·.toJson.toValue) (p.dependGroup? name)

/-- A section of the document. -/
def aboutDocument (d : Document) (name : String) : Value :=
  match name with
  | "imports" => .seq (d.imports.map .text)
  | "envs" => .fields (d.envs.getD .empty)
  | "vars" => .fields (d.vars.getD .empty)
  | "remoteVars" => .ofOption RemoteVars.toValue d.remoteVars
  | "templates" => d.templatesValue
  | "executes" => .ofOption Executes.toValue d.executes
  | "shell" => .text d.shell.effective
  | "comments" => .ofOption Yaml.Value.toValue d.comments
  | _ => .undefined

/-- Answers an evaluation. What it only tells is answered by the empty text. -/
def answer (q : Expr.Question) (c : Context) : q.Answer × Context :=
  match q with
  | .env name => (.text ((c.env? name).getD ""), c)
  | .var name => (.ofOption .ofField (c.var? name), c)
  | .remoteVar name => (.ofOption RemoteSpec.toValue (c.document.remoteSpec? name), c)
  | .response name => (.ofOption Response.toValue (c.response? name), c)
  | .project question => (aboutProject c.project question, c)
  | .phase => (.text c.phase.text, c)
  | .itemName => (.text c.name, c)
  | .itemData => (c.data, c)
  | .section name => (aboutDocument c.document name, c)
  | .time => (c.clock.next, c.setClock (c.clock.later 1))
  | .queueBytes block => (.text "", { c with writes := c.writes ++ [block] })
  | .setPathRange sources => (.text "", { c with pathRange := some sources })
  | .setError message => (.text "", { c with error := some message })
  | .setReturn value => (.text "", { c with returned := some value })

end Context

end Scaffold

import Scaffold.Emission
import Scaffold.Json.Value
import Scaffold.Expr.Value.Print
import Scaffold.Remote.Resolution

/-!
# Generation — a run from beginning to end

A run resolves envs, then vars, then remote variables, each in the order of declaration; every
result is stored before the next expression is evaluated. Only then is the output directory made.
Commands run before and after the templates. The first error ends the run; what was written before
it stays.
-/

set_option autoImplicit false

namespace Scaffold

open Scaffold.Expr (Value)

namespace Generation

/-- The sections whose fields are resolved. -/
inductive Section
  | envs
  | vars
  deriving DecidableEq, Repr

/-- The phase that resolves a section. -/
def Section.phase : Section → Phase
  | .envs => .envs
  | .vars => .vars

/-- The fields of a section. -/
def Section.fields (s : Section) (d : Document) : Option FieldMap :=
  match s with
  | .envs => d.envs
  | .vars => d.vars

/-- Writes a field of a section, if the section is there. -/
def Section.set (s : Section) (d : Document) (key : String) (field : Field) : Document :=
  match s with
  | .envs => { d with envs := d.envs.map (·.set key field) }
  | .vars => { d with vars := d.vars.map (·.set key field) }

/-- Resolves the field of a key and stores the result. -/
def resolveField (s : Section) (names : Bindings) (key : String) : Work Unit := do
  match (s.fields (← Work.get).document).bind (·.get? key) with
  | none => return ()
  | some declared =>
    Work.modify (·.enter s.phase key (.ofField declared))
    let resolved ← Work.ofStep (evaluateField names declared)
    Work.report s.phase.text ("$\x7b" ++ key ++ "\x7d: " ++ resolved.show)
    Work.modify fun c => { c with document := s.set c.document key resolved }

/-- Works on names in order. -/
def forEach {α : Type} (f : α → Work Unit) : List α → Work Unit
  | [] => return ()
  | a :: as => do
    f a
    forEach f as

/-- Resolves the fields of a section in the order of declaration. -/
def resolveFields (s : Section) (names : Bindings) : Work Unit := do
  let keys := ((s.fields (← Work.get).document).map (·.keys)).getD []
  forEach (resolveField s names) keys

/-- A value as it is reported: in JSON, or as it is shown if it has no JSON. -/
def reported (v : Value) : String :=
  match v.toJson with
  | .ok j => j.print
  | .error _ => v.print

/-- Resolves a remote variable and stores the response; one without a request is skipped. -/
def resolveRemoteVar (sourceRoot : String) (names : Bindings) (name : String) : Work Unit := do
  let block := Phase.remoteVars.text
  let title := "$\x7b" ++ name ++ "\x7d: "
  match (← Work.get).document.remoteSpec? name with
  | none => Work.report block (title ++ "empty declaration, skipped")
  | some spec =>
    Work.modify (·.enter .remoteVars name spec.toValue)
    let response ← Resolution.resolve sourceRoot name spec names
    Work.report block (title ++ "result data => " ++ reported response.data)
    Work.modify (·.setResponse name response)

/-- Resolves the remote variables in the order of declaration. -/
def resolveRemoteVars (sourceRoot : String) (names : Bindings) : Work Unit := do
  let keys := ((← Work.get).document.remoteVars.map (·.keys)).getD []
  forEach (resolveRemoteVar sourceRoot names) keys

/-- The declared environment of commands: lists are not handed over. -/
def commandEnvs (d : Document) : List (String × String) :=
  ((d.envs.getD .empty).entries).filterMap fun (key, field) => field.text?.map (key, ·)

/-- Runs a command and reports what came of it. -/
def perform (command : Hook.Command) : System (Except Error Unit) := do
  let outcome ← System.execute command
  System.reportAll (outcome.entries command.block)
  match outcome.fault with
  | none => return .ok ()
  | some fault => return .error (.hook fault)

/-- Evaluates and runs a command; a blank one is skipped. -/
def runCommand (phase : Phase) (output : String) (envs : List (String × String))
    (names : Bindings) (text : String) : Work Unit := do
  Work.modify (·.enter phase phase.text (.text text))
  let command ← Work.ofStep (Prepared.trimmed text names)
  if command.isEmpty then return ()
  else
    let shell := (← Work.get).document.shell.effective
    Work.ofSystem (perform ⟨phase.text, shell, command, envs, output⟩)

/-- Runs commands in order. -/
def runCommands (phase : Phase) (output : String) (names : Bindings)
    (commands : Document → List String) : Work Unit := do
  let d := (← Work.get).document
  forEach (runCommand phase output (commandEnvs d) names) (commands d)

/-- Makes the output directory. -/
def makeOutput (output : String) : Work Unit :=
  Work.ofSystem do
    match ← System.makeDirectories output with
    | .ok () => return .ok ()
    | .error fault => return .error (.io fault.message)

/-- Emits file templates in order, each under the names that the ones before it have left. -/
def emitEntries (roots : Emission.Roots) : List (String × FileSpec) → Bindings → Work Unit
  | [], _ => return ()
  | (template, spec) :: entries, names => fun c =>
    (Emission.process roots template spec names c).bind fun
      | (.error e, _, c) => .done (.error e, c)
      | (.ok (), names, c) => emitEntries roots entries names c

/-- Emits the file templates of the document. -/
def emitTemplates (roots : Emission.Roots) (names : Bindings) : Work Unit := do
  emitEntries roots (← Work.get).document.templates.entries names

/-- Everything that a run does before it touches the output. -/
def resolve (roots : Emission.Roots) (names : Bindings) : Work Unit := do
  resolveFields .envs names
  resolveFields .vars names
  resolveRemoteVars roots.source names

/-- A run. -/
def run (roots : Emission.Roots) : Work Unit := do
  let names := Bindings.standard (← Work.get).project
  resolve roots names
  makeOutput roots.output
  runCommands .executesPre roots.output names Document.preCommands
  emitTemplates roots names
  runCommands .executesPost roots.output names Document.postCommands

end Generation

end Scaffold

import Scaffold.Hook
import Scaffold.Script.Run

/-!
# Executor — hook commands as scripts

A hook command names a program that is handed the text of the command as its last argument. The
program works in the directory of the command, on the files of a tree; what it prints and how it
ends makes the outcome.
-/

set_option autoImplicit false

namespace Scaffold.Script

/-- The commands of a shell that are programs as well. -/
def sharedNames : List String :=
  ["echo", "env", "false", "kill", "printf", "pwd", "test", "true", "["]

/-- Why a program cannot be started. -/
def startFault? (program : String) (s : Session) : Option FileFault :=
  let name := programName program
  let known := sharedNames.contains name || isProgram name
  if Occurrences.occurs ['/'] program.toList then
    if known && name != program then none
    else
      match s.tree.place program with
      | .ok _ => some (.other "Permission denied (os error 13)")
      | .error fault => some fault
  else if known && s.findsPrograms then none
  else some .missing

/-- Directories that are always there. -/
def systemDirectories : List Place :=
  [["bin"], ["dev"], ["etc"], ["home"], ["opt"], ["proc"], ["root"], ["srv"], ["sys"], ["tmp"],
    ["usr"], ["usr", "bin"], ["usr", "lib"], ["usr", "local"], ["usr", "local", "bin"],
    ["usr", "share"], ["var"], ["var", "tmp"]]

/-- A tree with the directories of the system. -/
def furnished (t : FileTree) : FileTree :=
  let missing := systemDirectories.filter fun p => (t.entry? p).isNone
  { t with entries := t.entries ++ missing.map (·, .directory) }

/-- Makes a directory the current one. -/
def enter (path : String) (t : FileTree) : Except FileFault FileTree := do
  let p ← t.place path
  match t.entry? p with
  | some .directory => return { t with current := p }
  | some (.file _) | some (.link _) => .error .notDirectory
  | none => .error .missing

/-- A tree with all its names changed. -/
def renamed (f : String → String) (t : FileTree) : FileTree :=
  let entry : Entry → Entry
    | .link path => .link (f path)
    | e => e
  { current := t.current.map f, entries := t.entries.map fun (p, e) => (p.map f, entry e) }

/-- Starts the shell of a command in an environment. -/
def start (process : List (String × String)) (c : Hook.Command) (program : String)
    (words : List String) (t : FileTree) : Except FileFault (Hook.Finished × FileTree) := do
  if c.hasNul then .error (.other "nul byte found in provided data")
  else
    let environment := (c.variables process).entries.map fun (name, value) =>
      (Raw.ofText name, Raw.ofText value)
    let s : Session :=
      { tree := renamed Raw.ofText (furnished (← enter c.directory t))
        values := environment.reverse
        exported := environment.map Prod.fst
        isShell := false }
    let program := Raw.ofText program
    match startFault? program s with
    | some fault => .error fault
    | none =>
      let args := (words ++ [c.text]).map Raw.ofText
      let (printed, s) := call maxSteps (program :: args) s
      let ending := match s.signal with
        | some n => Hook.Ending.signal n
        | none => .status s.status
      return (⟨printed.on 1, printed.on 2, ending⟩, { renamed Raw.toText s.tree with current := t.current })

/-- Runs a command on a tree. -/
def execute (process : List (String × String)) (c : Hook.Command) (t : FileTree) :
    Hook.Outcome × FileTree :=
  match c.shellWords with
  | [] => (⟨[], some .noShell⟩, t)
  | program :: words =>
    match start process c program words t with
    | .error fault => (c.outcome program (.error fault), t)
    | .ok (finished, t) => (c.outcome program (.ok finished), t)

end Scaffold.Script

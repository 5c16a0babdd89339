import Scaffold.Dialogue
import Scaffold.FileSystem.Tree
import Scaffold.Hook
import Scaffold.Remote.Message

/-!
# System — what a run does outside of itself

Files, the network and commands are reached by calls only, each answered by whatever surrounds the
run. The calls of a run in their order are therefore all of its effects.
-/

set_option autoImplicit false

namespace Scaffold

/-- A call. -/
inductive SystemCall
  /-- What a path leads to. -/
  | kind (path : String)
  | read (path : String)
  /-- The absolute path of what a path leads to. -/
  | canonical (path : String)
  | makeDirectory (path : String)
  /-- Writes a file, in place of the file that is there. -/
  | write (path : String) (content : Bytes)
  | copy (source target : String)
  /-- Sends a request and waits for the reply. -/
  | exchange (request : Http.Request)
  /-- Runs a command. -/
  | execute (command : Hook.Command)
  /-- Adds an entry to the report. -/
  | report (entry : Log.Entry)

/-- What a call is answered with. -/
def SystemCall.Answer : SystemCall → Type
  | .kind _ => Option EntryKind
  | .read _ => Except FileFault Bytes
  | .canonical _ => Option String
  | .makeDirectory _ | .write _ _ | .copy _ _ => Except FileFault Unit
  | .exchange _ => Except String Http.Reply
  | .execute _ => Hook.Outcome
  | .report _ => Unit

/-- A computation that calls the system. -/
abbrev System (α : Type) := Dialogue SystemCall SystemCall.Answer α

namespace System

/-- A single call. -/
def call (c : SystemCall) : System c.Answer := Dialogue.put c

/-- What a path leads to. -/
def kind (path : String) : System (Option EntryKind) := call (.kind path)

/-- The content of a file. -/
def read (path : String) : System (Except FileFault Bytes) := call (.read path)

/-- The absolute path of what a path leads to. -/
def canonical (path : String) : System (Option String) := call (.canonical path)

/-- Makes a directory. -/
def makeDirectory (path : String) : System (Except FileFault Unit) :=
  call (.makeDirectory path)

/-- Writes a file. -/
def write (path : String) (content : Bytes) : System (Except FileFault Unit) :=
  call (.write path content)

/-- Copies a file. -/
def copy (source target : String) : System (Except FileFault Unit) :=
  call (.copy source target)

/-- Sends a request. -/
def exchange (request : Http.Request) : System (Except String Http.Reply) :=
  call (.exchange request)

/-- Runs a command. -/
def execute (command : Hook.Command) : System Hook.Outcome :=
  call (.execute command)

/-- Adds an entry to the report. -/
def report (entry : Log.Entry) : System Unit := call (.report entry)

/-- Adds entries to the report. -/
def reportAll : List Log.Entry → System Unit
  | [] => return ()
  | entry :: entries => do
    report entry
    reportAll entries

/-- Accepts that a directory could not be made where one is. -/
def unlessDirectory (path : String) (fault : FileFault) : System (Except FileFault Unit) := do
  match ← kind path with
  | some .directory => return .ok ()
  | _ => return .error fault

/-- Makes the first of a chain of directories, each the parent of the one before it; where its
parent is missing, that is made first. -/
def makeChain : List String → System (Except FileFault Unit)
  | [] => return .error (.other "failed to create whole tree")
  | path :: parents => do
    if path.isEmpty then return .ok ()
    else
      match ← makeDirectory path with
      | .ok () => return .ok ()
      | .error .missing =>
        match ← makeChain parents with
        | .error fault => return .error fault
        | .ok () =>
          match ← makeDirectory path with
          | .ok () => return .ok ()
          | .error fault => unlessDirectory path fault
      | .error fault => unlessDirectory path fault

/-- Makes a directory and those that lead to it. -/
def makeDirectories (path : String) : System (Except FileFault Unit) :=
  makeChain (Path.ancestors path)

/-- Makes the directories that lead to a file. -/
def makeParents (path : String) : System (Except (String × FileFault) Unit) :=
  match Path.parent? path with
  | none => return .ok ()
  | some parent => do
    match ← makeDirectories parent with
    | .ok () => return .ok ()
    | .error fault => return .error (parent, fault)

end System

end Scaffold

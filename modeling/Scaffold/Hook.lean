import Scaffold.Error
import Scaffold.FileSystem.Tree
import Scaffold.Log
import Scaffold.OrderedMap
import Scaffold.Text.Blank
import Scaffold.Text.Utf8

/-!
# Hook — commands before and after the templates

A command is handed to a shell, whose program and first arguments are the words of a text, together
with an environment. What the shell prints goes into the report, and a command counts as failed
unless its shell ends with the status zero.
-/

set_option autoImplicit false

namespace Scaffold.Hook

/-- A command that is to be run. -/
structure Command where
  /-- The block of the report that the command belongs to. -/
  block : String
  shell : String
  text : String
  /-- Variables on top of the environment of the process. -/
  envs : List (String × String)
  directory : String
  deriving DecidableEq, Repr

/-- What came of a command: the messages for the report, and a fault if it did not succeed. -/
structure Outcome where
  messages : List String := []
  fault : Option HookFault := none
  deriving DecidableEq, Repr

/-- How a shell ends. -/
inductive Ending
  | status (n : Nat)
  | signal (n : Nat)
  deriving DecidableEq, Repr

/-- The names of signals. -/
def signalNames : List (Nat × String) :=
  [(1, "SIGHUP"), (2, "SIGINT"), (3, "SIGQUIT"), (4, "SIGILL"), (5, "SIGTRAP"), (6, "SIGABRT"),
    (7, "SIGBUS"), (8, "SIGFPE"), (9, "SIGKILL"), (10, "SIGUSR1"), (11, "SIGSEGV"),
    (12, "SIGUSR2"), (13, "SIGPIPE"), (14, "SIGALRM"), (15, "SIGTERM")]

/-- The end of a shell as it is shown. -/
def Ending.text : Ending → String
  | .status n => "exit status: " ++ toString n
  | .signal n =>
    "signal: " ++ toString n ++ match signalNames.lookup n with
      | some name => " (" ++ name ++ ")"
      | none => ""

/-- What a shell has printed, and how it has ended. -/
structure Finished where
  out : Bytes := []
  err : Bytes := []
  ending : Ending := .status 0
  deriving DecidableEq

/-- The words of the shell. -/
def Command.shellWords (c : Command) : List String :=
  Text.words c.shell

/-- The environment that the shell runs in. -/
def Command.environment (c : Command) (process : List (String × String)) :
    List (String × String) :=
  c.envs ++ process.filter fun (name, _) => !c.envs.any (·.1 == name)

/-- The environment in the order in which it is handed over: sorted by name, if the command adds to
that of the process. -/
def Command.handedOver (c : Command) (process : List (String × String)) : List (String × String) :=
  if c.envs.isEmpty then c.environment process
  else (c.environment process).mergeSort fun a b => a.1 ≤ b.1

/-- An entry of an environment as a program finds it. It is handed over as a text with a `=` between
name and value, and a name ends at the first one. -/
def found (entry : String × String) : String × String :=
  let text := entry.1.toList ++ '=' :: entry.2.toList
  (String.ofList (text.takeWhile (· != '=')), String.ofList ((text.dropWhile (· != '=')).drop 1))

/-- The variables that the shell finds: of two with one name, the later one counts. -/
def Command.variables (c : Command) (process : List (String × String)) : OrderedMap String :=
  .ofList ((c.handedOver process).map found)

/-- The command is handed over with a null character in it, which nothing can be. -/
def Command.hasNul (c : Command) : Bool :=
  (c.text :: c.shellWords ++ c.envs.flatMap fun (name, value) => [name, value]).any
    (·.toList.contains '\x00')

/-- A printed text as a message, unless it is blank. -/
def printed (b : Bytes) : List String :=
  let text := Utf8.toStringLossy b
  if Text.isBlankText text then [] else [text]

/-- The outcome of a command whose shell could not be started or has ended. -/
def Command.outcome (c : Command) (program : String) : Except FileFault Finished → Outcome
  | .error fault => ⟨["exec: " ++ c.text], some (.failedToStart program fault.message)⟩
  | .ok finished =>
    ⟨["exec: " ++ c.text] ++ printed finished.out ++ printed finished.err,
      if finished.ending = .status 0 then none
      else some (.exited c.text finished.ending.text)⟩

/-- The entries that an outcome adds to the report. -/
def Outcome.entries (o : Outcome) (block : String) : List Log.Entry :=
  o.messages.map (⟨block, ·⟩)

end Scaffold.Hook

import Scaffold.System

/-!
# Machine — a file tree, a network and an executor

The surroundings of a run as a value. Files are those of a tree; the network and the executor are
given, and may do anything. Every call is kept in a journal, the last one first.
-/

set_option autoImplicit false

namespace Scaffold

/-- What answers requests and runs commands. -/
structure Surroundings where
  /-- The reply to a request behind the calls of a journal. -/
  network : List SystemCall → Http.Request → Except String Http.Reply
  /-- What comes of a command, and the tree behind it. -/
  executor : Hook.Command → FileTree → Hook.Outcome × FileTree

/-- The files, and the calls that led to them. -/
structure Machine where
  tree : FileTree
  journal : List SystemCall := []

namespace Machine

/-- Answers a change of the tree. -/
def change (m : Machine) : Except FileFault FileTree → Except FileFault Unit × Machine
  | .ok tree => (.ok (), { m with tree })
  | .error fault => (.error fault, m)

/-- Answers a call. -/
def reply (s : Surroundings) (m : Machine) : (c : SystemCall) → c.Answer × Machine
  | .kind path => (m.tree.kind? path, m)
  | .read path => (m.tree.read path, m)
  | .canonical path => (m.tree.canonical? path, m)
  | .makeDirectory path => m.change (m.tree.makeDirectory path)
  | .write path content => m.change (m.tree.write path content)
  | .copy source target => m.change (m.tree.copy source target)
  | .exchange request => (s.network m.journal request, m)
  | .execute command =>
    let (outcome, tree) := s.executor command m.tree
    (outcome, { m with tree })
  | .report _ => ((), m)

/-- Answers a call and keeps it in the journal. -/
def answer (s : Surroundings) (c : SystemCall) (m : Machine) : c.Answer × Machine :=
  let (a, n) := m.reply s c
  (a, { n with journal := c :: m.journal })

/-- Runs a computation on a machine. -/
def run {α : Type} (s : Surroundings) (x : System α) (m : Machine) : α × Machine :=
  x.run (answer s) m

/-- The entries of the report, in order. -/
def report (m : Machine) : List Log.Entry :=
  (m.journal.filterMap fun
    | .report entry => some entry
    | _ => none).reverse

/-- The commands that were run, in order. -/
def commands (m : Machine) : List Hook.Command :=
  (m.journal.filterMap fun
    | .execute command => some command
    | _ => none).reverse

end Machine

end Scaffold

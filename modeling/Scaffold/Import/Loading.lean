import Scaffold.Document.Read
import Scaffold.FileSystem.Path
import Scaffold.Url.Reading

/-!
# Loading — a document and everything it imports
-/

set_option autoImplicit false

/-!
## Source — where a document lives

A document is found at an address of the web or at a path. What it imports is looked for where it
lives itself, unless that is given in full.
-/

namespace Scaffold

/-- Where a document lives. -/
inductive Source
  | file (path : String)
  | web (address : String)
  deriving DecidableEq, Repr

namespace Source

/-- The source as it is shown. -/
def text : Source → String
  | .file path => path
  | .web address => address

/-- The text is an address of the web. -/
def isWebText (text : String) : Bool :=
  (Url.ofText? text).any Url.isWeb

/-- The source that a text stands for. -/
def ofText (text : String) : Source :=
  if isWebText text then .web text else .file text

/-- The source that a text stands for in a document. -/
def resolve (s : Source) (locator : String) : Source :=
  if isWebText locator then .web locator
  else
    match s with
    | .file path => .file (Path.join ((Path.parent? path).getD "") locator)
    | .web address =>
      match (Url.ofText? address).bind (Url.join? · locator) with
      | some url => .web url.text
      | none => .file locator

/-- The directory of a document that lives at a path. -/
def directory? : Source → Option String
  | .file path => some ((Path.parent? path).getD "")
  | .web _ => none

end Source

end Scaffold

/-!
## Loader — how documents are fetched and put together

Imports are loaded in their order, each with its own imports, and composed underneath the document
that names them. A document that is met again while it is being loaded is a cycle; it is told by
its identity, which is the same for all names of one file.
-/

namespace Scaffold

/-- How documents are fetched, and how they are told apart. -/
structure Loader (m : Type → Type) where
  fetch : Source → m (Except Error Bytes)
  identity : Source → m String

namespace Loader

variable {m : Type → Type} [Monad m]

/-- The error of an import: one that is an import error already says more. -/
def importError (source : Source) : Error → Error
  | .importing locator reason => .importing locator reason
  | .aborted => .aborted
  | e => .importing source.text e.message

/-- A document that imports itself. -/
def cycle (source : Source) (chain : List String) (identity : String) : Error :=
  .importing source.text ("import cycle: " ++ " -> ".intercalate chain ++ " -> " ++ identity)

/-- Fetches and reads a document. -/
def read (l : Loader m) (source : Source) : m (Except Error Document) := do
  return (← l.fetch source) >>= Document.ofBytes

/-- Acts on elements in order until one fails. -/
def untilError {α β : Type} (f : α → m (Except Error β)) : List α → m (Except Error (List β))
  | [] => pure (.ok [])
  | a :: as => do
    match ← f a with
    | .error e => pure (.error e)
    | .ok b =>
      match ← untilError f as with
      | .error e => pure (.error e)
      | .ok bs => pure (.ok (b :: bs))

/-- Loads a document. The state is the chain of the documents that are being loaded, each an import
of the one before; a document is put on it while its imports are loaded. `room` is how deep imports
may nest; where it does not suffice, the load stops without a cause. -/
def loadWithin (l : Loader m) : Nat → Source → StateT (List String) m (Except Error Document)
  | 0, _ => pure (.error .aborted)
  | room + 1, source => do
    let identity ← l.identity source
    let chain ← get
    if chain.contains identity then return .error (cycle source chain identity)
    else
      match ← l.read source with
      | .error e => return .error (if chain.isEmpty then e else importError source e)
      | .ok document =>
        if document.imports.isEmpty then return .ok document
        else
          set (chain ++ [identity])
          let below (locator : String) : StateT (List String) m (Except Error Document) :=
            loadWithin l room (source.resolve locator)
          match ← untilError below document.imports with
          | .error e => return .error e
          | .ok imported =>
            modify List.dropLast
            return .ok (Document.compose imported document)

/-- How deep imports may nest where nothing else is said. -/
def maxDepth : Nat := 10000

/-- Loads a document with everything it imports. -/
def load (l : Loader m) (source : Source) (room : Nat := maxDepth) : m (Except Error Document) :=
  (l.loadWithin room source).run' []

end Loader

end Scaffold

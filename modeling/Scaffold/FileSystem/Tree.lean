import Scaffold.FileSystem.Path
import Scaffold.Text.Utf8

/-!
# Tree — directories and files by place

A tree says of every place, the names that lead to it from the root, whether a directory, a file or
a link is there. A path is walked name by name: every name but the last must lead to a directory, two
dots lead back, and a path that does not begin at the root is walked from the current directory. A
link stands for what its own path leads to from the directory that it is in.
-/

set_option autoImplicit false

namespace Scaffold

/-- Why an operation on a path failed. -/
inductive FileFault
  | missing
  | exists
  | notDirectory
  | isDirectory
  | nameTooLong
  | notEmpty
  /-- Links stand for each other without end. -/
  | tooManyLinks
  /-- The source of a copy is no file. -/
  | notFile
  /-- A path with the character zero. -/
  | zeroInPath
  /-- Any other reason. -/
  | other (reason : String)
  deriving DecidableEq, Repr

/-- The wording of a fault. -/
def FileFault.message : FileFault → String
  | .missing => "No such file or directory (os error 2)"
  | .exists => "File exists (os error 17)"
  | .notDirectory => "Not a directory (os error 20)"
  | .isDirectory => "Is a directory (os error 21)"
  | .nameTooLong => "File name too long (os error 36)"
  | .notEmpty => "Directory not empty (os error 39)"
  | .tooManyLinks => "Too many levels of symbolic links (os error 40)"
  | .notFile => "the source path is neither a regular file nor a symlink to a regular file"
  | .zeroInPath => "file name contained an unexpected NUL byte"
  | .other reason => reason

/-- The names that lead to a file or directory from the root. -/
abbrev Place := List String

/-- What can be at a place. -/
inductive Entry
  | directory
  | file (content : Bytes)
  /-- Stands for what a path leads to. -/
  | link (path : String)
  deriving DecidableEq

/-- The class of what a path leads to. -/
inductive EntryKind
  | directory
  | file
  deriving DecidableEq, Repr

/-- Files and directories; the root is always there. -/
structure FileTree where
  current : Place := []
  entries : List (Place × Entry) := []

namespace FileTree

/-- What is at a place. -/
def entry? (t : FileTree) (p : Place) : Option Entry :=
  if p = [] then some .directory else t.entries.lookup p

/-- Writes what is at a place. -/
def set (t : FileTree) (p : Place) (e : Entry) : FileTree :=
  { t with entries := (p, e) :: t.entries.filter (·.1 != p) }

/-- Removes what is at a place and below it. -/
def remove (t : FileTree) (p : Place) : FileTree :=
  { t with entries := t.entries.filter (!p.isPrefixOf ·.1) }

/-- The names in a directory. -/
def names (t : FileTree) (p : Place) : List String :=
  t.entries.filterMap fun (q, _) =>
    match q.getLast? with
    | some name => if q.dropLast = p then some name else none
    | none => none

/-- The longest name that a file can have, in bytes. -/
def maxName : Nat := 255

/-- The names of a path, or why no path can be written that way. -/
def steps (path : String) : Except FileFault (List String) :=
  if path.isEmpty then .error .missing
  else if path.toList.contains '\x00' then .error .zeroInPath
  else .ok (Path.steps path ++ if Path.endsInSlash path then ["."] else [])

/-- How many links may stand for each other. -/
def maxLinks : Nat := 40

/-- A step from a place, which must be a directory; `links` bounds how many links stand for each
other. -/
def stepWithin (t : FileTree) : Nat → Place → String → Except FileFault Place
  | links, p, name =>
    match t.entry? p with
    | none => .error .missing
    | some (.file _) | some (.link _) => .error .notDirectory
    | some .directory =>
      if name = "." then .ok p
      else if name = ".." then .ok p.dropLast
      else if maxName < Utf8.size name then .error .nameTooLong
      else
        match t.entry? (p ++ [name]), links with
        | none, _ => .error .missing
        | some (.link _), 0 => .error .tooManyLinks
        | some (.link path), links + 1 => do
          (← steps path).foldlM (t.stepWithin links) (if Path.isAbsolute path then [] else p)
        | some _, _ => .ok (p ++ [name])

/-- A step from a place, which must be a directory. -/
def step (t : FileTree) (p : Place) (name : String) : Except FileFault Place :=
  t.stepWithin maxLinks p name

/-- Where the walk of a path begins. -/
def start (t : FileTree) (path : String) : Place :=
  if Path.isAbsolute path then [] else t.current

/-- The place that a path leads to. -/
def place (t : FileTree) (path : String) : Except FileFault Place := do
  (← steps path).foldlM t.step (t.start path)

/-- The directory in which a path names something, and that name; none if the path ends in dots
that name nothing new. -/
def target (t : FileTree) (path : String) : Except FileFault (Place × Option String) := do
  let names ← steps path
  let names := if Path.endsInSlash path then names.dropLast else names
  match names.getLast? with
  | none => .ok (t.start path, none)
  | some name =>
    let p ← names.dropLast.foldlM t.step (t.start path)
    match t.entry? p with
    | none => .error .missing
    | some (.file _) | some (.link _) => .error .notDirectory
    | some .directory =>
      if name = "." || name = ".." then .ok (p, none)
      else if maxName < Utf8.size name then .error .nameTooLong
      else .ok (p, some name)

/-- The place that a path names, be it a link. -/
def namedPlace (t : FileTree) (path : String) : Except FileFault Place := do
  match ← t.target path with
  | (_, none) => t.place path
  | (p, some name) =>
    if (t.entry? (p ++ [name])).isNone then .error .missing
    else if Path.endsInSlash path then t.place path
    else .ok (p ++ [name])

/-- What a path names, be it a link. -/
def named? (t : FileTree) (path : String) : Option Entry :=
  match t.namedPlace path with
  | .ok p => t.entry? p
  | .error _ => none

/-- What a path leads to. -/
def kind? (t : FileTree) (path : String) : Option EntryKind :=
  match t.place path with
  | .ok p =>
    match t.entry? p with
    | some .directory => some .directory
    | some (.file _) => some .file
    | some (.link _) | none => none
  | .error _ => none

/-- The content of a file. -/
def read (t : FileTree) (path : String) : Except FileFault Bytes := do
  match t.entry? (← t.place path) with
  | some (.file content) => .ok content
  | some .directory => .error .isDirectory
  | some (.link _) | none => .error .missing

/-- Makes a directory where nothing is. -/
def makeDirectory (t : FileTree) (path : String) : Except FileFault FileTree := do
  match ← t.target path with
  | (_, none) => .error .exists
  | (p, some name) =>
    match t.entry? (p ++ [name]) with
    | some _ => .error .exists
    | none => .ok (t.set (p ++ [name]) .directory)

/-- Where a file can be written; what is written to a link goes where the link leads. -/
def writableWithin (t : FileTree) : Nat → Place → String → Except FileFault Place
  | links, p, path => do
    match ← { t with current := p }.target path with
    | (_, none) => .error .isDirectory
    | (p, some name) =>
      if Path.endsInSlash path then .error .isDirectory
      else
        match t.entry? (p ++ [name]) with
        | some .directory => .error .isDirectory
        | some (.link path) =>
          match links with
          | 0 => .error .tooManyLinks
          | links + 1 => t.writableWithin links p path
        | some (.file _) | none => .ok (p ++ [name])

/-- Where a file can be written. -/
def writable (t : FileTree) (path : String) : Except FileFault Place :=
  t.writableWithin maxLinks t.current path

/-- Writes a file, in place of the file that is there. -/
def write (t : FileTree) (path : String) (content : Bytes) : Except FileFault FileTree := do
  return t.set (← t.writable path) (.file content)

/-- Copies a file. A file that is copied onto itself ends empty, since it is emptied before it is
read. -/
def copy (t : FileTree) (source target : String) : Except FileFault FileTree := do
  let p ← t.place source
  match t.entry? p with
  | some (.file content) =>
    let q ← t.writable target
    return t.set q (.file (if q = p then [] else content))
  | some .directory => .error .notFile
  | some (.link _) | none => .error .missing

/-- The absolute path of what a path leads to. -/
def canonical? (t : FileTree) (path : String) : Option String :=
  match t.place path with
  | .ok p => some ("/" ++ "/".intercalate p)
  | .error _ => none

/-- Makes a link where nothing is. -/
def makeLink (t : FileTree) (path linked : String) : Except FileFault FileTree := do
  match ← t.target path with
  | (_, none) => .error .exists
  | (p, some name) =>
    match t.entry? (p ++ [name]) with
    | some _ => .error .exists
    | none => .ok (t.set (p ++ [name]) (.link linked))

/-- Everything below a place, by the names that lead to it from there. -/
def below (t : FileTree) (p : Place) : List (Place × Entry) :=
  t.entries.filterMap fun (q, e) =>
    if p.isPrefixOf q && q != p then some (q.drop p.length, e) else none

end FileTree

end Scaffold

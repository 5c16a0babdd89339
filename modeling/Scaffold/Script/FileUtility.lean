import Scaffold.Script.Utility

/-!
# FileUtility — programs that list, make, copy and remove files
-/

set_option autoImplicit false

namespace Scaffold.Script

namespace Utility

/-- A report that lacks an operand. -/
def lacksOperand (name : String) (o : Settings) (s : Session)
    (f : List String → Printed × Session) : Printed × Session :=
  if o.operands.isEmpty then Tool.misused name "missing operand" 1 s else f o.operands

/-- Makes empty files. -/
def touch : Tool where
  name := "touch"
  flags := "acfhm"
  valued := "drt"
  names := [("no-create", 'c'), ("date", 'd'), ("reference", 'r'), ("no-dereference", 'h')]
  run o _ s :=
    if o.operands.isEmpty then Tool.misused "touch" "missing file operand" 1 s
    else
      onEach (fun path s =>
        match s.tree.kind? path with
        | some _ => good [] s
        | none =>
          if o.has 'c' then good [] s
          else change s ("touch: cannot touch " ++ Quoting.path path ++ "") (s.tree.write path []))
        o.operands s

/-! ## Listing -/

/-- The names that are listed of a directory. -/
def listed (o : Settings) (t : FileTree) (p : Place) : List String :=
  let names := (t.names p).mergeSort fun a b => a ≤ b
  let hidden (n : String) : Bool := n.toList.head? == some '.'
  let names := if o.has 'a' then "." :: ".." :: names
    else if o.has 'A' then names
    else names.filter (!hidden ·)
  if o.has 'r' then names.reverse else names

/-- A directory and those below it down to some depth, in the order of their names. -/
def directoriesWithin (t : FileTree) : Nat → String → List String
  | 0, path => [path]
  | depth + 1, path =>
    match t.place path with
    | .error _ => [path]
    | .ok p =>
      let names := (t.names p).filter fun n => t.entry? (p ++ [n]) = some .directory
      path :: (names.mergeSort fun a b => a ≤ b).flatMap fun n =>
        directoriesWithin t depth (Path.join path n)

/-- A directory and those below it, in the order of their names. -/
def within (t : FileTree) (path : String) : List String :=
  directoriesWithin t t.entries.length path

/-- A name with a sign of what it stands for. -/
def marked (o : Settings) (t : FileTree) (path name : String) : String :=
  if o.has 'p' || o.has 'F' then
    match t.named? path with
    | some .directory => name ++ "/"
    | some (.link _) => if o.has 'F' then name ++ "@" else name
    | _ => name
  else name

/-- Lists directories. -/
def ls : Tool where
  name := "ls"
  flags := "1aAcCdfFghHiklLmnopqQrRsStTuUvxX"
  valued := "wI"
  names := [("all", 'a'), ("almost-all", 'A'), ("recursive", 'R'), ("reverse", 'r'),
    ("human-readable", 'h'), ("directory", 'd'), ("size", 's'), ("inode", 'i'), ("classify", 'F')]
  misuse := 2
  run o _ s :=
    let args := if o.operands.isEmpty then ["."] else o.operands.mergeSort fun a b => a ≤ b
    let missing := args.filter fun a => (s.tree.named? a).isNone
    let isListed (a : String) : Bool := !o.has 'd' && s.tree.kind? a = some .directory
    let directories := args.filter isListed
    let files := args.filter fun a => !missing.contains a && !isListed a
    let lines (names : List String) : String := String.join (names.map (· ++ "\n"))
    let one (path : String) : String :=
      match s.tree.place path with
      | .ok p =>
        lines ((listed o s.tree p).map fun n => marked o s.tree (Path.join path n) n)
      | .error _ => ""
    let errors := String.join (missing.map fun a =>
      "ls: cannot access " ++ Quoting.path a ++ ": No such file or directory\n")
    let text :=
      if args.length = 1 && !o.has 'R' then
        lines (files.map fun f => marked o s.tree f f) ++ String.join (directories.map one)
      else
        let all := if o.has 'R' then directories.flatMap (within s.tree) else directories
        lines (files.map fun f => marked o s.tree f f)
          ++ (if files.isEmpty || directories.isEmpty then "" else "\n")
          ++ "\n".intercalate (all.map fun d => Quoting.pathIfNeeded d ++ ":\n" ++ one d)
    bad (if missing.isEmpty then 0 else 2) (err errors ++ out text) s

/-! ## Removing and making -/

/-- The lines that tell of everything that is removed from a place on, the inner ones first. -/
def removedLines (t : FileTree) : Nat → Place → String → List String
  | 0, _, _ => []
  | depth + 1, p, path =>
    if t.entry? p = some .directory then
      (t.names p).flatMap (fun n => removedLines t depth (p ++ [n]) (Path.join path n))
        ++ ["removed directory " ++ Quoting.path path ++ "\n"]
    else ["removed " ++ Quoting.path path ++ "\n"]

/-- Removes files, and directories where that is asked for. -/
def rm : Tool where
  name := "rm"
  flags := "rRfidvI"
  names := [("force", 'f'), ("recursive", 'r'), ("verbose", 'v'), ("dir", 'd')]
  run o _ s :=
    let recursive := o.has 'r' || o.has 'R'
    let force := o.has 'f'
    if o.operands.isEmpty && !force then Tool.misused "rm" "missing operand" 1 s
    else
      onEach (fun path s =>
        let title := "rm: cannot remove " ++ Quoting.path path ++ ""
        let name := (Path.steps path).getLast?.getD ""
        if recursive && (name == "." || name == "..") then
          bad 1 (err ("rm: refusing to remove '.' or '..' directory: skipping '" ++ path
            ++ "'\n")) s
        else
          match s.tree.namedPlace path with
          | .error fault =>
            if force && fault = .missing then good [] s
            else bad 1 (err (title ++ ": " ++ plainFault fault ++ "\n")) s
          | .ok p =>
            let isDirectory := s.tree.entry? p = some .directory
            if isDirectory && !(recursive || o.has 'd') then
              bad 1 (err (title ++ ": Is a directory\n")) s
            else if isDirectory && !recursive && !(s.tree.names p).isEmpty then
              bad 1 (err (title ++ ": Directory not empty\n")) s
            else
              let said := if o.has 'v' then
                  String.join (removedLines s.tree (s.tree.entries.length + 1) p path)
                else ""
              good (out said) { s with tree := s.tree.remove p }) o.operands s

/-- Makes the directories of a path from the left; tells which ones were not there. -/
def makeAll (path : String) (t : FileTree) : Except FileFault (FileTree × List String) :=
  (Path.ancestors path).reverse.foldlM (fun (t, made) p =>
    if p.isEmpty || t.kind? p = some .directory then .ok (t, made)
    else (t.makeDirectory p).map fun t => (t, made ++ [p])) (t, [])

/-- Makes directories. -/
def mkdir : Tool where
  name := "mkdir"
  flags := "pvZ"
  valued := "m"
  names := [("parents", 'p'), ("verbose", 'v'), ("mode", 'm')]
  run o _ s := lacksOperand "mkdir" o s fun args =>
    onEach (fun path s =>
      let made := if o.has 'p' then makeAll path s.tree
        else (s.tree.makeDirectory path).map fun t => (t, [path])
      match made with
      | .ok (tree, made) =>
        let said := made.map fun p => "mkdir: created directory " ++ Quoting.path p ++ "\n"
        good (out (if o.has 'v' then String.join said else "")) { s with tree }
      | .error fault =>
        bad 1 (err ("mkdir: cannot create directory " ++ Quoting.path path ++ ": " ++ plainFault fault
          ++ "\n")) s) args s

/-- The directories that are removed for an operand: itself, or the ones around it as well. -/
def emptied (around : Bool) (path : String) : List String :=
  if around then (Path.ancestors path).filter fun p => !p.isEmpty && p != "/" else [path]

/-- Removes empty directories. -/
def rmdir : Tool where
  name := "rmdir"
  flags := "pv"
  names := [("parents", 'p'), ("verbose", 'v')]
  run o _ s := lacksOperand "rmdir" o s fun args =>
    onEach (fun path s =>
      let fails (reason : String) : Printed × Session :=
        bad 1 (err ("rmdir: failed to remove " ++ Quoting.path path ++ ": " ++ reason ++ "\n")) s
      match s.tree.namedPlace path with
      | .error fault => fails (plainFault fault)
      | .ok p =>
        if s.tree.entry? p != some .directory then fails "Not a directory"
        else if !(s.tree.names p).isEmpty then fails "Directory not empty"
        else
          let said := if !o.has 'v' then []
            else out ("rmdir: removing directory, " ++ Quoting.path path ++ "\n")
          good said { s with tree := s.tree.remove p }) (args.flatMap (emptied (o.has 'p'))) s

/-! ## Copying and moving -/

/-- The path that a file gets in a directory, or the path itself. -/
def inside (t : FileTree) (source target : String) : String :=
  if t.kind? target = some .directory then Path.join target ((Path.fileName? source).getD "")
  else target

/-- Copies everything at a place to another one. -/
def graft (t : FileTree) (p q : Place) : FileTree :=
  let moved := (t.entries.filter fun (r, _) => p.isPrefixOf r).map fun (r, e) =>
    (q ++ r.drop p.length, e)
  moved.foldr (fun (r, e) t => t.set r e) t

/-- How files are copied. -/
structure Transfer where
  program : String
  /-- The sources are removed. -/
  moves : Bool
  /-- Directories are copied with what is in them. -/
  recursive : Bool
  /-- Files that are there are kept. -/
  keeps : Bool
  /-- Everything that is copied is told. -/
  tells : Bool

/-- The line that tells of a copy. -/
def Transfer.line (m : Transfer) (source path : String) : String :=
  (if m.moves then "renamed '" else "'") ++ source ++ "' -> " ++ Quoting.path path ++ "\n"

/-- Copies or moves a file or directory. -/
def transfer (m : Transfer) (target source : String) (s : Session) : Printed × Session :=
  let fails (text : String) : Printed × Session := bad 1 (err (m.program ++ ": " ++ text ++ "\n")) s
  match if m.moves then s.tree.namedPlace source else s.tree.place source with
  | .error fault => fails ("cannot stat " ++ Quoting.path source ++ ": " ++ plainFault fault)
  | .ok p =>
    let path := inside s.tree source target
    let isDirectory := s.tree.entry? p = some .directory
    if isDirectory && !m.recursive then
      fails ("-r not specified; omitting directory " ++ Quoting.path source ++ "")
    else
      match s.tree.target path with
      | .ok (d, some name) =>
        let q := d ++ [name]
        let there := s.tree.entry? q
        if p = q then
          fails (Quoting.path source ++ " and " ++ Quoting.path path ++ " are the same file")
        else if isDirectory && p.isPrefixOf q then
          fails (if m.moves then
              "cannot move " ++ Quoting.path source ++ " to a subdirectory of itself, " ++ Quoting.path path ++ ""
            else "cannot copy a directory, " ++ Quoting.path source ++ ", into itself, " ++ Quoting.path path ++ "")
        else if isDirectory && there.isSome && there != some .directory then
          fails ("cannot overwrite non-directory " ++ Quoting.path path ++ " with directory '" ++ source
            ++ "'")
        else if !isDirectory && there = some .directory then
          fails ("cannot overwrite directory " ++ Quoting.path path ++ " with non-directory '" ++ source
            ++ "'")
        else if m.keeps && there.isSome && !isDirectory then good [] s
        else if !isDirectory && Path.endsInSlash path then
          fails ("cannot create regular file " ++ Quoting.path path ++ ": Not a directory")
        else
          let tree := graft s.tree p q
          good (out (if m.tells then m.line source path else ""))
            { s with tree := if m.moves then tree.remove p else tree }
      | .ok (_, none) => fails ("cannot create " ++ Quoting.path path ++ "")
      | .error fault =>
        if m.moves then
          fails ("cannot move " ++ Quoting.path source ++ " to " ++ Quoting.path path ++ ": " ++ plainFault fault)
        else fails ("cannot create regular file " ++ Quoting.path path ++ ": " ++ plainFault fault)

/-- Calls a program for each of its sources with the target behind them. -/
def withTarget (name : String) (o : Settings) (s : Session)
    (f : String → String → Session → Printed × Session) : Printed × Session :=
  let go (target : String) (sources : List String) : Printed × Session :=
    if 1 < sources.length && s.tree.kind? target != some .directory then
      bad 1 (err (name ++ ": target " ++ Quoting.path target ++ ": " ++
        (if (s.tree.kind? target).isSome then "Not a directory\n"
          else "No such file or directory\n"))) s
    else onEach (f target) sources s
  match o.value? 't', o.operands.reverse with
  | some target, sources => go target sources.reverse
  | none, [] => Tool.misused name "missing file operand" 1 s
  | none, [source] =>
    Tool.misused name ("missing destination file operand after " ++ Quoting.path source ++ "") 1 s
  | none, target :: sources => go target sources.reverse

/-- Copies a file that is none of the tree. -/
def copyContent (target : String) (b : Bytes) (s : Session) : Printed × Session :=
  change s ("cp: cannot create regular file " ++ Quoting.path target ++ "") (s.tree.write target b)

/-- Copies files. -/
def cp : Tool where
  name := "cp"
  flags := "abdfHiLnPpRrsTuvxZ"
  valued := "tS"
  names := [("recursive", 'r'), ("archive", 'a'), ("force", 'f'), ("verbose", 'v'),
    ("no-clobber", 'n'), ("update", 'u'), ("target-directory", 't'),
    ("no-target-directory", 'T'), ("symbolic-link", 's'), ("interactive", 'i')]
  run o _ s :=
    let recursive := ['r', 'R', 'a'].any o.has
    withTarget "cp" o s fun target source s =>
      match s.tree.kind? source, s.content [] source with
      | none, .ok b => copyContent (inside s.tree source target) b s
      | _, _ => transfer ⟨"cp", false, recursive, o.has 'n', o.has 'v'⟩ target source s

/-- Moves files. -/
def mv : Tool where
  name := "mv"
  flags := "bfinTuvZ"
  valued := "tS"
  names := [("force", 'f'), ("verbose", 'v'), ("no-clobber", 'n'), ("update", 'u'),
    ("target-directory", 't'), ("no-target-directory", 'T'), ("interactive", 'i')]
  run o _ s := withTarget "mv" o s (transfer ⟨"mv", true, true, o.has 'n', o.has 'v'⟩)

/-! ## Links and names -/

/-- Makes a link, or a copy in place of another name for a file. -/
def link (o : Settings) (target source : String) (s : Session) : Printed × Session :=
  let symbolic := o.has 's'
  let path := if o.has 'n' && (s.tree.named? target).any (fun | .link _ => true | _ => false)
    then target else inside s.tree source target
  let fails (reason : String) : Printed × Session :=
    bad 1 (err ("ln: failed to create " ++ (if symbolic then "symbolic link '" else "hard link '")
      ++ path ++ "': " ++ reason ++ "\n")) s
  let said (sign : String) : Printed :=
    out (if o.has 'v' then Quoting.path path ++ " " ++ sign ++ " " ++ Quoting.path source ++ "\n" else "")
  let tree := match s.tree.namedPlace path with
    | .ok p => if o.has 'f' then s.tree.remove p else s.tree
    | .error _ => s.tree
  if symbolic then
    match tree.makeLink path source with
    | .ok tree => good (said "->") { s with tree }
    | .error fault => fails (plainFault fault)
  else
    match s.tree.place source with
    | .error fault =>
      bad 1 (err ("ln: failed to access " ++ Quoting.path source ++ ": " ++ plainFault fault ++ "\n")) s
    | .ok p =>
      if s.tree.entry? p = some .directory then
        bad 1 (err ("ln: " ++ source ++ ": hard link not allowed for directory\n")) s
      else
        match tree.target path with
        | .ok (d, some name) =>
          if (tree.entry? (d ++ [name])).isSome then fails "File exists"
          else good (said "=>") { s with tree := graft tree p (d ++ [name]) }
        | .ok (_, none) => fails "File exists"
        | .error fault => fails (plainFault fault)

/-- Makes links. -/
def ln : Tool where
  name := "ln"
  flags := "bdfFiLnPrsTv"
  valued := "tS"
  names := [("symbolic", 's'), ("force", 'f'), ("verbose", 'v'), ("no-dereference", 'n'),
    ("target-directory", 't'), ("no-target-directory", 'T'), ("relative", 'r')]
  run o _ s :=
    match o.operands with
    | [source] => link o "." source s
    | _ => withTarget "ln" o s (link o)

/-- The absolute path of what a path leads to; the last name need not be there. -/
def wholePath (t : FileTree) (path : String) (mayLack : Bool) : Except FileFault String :=
  match t.place path with
  | .ok p => .ok ("/" ++ "/".intercalate p)
  | .error fault =>
    match t.target path with
    | .ok (p, some name) =>
      if mayLack then .ok ("/" ++ "/".intercalate (p ++ [name])) else .error fault
    | _ => .error fault

/-- Prints where links lead. -/
def readlink : Tool where
  name := "readlink"
  flags := "efmnqsvz"
  names := [("canonicalize", 'f'), ("canonicalize-existing", 'e'), ("canonicalize-missing", 'm'),
    ("no-newline", 'n')]
  run o _ s := lacksOperand "readlink" o s fun args =>
    let ending := if o.has 'n' then "" else "\n"
    onEach (fun path s =>
      if o.has 'f' || o.has 'e' || o.has 'm' then
        match wholePath s.tree path (!o.has 'e') with
        | .ok whole => good (out (whole ++ ending)) s
        | .error _ => bad 1 [] s
      else
        match s.tree.named? path with
        | some (.link linked) => good (out (linked ++ ending)) s
        | _ => bad 1 [] s) args s

/-- Prints the absolute paths of what paths lead to. -/
def realpath : Tool where
  name := "realpath"
  flags := "eLmPqsz"
  names := [("canonicalize-existing", 'e'), ("canonicalize-missing", 'm'), ("strip", 's'),
    ("no-symlinks", 's'), ("quiet", 'q')]
  run o _ s := lacksOperand "realpath" o s fun args =>
    onEach (fun path s =>
      match wholePath s.tree path (!o.has 'e') with
      | .ok whole => good (out (whole ++ "\n")) s
      | .error fault => bad 1 (err (titled "realpath" path ++ ": " ++ plainFault fault ++ "\n")) s)
      args s

/-- The text of a format about a file. -/
def statText (path : String) (size : Nat) (entry : Entry) : List Char → List Char
  | '%' :: c :: rest =>
    let text := match c with
      | 'n' => path
      | 's' => toString size
      | 'F' =>
        match entry with
        | .directory => "directory"
        | .link _ => "symbolic link"
        | .file _ => if size = 0 then "regular empty file" else "regular file"
      | '%' => "%"
      | c => String.ofList ['%', c]
    text.toList ++ statText path size entry rest
  | c :: rest => c :: statText path size entry rest
  | [] => []

/-- Prints what is known of files. -/
def stat : Tool where
  name := "stat"
  flags := "Lft"
  valued := "c"
  names := [("format", 'c')]
  run o _ s := lacksOperand "stat" o s fun args =>
    onEach (fun path s =>
      match s.tree.named? path with
      | none =>
        bad 1 (err ("stat: cannot statx " ++ Quoting.path path ++ ": No such file or directory\n")) s
      | some entry =>
        let size := match entry with
          | .file content => content.length
          | .link linked => linked.length
          | .directory => 4096
        let format := (o.value? 'c').getD "%n"
        good (out (String.ofList (statText path size entry format.toList) ++ "\n")) s) args s

/-- The last name of a path. -/
def lastName (path : String) : String :=
  let cs := path.toList.reverse.dropWhile (· == '/')
  if cs.isEmpty && !path.isEmpty then "/" else String.ofList (cs.takeWhile (· != '/')).reverse

/-- A name without an ending, unless it is nothing else. -/
def withoutEnding (ending name : String) : String :=
  if ending.length < name.length && ending.toList.isSuffixOf name.toList then
    String.ofList (name.toList.take (name.length - ending.length))
  else name

/-- Prints the last names of paths, without an ending. -/
def basename : Tool where
  name := "basename"
  flags := "az"
  valued := "s"
  names := [("multiple", 'a'), ("suffix", 's'), ("zero", 'z')]
  run o _ s := lacksOperand "basename" o s fun args =>
    let ending := (o.value? 's').getD ""
    if o.has 'a' || o.has 's' then
      good (out (String.join (args.map fun a => withoutEnding ending (lastName a) ++ "\n"))) s
    else
      match args with
      | _ :: _ :: extra :: _ =>
        Tool.misused "basename" ("extra operand " ++ Quoting.path extra ++ "") 1 s
      | path :: ending =>
        good (out (withoutEnding (ending.headD "") (lastName path) ++ "\n")) s
      | [] => good [] s

/-- Prints paths without their last names. -/
def dirname : Tool where
  name := "dirname"
  flags := "z"
  names := [("zero", 'z')]
  run o _ s := lacksOperand "dirname" o s fun args =>
    let one (path : String) : String :=
      let cs := path.toList.reverse.dropWhile (· == '/')
      let parent := ((cs.dropWhile (· != '/')).dropWhile (· == '/')).reverse
      if !parent.isEmpty then String.ofList parent
      else if Path.isAbsolute path then "/" else "."
    good (out (String.join (args.map fun a => one a ++ "\n"))) s

/-- Writes its input to files and prints it. -/
def tee : Tool where
  name := "tee"
  flags := "aip"
  names := [("append", 'a')]
  reads _ := true
  run o input s :=
    let (p, s) := onEach (fun path s =>
      if path == "/dev/null" then good [] s
      else if path == "/dev/stderr" then good [(2, input)] s
      else if path == "/dev/stdout" then good [(1, input)] s
      else
        let before := match o.has 'a', s.tree.read path with
          | true, .ok b => b
          | _, _ => []
        change s (titled "tee" path) (s.tree.write path (before ++ input))) o.operands s
    ((1, input) :: p, s)

/-- The programs on files and directories. -/
def fileTools : List Tool :=
  [touch, ls, rm, mkdir, rmdir, cp, mv, ln, readlink, realpath, stat, basename, dirname, tee]

end Utility

end Scaffold.Script

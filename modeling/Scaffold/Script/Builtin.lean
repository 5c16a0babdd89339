import Scaffold.Script.Conditions
import Scaffold.Script.Printf
import Scaffold.Script.Streams

/-!
# Builtin — the commands of the shell itself

These commands change the state of the shell that runs them: its directory, its options and the way
it goes on.
-/

set_option autoImplicit false

namespace Scaffold.Script

namespace Builtin

/-- Ends the shell. -/
def exitWith (args : List String) (s : Session) : Printed × Session :=
  let stop (text : String) (status : Nat) : Printed × Session :=
    (err (s.complaint ("exit: " ++ text)), { s with ended := true, status })
  match args, s.isBash with
  | [], _ => ([], { s with ended := true })
  | a :: more, isBash =>
    match a.toInt? with
    | some n =>
      if isBash && !more.isEmpty then stop "too many arguments" 1
      else if !isBash && n < 0 then stop ("Illegal number: " ++ a) 2
      else ([], { s with ended := true, status := (n % 256).toNat })
    | none =>
      if isBash then stop (a ++ ": numeric argument required") 2
      else stop ("Illegal number: " ++ a) 2

/-- Ends the command with a name that is running. -/
def returnWith (args : List String) (s : Session) : Printed × Session :=
  let go (status : Nat) : Printed × Session :=
    if s.frames.isEmpty then
      if s.isBash then
        fails "return: can only \x60return' from a function or sourced script" 2 s
      else ([], { s with ended := true, status })
    else ([], { s with leaving := some .returns, status })
  match args.head?, (args.head?.bind String.toInt?) with
  | none, _ => go s.status
  | some _, some n => go (n % 256).toNat
  | some a, none =>
    if s.isBash then
      (err (s.complaint ("return: " ++ a ++ ": numeric argument required")),
        { s with leaving := some .returns, status := 2 })
    else breaks ("return: Illegal number: " ++ a) s

/-- Leaves loops. -/
def leave (title : String) (leaving : Nat → Leaving) (args : List String) (s : Session) :
    Printed × Session :=
  if s.loops = 0 then
    if s.isBash then
      fails (title ++ ": only meaningful in a \x60for', \x60while', or \x60until' loop") 0 s
    else ([], s.finish 0)
  else
    match args.head?, args.head?.bind String.toInt? with
    | none, _ => ([], { s with leaving := some (leaving 1), status := 0 })
    | some a, some n =>
      if 0 < n then ([], { s with leaving := some (leaving (min n.toNat s.loops)), status := 0 })
      else if s.isBash then
        (err (s.complaint (title ++ ": " ++ a ++ ": loop count out of range")),
          { s with leaving := some (.stops s.loops), status := 1 })
      else breaks (title ++ ": Illegal number: " ++ a) s
    | some a, none =>
      if s.isBash then
        (err (s.complaint (title ++ ": " ++ a ++ ": numeric argument required")),
          { s with ended := true, status := 128 })
      else breaks (title ++ ": Illegal number: " ++ a) s

/-- The steps of a path from a directory on, without dots. -/
def stepsFrom (start : Place) (path : String) : Place :=
  (path.splitOn "/").foldl (fun place step =>
    if step.isEmpty || step == "." then place
    else if step == ".." then place.dropLast
    else place ++ [step]) (if Path.isAbsolute path then [] else start)

/-- The directory that a path leads to, and the way there; the physical way has no links. -/
def directoryAt (s : Session) (isPhysical : Bool) (path : String) :
    Option (Place × Option Place) :=
  let way := stepsFrom (s.reached.getD s.tree.current) path
  let path := if isPhysical then path else "/" ++ "/".intercalate way
  match s.tree.place path, s.tree.kind? path with
  | .ok p, some .directory => some (p, if isPhysical || way == p then none else some way)
  | _, _ => none

/-- Makes a directory the current one. -/
def enter (p : Place) (reached : Option Place) (s : Session) : Session :=
  let old := s.directory
  let s := { s with tree := { s.tree with current := p }, reached }
  (((s.setVariable "OLDPWD" old).setVariable "PWD" s.directory).exportVariable "OLDPWD").finish 0

/-- Changes the current directory. A path that is searched for among other directories is told. -/
def changeDirectory (args : List String) (s : Session) : Printed × Session :=
  let isPhysical := args.head? == some "-P"
  let args := args.dropWhile fun a => a == "-P" || a == "-L" || a == "--"
  let lacks (name : String) : Printed × Session :=
    if s.isBash then fails ("cd: " ++ name ++ " not set") 1 s
    else if name == "HOME" then ([], s.finish 0)
    else fails ("cd: " ++ name ++ " not set") 2 s
  let go (path : String) (isSaid : Bool) : Printed × Session :=
    let first := String.ofList (path.toList.takeWhile (· != '/'))
    let searches := !isSaid && !(["", ".", ".."].contains first)
    let others := if searches then ((s.value? "CDPATH").elim [] fun c => c.splitOn ":") else []
    let found := (others.filter (!·.isEmpty)).findSome? fun dir =>
      directoryAt s isPhysical (dir ++ "/" ++ path)
    let isMissing := s.isBash && (stepsFrom [] path).length < (path.splitOn "/").length
      && (s.tree.kind? path).isNone
    match found, if isMissing then none else directoryAt s isPhysical path with
    | some (p, reached), _ =>
      let s := enter p reached s
      (out (s.directory ++ "\n"), s)
    | none, some (p, reached) =>
      let s := enter p reached s
      (if isSaid then out (s.directory ++ "\n") else [], s)
    | none, none =>
      let reason := if (s.tree.kind? path).isSome then "Not a directory"
        else "No such file or directory"
      if s.isBash then fails ("cd: " ++ path ++ ": " ++ reason) 1 s
      else fails ("cd: can't cd to " ++ path) 2 s
  match args, s.isBash with
  | _ :: _ :: _, true => fails "cd: too many arguments" 1 s
  | [], _ => (s.value? "HOME").elim (lacks "HOME") (go · false)
  | "-" :: _, _ => (s.value? "OLDPWD").elim (lacks "OLDPWD") (go · true)
  | "" :: _, _ => ([], s.finish 0)
  | path :: _, _ => go path false

/-- Lists the directories to return to. -/
def directories (s : Session) : Printed :=
  out (" ".intercalate (s.directory :: s.stack) ++ "\n")

/-- Changes the current directory and remembers the one before. -/
def push (args : List String) (s : Session) : Printed × Session :=
  match args, s.stack with
  | [], [] => fails "pushd: no other directory" 1 s
  | [], top :: rest =>
    match directoryAt s false top with
    | some (p, reached) =>
      let s := { enter p reached s with stack := s.directory :: rest }
      (directories s, s)
    | none => fails ("pushd: " ++ top ++ ": No such file or directory") 1 s
  | path :: _, stack =>
    match directoryAt s false path with
    | some (p, reached) =>
      let s := { enter p reached s with stack := s.directory :: stack }
      (directories s, s)
    | none => fails ("pushd: " ++ path ++ ": No such file or directory") 1 s

/-- Returns to the directory that was remembered last. -/
def pop (s : Session) : Printed × Session :=
  match s.stack with
  | [] => fails "popd: directory stack empty" 1 s
  | top :: rest =>
    match directoryAt s false top with
    | some (p, reached) =>
      let s := { enter p reached s with stack := rest }
      (directories s, s)
    | none => fails ("popd: " ++ top ++ ": No such file or directory") 1 s

/-- Permissions in base eight. -/
def permissions (mask : Nat) : String :=
  let digits := String.ofList (Nat.toDigits 8 mask)
  String.ofList (List.replicate (4 - digits.length) '0') ++ digits

/-- The permissions of new files in letters. -/
def permissionLetters (mask : Nat) : String :=
  let group (n : Nat) : String :=
    let lacks := mask / Nat.pow 8 n % 8
    String.ofList ((if lacks / 4 % 2 = 0 then ['r'] else [])
      ++ (if lacks / 2 % 2 = 0 then ['w'] else []) ++ if lacks % 2 = 0 then ['x'] else [])
  "u=" ++ group 2 ++ ",g=" ++ group 1 ++ ",o=" ++ group 0

/-- Sets or tells the permissions that new files lack. -/
def setMask (args : List String) (s : Session) : Printed × Session :=
  match args with
  | [] => (out (permissions s.mask ++ "\n"), s.finish 0)
  | "-S" :: _ => (out (permissionLetters s.mask ++ "\n"), s.finish 0)
  | a :: _ =>
    let (n, rest) := Utility.octal a.length a.toList
    if rest.isEmpty && n < 4096 then ([], { s with mask := n % 512 }.finish 0)
    else if a.toList.head?.any Char.isDigit then
      if s.isBash then fails ("umask: " ++ a ++ ": octal number out of range") 1 s
      else fails ("umask: Illegal number: " ++ a) 2 s
    else
      let worth (c : Char) : Nat := ([('r', 4), ('w', 2), ('x', 1)].lookup c).getD 0
      let clause (mask : Nat) (part : List Char) : Option Nat :=
        let who := part.takeWhile fun c => ['u', 'g', 'o', 'a'].contains c
        let who := if who.isEmpty || who.contains 'a' then ['u', 'g', 'o'] else who
        let behind := part.dropWhile fun c => ['u', 'g', 'o', 'a'].contains c
        let given := (behind.drop 1).foldl (fun n c => n ||| worth c) 0
        let change (f : Nat → Nat) : Nat :=
          [('u', 2), ('g', 1), ('o', 0)].foldl (fun n (c, k) =>
            let old := mask / Nat.pow 8 k % 8
            n + Nat.pow 8 k * (if who.contains c then f old else old)) 0
        if !(behind.drop 1).all fun c => worth c != 0 then none
        else
          match behind.head? with
          | some '=' => some (change fun _ => 7 - given)
          | some '+' => some (change fun old => old &&& (7 - given))
          | some '-' => some (change fun old => old ||| given)
          | _ => none
      match (Occurrences.split [','] a.toList).foldl
          (fun mask part => mask.bind fun m => clause m part) (some s.mask) with
      | some mask => ([], { s with mask }.finish 0)
      | none =>
        if s.isBash then fails ("umask: \x60" ++ String.singleton (a.toList.headD ' ')
          ++ "': invalid symbolic mode operator") 1 s
        else fails ("umask: Illegal mode: " ++ a) 2 s

/-- Sets options of the extended shell by name. -/
def chooseOptions (args : List String) (s : Session) : Printed × Session :=
  match args with
  | "-s" :: names => ([], { s with options := names ++ s.options }.finish 0)
  | "-u" :: names => ([], { s with options := s.options.filter (!names.contains ·) }.finish 0)
  | "-q" :: names => ([], s.finish (if names.all s.options.contains then 0 else 1))
  | _ => ([], s.finish 0)

/-- Sets an option of the shell by its letter. -/
def setLetter (on : Bool) (s : Session) (c : Char) : Session :=
  match c with
  | 'e' => { s with stopsOnError := on }
  | 'u' => { s with needsValues := on }
  | 'x' => { s with traces := on }
  | 'f' => { s with keepsPatterns := on }
  | 'n' => if on then { s with ended := true, status := 0 } else s
  | _ => s

/-- The letters of options with names; those without effect have none. -/
def optionNames : List (String × Option Char) :=
  [("errexit", 'e'), ("nounset", 'u'), ("xtrace", 'x'), ("noglob", 'f'), ("noexec", 'n')].map
      (fun (name, c) => (name, some c))
    ++ ["noclobber", "allexport", "verbose", "monitor", "notify", "ignoreeof", "vi",
      "emacs"].map (·, none)

/-- The letters of options. -/
def knownLetters (isBash : Bool) : List Char :=
  (if isBash then "abefhkmnptuvxBCEHPT" else "aCefhimnsuvxVEIb").toList

/-- How options are set in the extended shell. -/
def setUsage : String := "[-abefhkmnptuvxBCEHPT] [-o option-name] [--] [-] [arg ...]"

/-- Sets an option by its name; none if there is no such option. -/
def setNamed? (on : Bool) (name : String) (s : Session) : Option Session :=
  if name == "pipefail" && s.isBash then some { s with failsAnywhere := on }
  else (optionNames.lookup name).map fun letter => letter.elim s (setLetter on s)

/-- Sets options of the shell, and its arguments. -/
def setOptions : List String → Session → Printed × Session
  | [], s => ([], s.finish 0)
  | "--" :: args, s => ([], { s with arguments := args }.finish 0)
  | a :: args, s =>
    let go (on : Bool) (letters : List Char) : Printed × Session :=
      match letters.find? fun c => c != 'o' && !(knownLetters s.isBash).contains c with
      | some c =>
        if s.isBash then misused "set" setUsage (.unknown c) s
        else breaks ("set: Illegal option -" ++ String.singleton c) s
      | none =>
        let s := letters.foldl (setLetter on) s
        if !letters.contains 'o' then setOptions args s
        else
          match args with
          | [] => ([], s.finish 0)
          | name :: rest =>
            match setNamed? on name s with
            | some s => setOptions rest s
            | none =>
              if s.isBash then fails ("set: " ++ name ++ ": invalid option name") 2 s
              else breaks ("set: Illegal option " ++ a ++ " " ++ name) s
    match a.toList with
    | '-' :: c :: cs => go true (c :: cs)
    | '+' :: c :: cs => go false (c :: cs)
    | _ => ([], { s with arguments := a :: args }.finish 0)

/-- Drops arguments. -/
def shift (args : List String) (s : Session) : Printed × Session :=
  match args.head?, (args.head?.getD "1").toInt? with
  | some a, none =>
    if s.isBash then fails ("shift: " ++ a ++ ": numeric argument required") 1 s
    else breaks ("shift: Illegal number: " ++ a) s
  | none, none => ([], s.finish 0)
  | a, some n =>
    if n < 0 then
      if s.isBash then fails ("shift: " ++ a.getD "" ++ ": shift count out of range") 1 s
      else breaks ("shift: Illegal number: " ++ a.getD "") s
    else if s.arguments.length < n.toNat then
      if s.isBash then ([], s.finish 1) else breaks "shift: can't shift that many" s
    else ([], { s with arguments := s.arguments.drop n.toNat }.finish 0)

/-- Calculates. -/
def calculate : List String → Session → Printed × Session
  | [], s => fails "let: expression expected" 1 s
  | text :: more, s =>
    match calculated s text with
    | (.error fault, s) => fails ("let: " ++ fault.message s.isBash text) 1 s
    | (.ok n, s) =>
      if more.isEmpty then ([], s.finish (if n = 0 then 1 else 0)) else calculate more s

/-- Formats arguments, perhaps into a variable. -/
def printf (args : List String) (s : Session) : Printed × Session :=
  match s.isBash, args with
  | true, "-v" :: name :: rest =>
    let (p, s) := Utility.printf rest [] s
    let (q, s) := put "printf: " s name (Raw.text (p.on 1))
    (p.filter (·.1 != 1) ++ q, s)
  | true, [] => (err "printf: usage: printf [-v var] format [arguments]\n", s.finish 2)
  | false, option :: _ =>
    match option.toList with
    | '-' :: c :: _ =>
      if c == '-' then Utility.printf args [] s
      else
        misused "printf" "" (.unknown c) s
    | _ => Utility.printf args [] s
  | true, option :: _ =>
    match option.toList with
    | '-' :: c :: _ =>
      if c == '-' then Utility.printf args [] s
      else misused "printf" "[-v var] format [arguments]" (.unknown c) s
    | _ => Utility.printf args [] s
  | _, args => Utility.printf args [] s

/-- The commands of both shells. -/
def commonNames : List String :=
  [":", ".", "[", "alias", "bg", "break", "cd", "command", "continue", "echo", "eval", "exec",
    "exit", "export", "false", "fg", "getopts", "hash", "jobs", "kill", "local", "printf", "pwd",
    "read", "readonly", "return", "set", "shift", "test", "times", "trap", "true", "type", "ulimit",
    "umask", "unalias", "unset", "wait"]

/-- The commands of the extended shell alone. -/
def extendedNames : List String :=
  ["builtin", "caller", "declare", "dirs", "enable", "help", "history", "let", "mapfile", "popd",
    "pushd", "readarray", "shopt", "source", "suspend", "typeset"]

/-- The name is that of a command of the shell itself. -/
def isBuiltin (s : Session) (name : String) : Bool :=
  commonNames.contains name || (s.isBash && extendedNames.contains name)

/-- The commands of the shell itself that run no others. -/
def run? (name : String) (args : List String) (s : Session) : Option (Printed × Session) :=
  match name with
  | ":" | "true" | "ulimit" | "times" | "jobs" | "bg" | "fg" | "alias" | "unalias" =>
    some ([], s.finish 0)
  | "umask" => some (setMask args s)
  | "wait" => some (await args s)
  | "false" => some ([], s.finish 1)
  | "exit" => some (exitWith args s)
  | "return" => some (returnWith args s)
  | "break" => some (leave "break" .stops args s)
  | "continue" => some (leave "continue" .skips args s)
  | "cd" => some (changeDirectory args s)
  | "pwd" =>
    some (out ((if args.contains "-P" then s.physical else s.directory) ++ "\n"), s.finish 0)
  | "export" => some (exportAll args s)
  | "readonly" => some (fixAll args s)
  | "local" => some (keepAll args s)
  | "unset" => some (unsetAll args s)
  | "set" => some (setOptions args s)
  | "shift" => some (shift args s)
  | "trap" => some (trap args s)
  | "read" => some (readLine args s)
  | "getopts" => some (nextOption args s)
  | "kill" => some (kill args s)
  | "echo" => some (Utility.echo args [] s)
  | "printf" => some (printf args s)
  | "test" => some (Conditions.test args [] s)
  | "[" => some (Conditions.bracket args [] s)
  | name =>
    if !s.isBash then none
    else
      match name with
      | "declare" | "typeset" => some (declare "declare" args s)
      | "pushd" => some (push args s)
      | "popd" => some (pop s)
      | "dirs" => some (directories s, s.finish 0)
      | "let" => some (calculate args s)
      | "mapfile" | "readarray" => some (readRow args s)
      | "shopt" => some (chooseOptions args s)
      | "caller" => some ([], s.finish 1)
      | "enable" | "history" | "suspend" | "help" => some ([], s.finish 0)
      | _ => none

end Builtin

end Scaffold.Script

import Scaffold.Script.Checksums
import Scaffold.Script.Columns
import Scaffold.Script.Comparing
import Scaffold.Script.Conditions
import Scaffold.Script.Counting
import Scaffold.Script.Clock
import Scaffold.Script.Dump
import Scaffold.Script.Editing
import Scaffold.Script.Sequence
import Scaffold.Script.Formula
import Scaffold.Script.Joining
import Scaffold.Script.LineUtility
import Scaffold.Script.Matching
import Scaffold.Script.Parts
import Scaffold.Script.Printf
import Scaffold.Script.Replacing
import Scaffold.Script.Sorting
import Scaffold.Script.Builtin

/-!
# Programs — the utilities and how a name finds one
-/

set_option autoImplicit false

/-!
## Programs — what a search for a name finds

These programs run no others.
-/

namespace Scaffold.Script

namespace Programs

/-- Prints variables that are handed on. -/
def printenv : Program := fun args _ s =>
  if args.isEmpty then
    Utility.good (out (String.join (s.environment.map fun (n, v) => n ++ "=" ++ v ++ "\n"))) s
  else
    let values := args.map fun n => s.environment.lookup n
    Utility.bad (if values.any (·.isNone) then 1 else 0)
      (out (String.join (values.filterMap id |>.map (· ++ "\n")))) s

/-- Waits, which takes no time. -/
def sleep : Program := fun args _ s =>
  let isTime (a : String) : Bool :=
    let cs := a.toList
    let hasUnit := ['s', 'm', 'h', 'd'].any fun c => cs.getLast? == some c
    let number := if hasUnit then cs.dropLast else cs
    !number.isEmpty && number.all fun c => c.isDigit || c == '.'
  match args.find? (!isTime ·) with
  | some a => Tool.misused "sleep" ("invalid time interval '" ++ a ++ "'") 1 s
  | none => if args.isEmpty then Tool.misused "sleep" "missing operand" 1 s else Utility.good [] s

/-- Lets files be run, or not; the first operand says how. -/
def chmod : Tool where
  name := "chmod"
  flags := "cfRvxrw"
  names := [("changes", 'c'), ("silent", 'f'), ("quiet", 'f'), ("verbose", 'v'),
    ("recursive", 'R')]
  run o _ s :=
    let runs := o.has 'x' || o.operands.head?.any fun a =>
      a.toList.any fun c => c == 'x' || c == '7' || c == '5'
    match o.operands with
    | [] => Tool.misused "chmod" "missing operand" 1 s
    | [mode] => Tool.misused "chmod" ("missing operand after '" ++ mode ++ "'") 1 s
    | mode :: paths =>
      let lifts := mode.toList.contains '-' && mode.toList.contains 'x'
      Utility.onEach (fun path s =>
        match s.tree.place path with
        | .error fault =>
          Utility.bad 1 (err ("chmod: cannot access " ++ Quoting.path path ++ ": " ++ plainFault fault
            ++ "\n")) s
        | .ok p =>
          let others := s.runnable.filter (· != p)
          Utility.good [] { s with runnable := if runs && !lifts then p :: others else others })
        paths s

/-- Tells who runs the shell: by number, or by name. -/
def owner : Program := fun args _ s =>
  let letters := args.flatMap fun a => a.toList.drop 1
  let text := if letters.isEmpty then "uid=0(root) gid=0(root) groups=0(root)"
    else if letters.contains 'n' then "root" else "0"
  Utility.good (out (text ++ "\n")) s

/-- Tells what system there is. -/
def uname : Program := fun args _ s =>
  let text := match args with
    | "-m" :: _ | "-p" :: _ | "-i" :: _ => "x86_64"
    | "-o" :: _ => "GNU/Linux"
    | _ => "Linux"
  Utility.good (out (text ++ "\n")) s

/-- The programs that have options. -/
def tools : List Tool :=
  Utility.fileTools ++ Utility.lineTools ++ Parts.partTools ++ Counting.countTools ++
    Columns.columnTools ++ Sorting.orderTools ++ Checksums.checksumTools ++ Matching.searchTools ++
    Factors.factorTools ++ [Replacing.tr, Dump.od, Dating.date, Joining.join, Editing.sed,
      Comparing.diff, Comparing.cmp, Comparing.comm, Sequence.seq, chmod]

/-- The programs that read their arguments in ways of their own. -/
def others : List (String × Program) := [
  ("echo", fun args input s =>
    let (p, t) := Utility.echo args input { s with isBash := true }
    (p, { t with isBash := s.isBash })),
  ("printf", Utility.printf), ("test", Conditions.test), ("[", Conditions.bracket),
  ("expr", Formula.expr), ("printenv", printenv), ("sleep", sleep),
  ("pwd", fun _ _ s => Utility.good (out (s.physical ++ "\n")) s),
  ("true", fun _ _ s => Utility.good [] s), ("false", fun _ _ s => Utility.bad 1 [] s),
  ("id", owner), ("uname", uname), ("whoami", fun _ _ s => Utility.good (out "root\n") s),
  ("sync", fun _ _ s => Utility.good [] s)]

/-- The program of a name. -/
def named? (name : String) : Option Program :=
  ((tools.find? (·.name == name)).map Tool.program) <|> others.lookup name

end Programs

end Scaffold.Script

/-!
## Lookup — what names stand for

A name stands for a keyword, for a command that the script has given it, for a command of the shell,
or for a program, in this order. What stands for nothing is reported.
-/

namespace Scaffold.Script

/-- A word as it is shown in front of a command that is run. -/
def shownWord (isBash : Bool) (text : String) : String :=
  if isBash then Quoting.shown text else text

/-- What the title of a script that cannot be read is, where it is run by a command. -/
def titleOf (s : Session) (command : String) : String :=
  if s.isBash then s.title ++ ": " ++ command else s.title

/-- The name of a program without the directory that programs are in. -/
def programName (path : String) : String :=
  let cs := path.toList
  match "/usr/bin/".toList.isPrefixOf? cs, "/bin/".toList.isPrefixOf? cs with
  | some rest, _ | none, some rest => String.ofList rest
  | none, none => path

/-- The shells that are there. -/
def shells : List String := ["sh", "bash", "dash"]

/-- The programs that run others. -/
def runners : List String := ["env", "xargs", "which", "find", "awk", "mawk"]

/-- A program that is not found: the shell tells, or the program that was to run it. -/
def notFound (name : String) (s : Session) : Printed × Session :=
  let shown := if s.title == "xargs" then name else "'" ++ name ++ "'"
  let isPath := Occurrences.occurs ['/'] name.toList
  let text :=
    if isPath && s.isBash then name ++ ": No such file or directory"
    else if s.isBash then name ++ ": command not found"
    else if name.isEmpty then ": Permission denied"
    else name ++ ": not found"
  (err (if s.isShell then s.report text
    else s.title ++ ": " ++ shown ++ ": No such file or directory\n"), s.finish 127)

/-- A program of the name is there. -/
def isProgram (name : String) : Bool :=
  shells.contains name || runners.contains name || (Programs.named? name).isSome
    || name == "kill"

/-- The path of a program. -/
def pathOfProgram (name : String) : String := "/usr/bin/" ++ name

/-- What a name stands for as a command: a short word for it, and the words of a description. -/
def kindOf (s : Session) (name : String) : Option (String × String) :=
  if keywords.contains name then some (name, "is a shell keyword")
  else if (s.commands.lookup name).isSome then
    some (name, if s.isBash then "is a function" else "is a shell function")
  else if Builtin.isBuiltin s name then
    let isSpecial := [":", ".", "break", "continue", "eval", "exec", "exit", "export", "readonly",
      "return", "set", "shift", "times", "trap", "unset"].contains name
    some (name, if isSpecial && !s.isBash then "is a special shell builtin"
      else "is a shell builtin")
  else if s.findsPrograms && isProgram name then
    some (pathOfProgram name, "is " ++ pathOfProgram name)
  else none

/-- Says what names stand for; `title` is the command that asks. -/
def describe (title : String) (args : List String) (s : Session) : Printed × Session :=
  match args with
  | [] => ([], s.finish 0)
  | name :: more =>
    let rest := describe title more s
    match kindOf s name with
    | some (_, text) => (out (name ++ " " ++ text ++ "\n") ++ rest.1, rest.2)
    | none =>
      let said := if s.isBash then err (s.complaint (title ++ ": " ++ name ++ ": not found"))
        else out (name ++ ": not found\n")
      (said ++ rest.1, s.finish (if s.isBash then 1 else 127))

/-- Says what kind of command names stand for, or where the programs are, with a letter that tells
which. -/
def describeBy (letter : Char) (args : List String) (s : Session) : Printed × Session :=
  let kind (name : String) : Option String :=
    (kindOf s name).bind fun (_, text) =>
      let isProgram := text == "is " ++ pathOfProgram name
      if letter != 't' then if isProgram then some (pathOfProgram name) else some ""
      else if isProgram then some "file"
      else ["keyword", "function", "builtin"].find? fun k => text.endsWith k
  let found := args.map kind
  (out (String.join ((found.filterMap id).map fun k => if k.isEmpty then "" else k ++ "\n")),
    s.finish (if found.all (·.isSome) then 0 else 1))

/-- Prints where names lead; the plain shell looks at the first one only. -/
def locate (args : List String) (s : Session) : Printed × Session :=
  let found := (if s.isBash then args else args.take 1).map fun a => (kindOf s a).map Prod.fst
  (out (String.join (found.filterMap id |>.map (· ++ "\n"))),
    s.finish (if found.all (·.isSome) then 0 else if s.isBash then 1 else 127))

/-- Looks for programs. -/
def hash (args : List String) (s : Session) : Printed × Session :=
  let missing := args.filter fun a => a != "-r" && (kindOf s a).isNone
  (err (String.join (missing.map fun a => s.complaint ("hash: " ++ a ++ ": not found"))),
    s.finish (if missing.isEmpty then 0 else 1))

/-- Prints the paths of programs. -/
def which (args : List String) (s : Session) : Printed × Session :=
  let found := args.filter isProgram
  (out (String.join (found.map fun a => pathOfProgram a ++ "\n")),
    s.finish (if found.length = args.length then 0 else 1))

/-- The shell that the first line of a file names, if it names one. -/
def shellOf (otherwise : String) (content : Bytes) : String :=
  let line := Raw.text (content.takeWhile (· != 10))
  match line.toList with
  | '#' :: '!' :: rest =>
    let words := Utility.words (String.ofList rest)
    if words.any fun w => w.toList.reverse.takeWhile (· != '/') == "bash".toList.reverse then "bash"
    else "sh"
  | _ => otherwise

end Scaffold.Script

import Scaffold.Script.LineUtility
import Scaffold.Script.Reading
import Scaffold.Script.Value

/-!
# Variables — commands that set, list and remove variables

A variable can be handed on to programs, keep its value, belong to the running command with a name,
or hold the values of calculations. A listing shows variables as commands that set them.
-/

set_option autoImplicit false

namespace Scaffold.Script

namespace Builtin

/-! ## Faults -/

/-- A command of the plain shell that ends the shell with a report. -/
def breaks (text : String) (s : Session) : Printed × Session :=
  (err (s.complaint text), { s with ended := true, status := 2 })

/-- A command that fails with a report. -/
def fails (text : String) (status : Nat) (s : Session) : Printed × Session :=
  (err (s.complaint text), s.finish status)

/-- The report of options that a command does not know; the extended shell adds how the command is
called. -/
def misused (title usage : String) (fault : Settings.Fault) (s : Session) : Printed × Session :=
  let text := match fault, s.isBash with
    | .unknown c, true => "-" ++ String.singleton c ++ ": invalid option"
    | .unknown c, false => "Illegal option -" ++ String.singleton c
    | .lacksNamedValue _, true | .hasValue _, true | .ambiguous .., true | .unknownName _, true =>
      "--: invalid option"
    | .lacksNamedValue _, false | .hasValue _, false | .ambiguous .., false
    | .unknownName _, false => "Illegal option --"
    | .lacksValue c, true => "-" ++ String.singleton c ++ ": option requires an argument"
    | .lacksValue c, false => "No arg for -" ++ String.singleton c ++ " option"
  (err (s.complaint (title ++ ": " ++ text)
    ++ if s.isBash then title ++ ": usage: " ++ title ++ " " ++ usage ++ "\n" else ""), s.finish 2)

/-- The name and the value of an argument such as `name=value`. -/
def named (a : String) : String × Option String :=
  let cs := a.toList
  let name := cs.takeWhile (· != '=')
  (String.ofList name, (cs[name.length]?).map fun _ => String.ofList (cs.drop (name.length + 1)))

/-- The argument names a variable. -/
def hasName (a : String) : Bool := isName (named a).1.toList

/-- Does something with the names and values of arguments; one that is no name is reported. -/
def eachNamed (title : String) (f : Session → String → Option String → Printed × Session)
    (args : List String) (s : Session) : Printed × Session :=
  let step (before : Printed × Session) (a : String) : Printed × Session :=
    if before.2.ended then before
    else
      let (p, s) := f before.2 (named a).1 (named a).2
      (before.1 ++ p, s)
  let (p, done) := (args.filter hasName).foldl step ([], s)
  if done.ended then (p, done)
  else
    match args.find? (!hasName ·) with
    | some a =>
      if s.isBash then
        let (q, s) := fails (title ++ ": \x60" ++ a ++ "': not a valid identifier") 1 done
        (p ++ q, s)
      else breaks (title ++ ": " ++ (named a).1 ++ ": bad variable name") s
    | none => (p, done.finish 0)

/-! ## Listings -/

/-- The command of the extended shell that sets a variable. -/
def declaration (s : Session) (name : String) : String :=
  let letters := kindLetters s name
  let value := match s.rows.lookup name with
    | some row =>
      let cells := row.cells.map fun (place, v) => "[" ++ place ++ "]=" ++ Quoting.double v
      "=(" ++ " ".intercalate cells
        ++ (if row.isNumbered || cells.isEmpty then ")" else " )")
    | none => ((s.value? name).map fun v => "=" ++ Quoting.double v).getD ""
  "declare -" ++ (if letters.isEmpty then "-" else letters) ++ " " ++ name ++ value ++ "\n"

/-- Lists variables as commands that set them. -/
def listing (command : String) (names : List String) (s : Session) : Printed × Session :=
  let line (name : String) : String :=
    if s.isBash then declaration s name
    else command ++ " " ++ name ++ ((s.value? name).map fun v => "=" ++ Quoting.listed v).getD ""
      ++ "\n"
  (out (String.join ((names.eraseDups.mergeSort fun a b => a ≤ b).map line)), s.finish 0)

/-! ## Setting -/

/-- Exports variables, perhaps with new values; the extended shell can take that back. -/
def exportAll (args : List String) (s : Session) : Printed × Session :=
  match Settings.front { flags := if s.isBash then ['n', 'p', 'f'] else ['p'] } args with
  | .error fault =>
    if s.isBash then misused "export" "[-fn] [name[=value] ...] or export -p" fault s
    else
      let (p, s) := misused "export" "" fault s
      (p, { s with ended := true })
  | .ok o =>
    if o.operands.isEmpty then
      listing "export" (s.exported ++ if s.isBash then ["OLDPWD"] else []) s
    else
      eachNamed "export" (fun s name value =>
        let (p, s) := value.elim ([], s) (put "export: " s name)
        (p, if o.has 'n' then { s with exported := s.exported.filter (· != name) }
          else s.exportVariable name)) o.operands s

/-- Makes variables keep their values. -/
def fixAll (args : List String) (s : Session) : Printed × Session :=
  let names := args.filter fun a => a != "-p" && a != "--"
  if names.isEmpty then listing "readonly" s.fixed s
  else
    eachNamed "readonly" (fun s name value =>
      let (p, s) := value.elim ([], s) (put "readonly: " s name)
      (p, { s with fixed := name :: s.fixed })) names s

/-- Gives a variable a kind and perhaps a value. -/
def declareOne (title : String) (letters : List Char) (s : Session) (name : String)
    (value : Option String) : Printed × Session :=
  let s :=
    if letters.contains 'A' && (s.rows.lookup name).isNone then
      s.setRow name { isNumbered := false }
    else if letters.contains 'a' && (s.rows.lookup name).isNone then s.setRow name {}
    else s
  let s := if letters.contains 'i' then { s with integers := name :: s.integers } else s
  let (p, s) := value.elim ([], s) (put (title ++ ": ") s name)
  let s := if letters.contains 'x' then s.exportVariable name else s
  (p, if letters.contains 'r' then { s with fixed := name :: s.fixed } else s)

/-- Lists the variables that are named. -/
def describeEach (names : List String) (s : Session) : Printed × Session :=
  let isKnown (name : String) : Bool :=
    (s.row? name).isSome || s.exported.contains name || s.integers.contains name
  let lines := names.map fun name =>
    if isKnown name then out (declaration s name)
    else err (s.complaint ("declare: " ++ name ++ ": not found"))
  (lines.flatten, s.finish (if names.all isKnown then 0 else 1))

/-- Gives variables their kinds, or lists them. -/
def declare (title : String) (args : List String) (s : Session) : Printed × Session :=
  let options := args.takeWhile fun a => a.toList.head? == some '-'
  let letters := options.flatMap fun a => a.toList.drop 1
  let names := args.drop options.length
  if letters.contains 'F' || letters.contains 'f' then
    let known := if !names.isEmpty then names
      else (s.commands.map Prod.fst).mergeSort fun a b => a ≤ b
    let lead := if names.isEmpty then "declare -f " else ""
    let there := known.filter fun n => (s.commands.lookup n).isSome
    (if letters.contains 'F' then out (String.join (there.map fun n => lead ++ n ++ "\n")) else [],
      s.finish (if there.length = known.length then 0 else 1))
  else if letters.contains 'p' then
    describeEach (if names.isEmpty then s.values.map Prod.fst else names) s
  else
    let isOwn := !s.called.isEmpty && !letters.contains 'g'
    eachNamed title (fun s name value =>
      let s := if isOwn then s.keepBefore name else s
      let s := if isOwn && value.isNone && title == "local" then s.unset name else s
      declareOne title letters s name value) names s

/-- Makes variables those of the running command with a name alone. -/
def keepAll (args : List String) (s : Session) : Printed × Session :=
  if s.frames.isEmpty then
    if s.isBash then fails "local: can only be used in a function" 1 s
    else breaks "local: not in a function" s
  else if s.isBash then declare "local" args s
  else eachNamed "local" (fun s name value => ([], value.elim (s.keepBefore name)
    ((s.keepBefore name).setVariable name))) args s

/-- Removes a variable, one of its places, or a command with a name. -/
def unsetOne (named : Bool) (s : Session) (a : String) : Printed × Session :=
  match a.toList.span (· != '[') with
  | (name, _ :: place) =>
    let name := String.ofList name
    match s.rows.lookup name with
    | some row =>
      let (place, p, s) := placeIn row (String.ofList place.dropLast) s
      (p, s.setRow name { row with cells := row.cells.filter (·.1 != place) })
    | none => ([], s)
  | (_, []) =>
    ([], if (s.value? a).isSome || (s.row? a).isSome then s.unset a
      else if named then s.forget a else s)

/-- Removes variables, or commands with names. -/
def unsetAll (args : List String) (s : Session) : Printed × Session :=
  let isGiven (a : String) : Bool := isName (a.toList.takeWhile (· != '['))
  let all (named : Bool) (names : List String) : Printed × Session :=
    let (p, s) := names.foldl (fun (p, s) a =>
      if s.ended then (p, s)
      else
        let (q, s) := unsetOne named s a
        (p ++ q, s)) (([] : Printed), s)
    (p, if s.ended then s else s.finish 0)
  let go (named : Bool) (names : List String) : Printed × Session :=
    match names.find? s.fixed.contains, names.find? (!isGiven ·) with
    | some a, _ =>
      if s.isBash then
        let (p, s) := all named (names.filter (!s.fixed.contains ·))
        let (q, s) := fails ("unset: " ++ a ++ ": cannot unset: readonly variable") 1 s
        (p ++ q, s)
      else breaks ("unset: " ++ a ++ ": is read only") s
    | none, some a =>
      if s.isBash then all named names
      else breaks ("unset: " ++ a ++ ": bad variable name") s
    | none, none => all named names
  match args with
  | "-f" :: names => ([], (names.foldl Session.forget s).finish 0)
  | "-v" :: names => go false names
  | names => go s.isBash names

/-! ## Reading -/

/-- The fields of a line, as many as there are variables; the last one is the rest. -/
def fieldsOf (separators : List Char) : Nat → List Marked → List (List Marked)
  | 0, _ => []
  | count + 1, line =>
    let isSeparator (m : Marked) : Bool := separators.contains m.1 && !m.2
    let isSpace (m : Marked) : Bool :=
      isSeparator m && (m.1 == ' ' || m.1 == '\t' || m.1 == '\n')
    let line := line.dropWhile isSpace
    let field := line.takeWhile (!isSeparator ·)
    let behind := (line.drop field.length).dropWhile isSpace
    let behind := match behind, line.drop field.length with
      | c :: rest, d :: _ =>
        if isSeparator c && !isSpace c then rest.dropWhile isSpace
        else if isSpace d then c :: rest else rest.dropWhile isSpace
      | behind, _ => behind
    if 0 < count then field :: fieldsOf separators count behind
    else if behind.isEmpty then [field]
    else [(line.reverse.dropWhile isSpace).reverse]

/-- All separated fields of a line. -/
def allFieldsOf (separators : List Char) (line : List Marked) : List (List Marked) :=
  let step (c : Expansion.Cutting) (m : Marked) : Expansion.Cutting :=
    if m.2 then c.add [m] else c.addCut separators m.1
  (line.foldl step {}).close.done

/-- A line of input, at most so many bytes of it, and what is left; where escapes are read, a
backslash keeps what follows from being a separator, and joins lines. -/
def lineOf (escapes : Bool) (stop : Option UInt8) (most : Option Nat) :
    Bytes → List Marked × Bytes × Bool
  | [] => ([], [], most == some 0)
  | 92 :: c :: rest =>
    if most == some 0 then ([], 92 :: c :: rest, true)
    else
      let (line, rest, ended) :=
        if escapes then
          if c = 10 then lineOf escapes stop most rest
          else
            let (line, rest, ended) := lineOf escapes stop (most.map (· - 1)) rest
            ((Char.ofNat c.toNat, true) :: line, rest, ended)
        else
          let (line, rest, ended) := lineOf escapes stop (most.map (· - 1)) (c :: rest)
          (('\\', false) :: line, rest, ended)
      (line, rest, ended)
  | c :: rest =>
    if most == some 0 then ([], c :: rest, true)
    else if stop == some c then ([], rest, true)
    else if c = 0 then lineOf escapes stop most rest
    else
      let (line, rest, ended) := lineOf escapes stop (most.map (· - 1)) rest
      ((Char.ofNat c.toNat, false) :: line, rest, ended)

/-- How the extended shell reads lines. -/
def readUsage : String :=
  "[-ers] [-a array] [-d delim] [-i text] [-n nchars] [-N nchars] [-p prompt] [-t timeout] " ++
    "[-u fd] [name ...]"

/-- Takes a line from the input into variables. -/
def readLine (args : List String) (s : Session) : Printed × Session :=
  let known : Settings.Known :=
    if s.isBash then { flags := "ers".toList, valued := "adinNptu".toList }
    else { flags := ['r'], valued := ['p'] }
  match Settings.front known args with
  | .error fault => misused "read" readUsage fault s
  | .ok o =>
    match o.operands.find? fun n => !isName (n.toList.takeWhile (· != '[')) with
    | some n =>
      if s.isBash then fails ("read: \x60" ++ n ++ "': not a valid identifier") 1 s
      else fails ("read: " ++ n ++ ": bad variable name") 2 s
    | none =>
      if o.operands.isEmpty && !s.isBash then fails "read: arg count" 2 s
      else
        let stop : UInt8 := (((o.value? 'd').map Raw.bytes).getD [10]).headD 0
        let stream := ((o.value? 'u').bind String.toNat?).getD 0
        let input := if stream = 0 then s.input else (s.sources.lookup stream).getD []
        let (line, rest, ended) :=
          match o.value? 'N', o.value? 'n' with
          | some n, _ => lineOf (!o.has 'r') none (some (n.toNat?.getD 0)) input
          | none, some n => lineOf (!o.has 'r') (some stop) (some (n.toNat?.getD 0)) input
          | none, none => lineOf (!o.has 'r') (some stop) none input
        let left (source : Nat × Bytes) : Nat × Bytes :=
          if source.1 = stream then (stream, rest) else source
        let s := if stream = 0 then { s with input := rest }
          else { s with sources := s.sources.map left }
        let (p, s) : Printed × Session :=
          match o.value? 'a' with
          | some name =>
            let fields := (allFieldsOf s.separators line).map Pattern.plain
            ([], s.setRow name (.ofList fields))
          | none =>
            let names := if o.operands.isEmpty then ["REPLY"] else o.operands
            let separators := if o.operands.isEmpty || o.has 'N' then [] else s.separators
            let fields := (fieldsOf separators names.length line).map Pattern.plain
            (names.zip fields).foldl (fun (p, s) (n, v) =>
              if s.ended then (p, s)
              else
                let (q, s) := put "read: " s n v
                (p ++ q, s)) ([], s)
        (p, if s.ended then s else s.finish (if ended then 0 else 1))

/-- The parts of an input that a byte ends, each with its end. -/
def partsOf (stop : UInt8) (input : Bytes) : List Bytes :=
  input.foldr (fun x parts =>
    if x = stop then [x] :: parts
    else match parts with
      | [] => [[x]]
      | part :: rest => (x :: part) :: rest) []

/-- Takes the lines of the input into a variable. -/
def readRow (args : List String) (s : Session) : Printed × Session :=
  match Settings.front { flags := ['t'], valued := "dnOsucC".toList } args with
  | .error fault =>
    misused "mapfile"
      "[-d delim] [-n count] [-O origin] [-s count] [-t] [-u fd] [-C callback] [-c quantum] [array]"
      fault s
  | .ok o =>
    let number (letter : Char) : Option Nat := (o.value? letter).bind String.toNat?
    let stop : UInt8 := (((o.value? 'd').map Raw.bytes).getD [10]).headD 0
    let stream := (number 'u').getD 0
    let input := if stream = 0 then s.input else (s.sources.lookup stream).getD []
    let all := (partsOf stop input).drop ((number 's').getD 0)
    let taken := match number 'n' with
      | none | some 0 => all
      | some n => all.take n
    let rest := (all.drop taken.length).flatten
    let bare (l : Bytes) : Bytes := if l.getLast? == some stop then l.dropLast else l
    let texts := taken.map fun l => Raw.text ((if o.has 't' then bare l else l).filter (· != 0))
    let name := o.operands.headD "MAPFILE"
    let first := (number 'O').getD 0
    let row : Row := if o.has 'O' then (s.row? name).getD {} else {}
    let placed := (List.range texts.length).zip texts
    let row := placed.foldl (fun (row : Row) (n, t) => row.set (toString (first + n)) t) row
    let left (source : Nat × Bytes) : Nat × Bytes :=
      if source.1 = stream then (stream, rest) else source
    let s := if stream = 0 then { s with input := rest }
      else { s with sources := s.sources.map left }
    ([], (s.setRow name row).finish 0)

/-! ## Options of the arguments -/

/-- Takes the next option of the arguments. Where the letters begin with a colon, nothing is said
about an option that is wrong; its letter becomes the value instead. -/
def nextOption (args : List String) (s : Session) : Printed × Session :=
  match args with
  | letters :: name :: rest =>
    let words := if rest.isEmpty then s.arguments else rest
    let index := ((s.value? "OPTIND").bind String.toNat?).getD 1
    let place := ((s.value? "OPTPLACE").bind String.toNat?).getD 1
    let set (s : Session) (index place : Nat) : Session :=
      (s.setVariable "OPTIND" (toString index)).setVariable "OPTPLACE" (toString place)
    let stop (index : Nat) : Printed × Session :=
      ([], ((set s index 1).setVariable name "?").finish 1)
    let isSilent := letters.toList.head? == some ':'
    match (words[index - 1]?).map String.toList with
    | some ('-' :: c :: cs) =>
      if c :: cs == ['-'] then stop (index + 1)
      else
        match (c :: cs)[place - 1]? with
        | none => stop index
        | some letter =>
          let isLast := (c :: cs).length ≤ place
          let shown := String.singleton letter
          let next := if isLast then set s (index + 1) 1 else set s index (place + 1)
          let valued (s : Session) (value : String) : Printed × Session :=
            ([], ((s.setVariable name shown).setVariable "OPTARG" value).finish 0)
          let wrong (mark extended plain : String) : Printed × Session :=
            if isSilent then
              ([], ((next.setVariable name mark).setVariable "OPTARG" shown).finish 0)
            else
              (err (if s.isBash then s.name ++ ": " ++ extended ++ "\n" else plain ++ "\n"),
                ((next.setVariable name "?").unset "OPTARG").finish 0)
          match letters.toList.dropWhile (· != letter), (c :: cs).drop place, words[index]? with
          | _ :: ':' :: _, d :: ds, _ => valued (set s (index + 1) 1) (String.ofList (d :: ds))
          | _ :: ':' :: _, [], some value => valued (set s (index + 2) 1) value
          | _ :: ':' :: _, [], none =>
            wrong ":" ("option requires an argument -- " ++ shown) ("No arg for -" ++ shown ++
              " option")
          | _ :: _, _, _ => ([], ((next.setVariable name shown).unset "OPTARG").finish 0)
          | [], _, _ => wrong "?" ("illegal option -- " ++ shown) ("Illegal option -" ++ shown)
    | _ => stop index
  | _ => ([], s.finish 2)

end Builtin

end Scaffold.Script

/-!
## Passing — programs that run others

Such a program hands arguments and variables on. The arguments stand behind its own options, or come
from its input, all at once, in groups, or one at a time in place of a mark.
-/

namespace Scaffold.Script

/-- The arguments that lines and words of an input give. -/
def inputArguments (byLine : Bool) (input : Bytes) : List String :=
  if byLine then
    (Occurrences.split [(0 : UInt8)] input).map Raw.text |>.filter (!·.isEmpty)
  else Utility.words (Raw.text input)

/-- The variables that the arguments of a program that sets them leave, and the other arguments. -/
def environmentOf : List String → List (String × String) →
    List (String × String) × List String
  | "-i" :: args, _ | "-" :: args, _ => environmentOf args []
  | "-u" :: name :: args, given => environmentOf args (given.filter (·.1 != name))
  | arg :: args, given =>
    match Builtin.named arg with
    | (name, some value) =>
      let set (v : String × String) : String × String := if v.1 == name then (name, value) else v
      environmentOf args
        (if given.any (·.1 == name) then given.map set else given ++ [(name, value)])
    | _ => (given, arg :: args)
  | [], given => (given, [])

/-- Arguments in groups of so many. -/
def inGroups (size : Nat) : Nat → List String → List (List String)
  | 0, _ | _, [] => []
  | fuel + 1, args => args.take size :: inGroups size fuel (args.drop size)

/-- A text with another one in place of a mark. -/
def insteadOf (mark by_ text : String) : String := by_.intercalate (text.splitOn mark)

/-- The options of a program that calls another one for arguments of its input: how many it hands
over at once, the mark that an argument takes the place of, whether zeros end arguments, and the
rest. -/
def callOptions : List String → Option Nat × Option String × Bool × List String
  | [] => (none, none, false, [])
  | "-n" :: n :: rest =>
    let (_, mark, zero, rest) := callOptions rest
    (n.toNat?, mark, zero, rest)
  | "-I" :: mark :: rest =>
    let (size, _, zero, rest) := callOptions rest
    (size, some mark, zero, rest)
  | "-0" :: rest =>
    let (size, mark, _, rest) := callOptions rest
    (size, mark, true, rest)
  | "-r" :: rest => callOptions rest
  | a :: rest =>
    match a.toList with
    | '-' :: 'n' :: n =>
      let (_, mark, zero, rest) := callOptions rest
      ((String.ofList n).toNat?, mark, zero, rest)
    | '-' :: 'I' :: mark =>
      let (size, _, zero, rest) := callOptions rest
      (size, some (String.ofList mark), zero, rest)
    | _ => (none, none, false, a :: rest)

end Scaffold.Script

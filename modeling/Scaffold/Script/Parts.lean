import Scaffold.Script.Utility

/-!
# Parts — programs that print the start or the end of what they read

A part has so many lines or bytes, or all but so many. Older forms of the options are a number
behind a dash with letters behind it.
-/

set_option autoImplicit false

namespace Scaffold.Script

namespace Parts

/-- How much of a content is printed, counted from its start or its end. -/
structure Amount where
  isLines : Bool := true
  /-- From the other end: all but so much. -/
  isRest : Bool := false
  count : Nat := 10

/-- Why there is no amount. -/
inductive Fault
  | noNumber (what text : String)
  | misplaced (digit : Char)
  | trailing (text : String)

/-- The amount that options ask for; a sign in front of a number may ask for the rest, and another
one may mean nothing. -/
def amountOf (o : Settings) (restSign idleSign : Char) : Except Fault Amount := do
  let read (isLines : Bool) (text : String) : Except Fault Amount := do
    let (isRest, number) := match text.toList with
      | c :: rest => if c == restSign then (true, rest) else
        (false, if c == idleSign then rest else c :: rest)
      | [] => (false, [])
    match Utility.count? (String.ofList number) with
    | some count => return ⟨isLines, isRest, count⟩
    | none => throw (.noNumber (if isLines then "lines" else "bytes") (String.ofList number))
  match o.given.find? (·.1.isDigit), o.value? 'ψ' with
  | some (digit, _), _ => throw (.misplaced digit)
  | none, some text => throw (.trailing text)
  | none, none =>
    match (o.given.filter fun (c, _) => c == 'c' || c == 'n').getLast? with
    | some (c, text) => read (c == 'n') text
    | none => return {}

/-- The letters behind an older form of a number, as options. -/
def olderLetters (number : List Char) : List Char → List String
  | [] => ["-n", String.ofList number]
  | 'c' :: _ => ["-c", String.ofList number]
  | 'l' :: rest => olderLetters number rest
  | c :: rest =>
    if ['b', 'k', 'm'].contains c then ["-c", String.ofList (number ++ [c])]
    else if ['q', 'v', 'z'].contains c then
      String.ofList ['-', c] :: olderLetters number rest
    else ["-ψ", String.singleton c]

/-- Brings a number behind a dash into the form of an option. -/
def olderFirst (args : List String) : List String :=
  match args with
  | a :: rest =>
    match a.toList with
    | '-' :: c :: cs =>
      let digits := (c :: cs).takeWhile Char.isDigit
      if digits.isEmpty then args
      else olderLetters digits ((c :: cs).drop digits.length) ++ rest
    | _ => args
  | [] => []

/-- The same where a sign may ask for the rest, and at most one file follows. -/
def olderLast (args : List String) : List String :=
  let isOne := match args with
    | [_] => true
    | [_, b] => !(b.startsWith "-" && b != "-")|| b == "--"
    | [_, b, _] => b == "--"
    | _ => false
  match args with
  | a :: rest =>
    match a.toList with
    | sign :: cs =>
      let digits := cs.takeWhile Char.isDigit
      let letters := cs.drop digits.length
      let isKnown := [[], ['l'], ['c'], ['b']].contains letters
        && !(sign == '-' && (cs.isEmpty || cs == ['c']))
      if !isOne || !isKnown || (sign != '-' && sign != '+') then args
      else
        let number := if digits.isEmpty then ['1', '0'] else digits
        let unit := if letters == ['b'] then ['b'] else []
        let lead := if sign == '+' then ['+'] else []
        (if letters == [] || letters == ['l'] then "-n" else "-c")
          :: String.ofList (lead ++ number ++ unit) :: rest
    | [] => args
  | [] => []

/-- The first part of a content. -/
def Amount.first (a : Amount) (last : UInt8) (b : Bytes) : Bytes :=
  let ls := Utility.linesTo last b
  if a.isLines then (ls.take (if a.isRest then ls.length - a.count else a.count)).flatten
  else b.take (if a.isRest then b.length - a.count else a.count)

/-- The last part of a content. -/
def Amount.last (a : Amount) (last : UInt8) (b : Bytes) : Bytes :=
  let ls := Utility.linesTo last b
  if a.isLines then (ls.drop (if a.isRest then a.count - 1 else ls.length - a.count)).flatten
  else b.drop (if a.isRest then a.count - 1 else b.length - a.count)

/-- Prints a part of every content; of several ones each has a title. -/
def printParts (program : String) (f : UInt8 → Bytes → Bytes) (o : Settings) (input : Bytes)
    (s : Session) : Printed × Session :=
  let paths := if o.operands.isEmpty then ["-"] else o.operands
  let naming := (o.given.filter fun (c, _) => c == 'q' || c == 'v').getLast?.map Prod.fst
  let isTitled := naming == some 'v' || (naming.isNone && 1 < paths.length)
  let one (isFirst : Bool) (path : String) : Printed × Bool :=
    let name := if path == "-" then "standard input" else path
    let head := if isTitled then
        Raw.bytes ((if isFirst then "" else "\n") ++ "==> " ++ name ++ " <==\n")
      else []
    if path != "-" && s.tree.kind? path = some .directory then
      ((1, head) :: err (program ++ ": error reading " ++ Quoting.path path ++ ": Is a directory\n"),
        false)
    else
      match Utility.contentOf (Utility.unopened program) input path s with
      | .error p => (p, false)
      | .ok b => ([(1, head ++ f (if o.has 'z' then 0 else 10) b)], true)
  let results := (List.range paths.length).zip paths |>.map fun (n, path) => one (n = 0) path
  Utility.bad (if results.all (·.2) then 0 else 1) (results.flatMap (·.1)) s

/-- Reports what is wrong with an amount. -/
def report (program : String) (s : Session) : Fault → Printed × Session
  | .noNumber what text =>
    Utility.bad 1 (err (program ++ ": invalid number of " ++ what ++ ": " ++ Quoting.path text
      ++ "\n")) s
  | .misplaced digit =>
    Utility.bad 1 (err (program ++ ": option used in invalid context -- "
      ++ String.singleton digit ++ "\n")) s
  | .trailing text => Tool.misused program ("invalid trailing option -- " ++ text) 1 s

/-- Prints the first lines or bytes. -/
def head : Tool where
  name := "head"
  flags := "qvz"
  valued := "ncψ"
  names := [("bytes", 'c'), ("lines", 'n'), ("quiet", 'q'), ("silent", 'q'), ("verbose", 'v'),
    ("zero-terminated", 'z')]
  prepare := olderFirst
  reads := Tool.readsInput
  run o input s :=
    match amountOf o '-' '-' with
    | .error fault => report "head" s fault
    | .ok amount => printParts "head" amount.first o input s

/-- Prints the last lines or bytes; of no lines there is nothing to read. -/
def tail : Tool where
  name := "tail"
  flags := "fFqvz0123456789"
  valued := "ncsπ"
  names := [("bytes", 'c'), ("lines", 'n'), ("quiet", 'q'), ("silent", 'q'), ("verbose", 'v'),
    ("zero-terminated", 'z'), ("follow", 'f'), ("sleep-interval", 's'), ("pid", 'π')]
  prepare := olderLast
  reads := Tool.readsInput
  run o input s :=
    match amountOf o '+' '-' with
    | .error fault => report "tail" s fault
    | .ok amount =>
      if amount.count = 0 && !amount.isRest then Utility.good [] s
      else printParts "tail" amount.last o input s

/-- The programs on parts. -/
def partTools : List Tool := [head, tail]

end Parts

end Scaffold.Script

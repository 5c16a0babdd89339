import Scaffold.Script.FileUtility
import Scaffold.Script.Pattern

/-!
# Searching — files that an expression is true of

Every file below some starting points is looked at, a directory before what is in it. An expression
says which files are meant and what is done with them; without an action they are printed.
-/

set_option autoImplicit false

namespace Scaffold.Script

namespace Searching

/-- What is asked of a file, or done with it. -/
inductive Expression
  | always (b : Bool)
  /-- The last name fits a pattern. -/
  | name (pattern : String) (ignoresCase : Bool)
  /-- The path fits a pattern. -/
  | path (pattern : String) (ignoresCase : Bool)
  /-- The kind is one of some letters. -/
  | kind (letters : List Char)
  | empty
  /-- The size in bytes compares with a number. -/
  | size (order : Ordering) (count unit : Nat)
  | print (ending : String)
  | printFormat (format : String)
  | delete
  /-- What is below is not looked at. -/
  | prune
  /-- A program is called, for every file or once for all. -/
  | call (args : List String) (isOnce : Bool)
  | not (e : Expression)
  | both (a b : Expression)
  | either (a b : Expression)

/-- What is done with files, in order. -/
inductive Action
  | say (text : String)
  | remove (place : Place) (path : String)
  | call (args : List String)
  /-- The path is added to the arguments of a program that is called at the end. -/
  | collect (args : List String) (path : String)

/-- What is wrong with arguments. -/
inductive Fault
  | unknown (text : String)
  | lacksValue (text : String)
  | unknownKind (text : String)
  | notNumber (option text : String)
  | unclosed
  | unopened
  | missingOperand (text : String)
  deriving DecidableEq, Repr

/-- The wording of a fault. -/
def Fault.message : Fault → String
  | .unknown text => "unknown predicate \x60" ++ text ++ "'"
  | .lacksValue text => "missing argument to \x60" ++ text ++ "'"
  | .unknownKind text => "Unknown argument to -type: " ++ text
  | .notNumber option text =>
    "Expected a positive decimal integer argument to " ++ option ++ ", but got '" ++ text ++ "'"
  | .unclosed =>
    "invalid expression; I was expecting to find a ')' somewhere but did not see one."
  | .unopened => "you have too many ')'"
  | .missingOperand text =>
    "invalid expression; you have used a binary operator '" ++ text
      ++ "' with nothing before it."

/-- What holds for a whole search. -/
structure Bounds where
  least : Nat := 0
  most : Option Nat := none
  /-- A directory comes behind what is in it. -/
  isDeepFirst : Bool := false

/-! ## Reading -/

/-- The characters of a pattern; one behind a backslash stands for itself. -/
def markedOf : List Char → List Marked
  | '\\' :: c :: rest => (c, true) :: markedOf rest
  | c :: rest => (c, false) :: markedOf rest
  | [] => []

/-- The size that a text such as `+3k` asks for. -/
def sizeOf? (text : String) : Option Expression :=
  let (order, cs) : Ordering × List Char := match text.toList with
    | '+' :: rest => (.gt, rest)
    | '-' :: rest => (.lt, rest)
    | rest => (.eq, rest)
  let digits := cs.takeWhile Char.isDigit
  let unit : Option Nat := match cs.drop digits.length with
    | ['c'] => some 1
    | ['w'] => some 2
    | ['k'] => some 1024
    | ['M'] => some 1048576
    | ['b'] | [] => some 512
    | _ => none
  match (String.ofList digits).toNat?, unit with
  | some n, some unit => some (.size order n unit)
  | _, _ => none

/-- Reads a test or an action that is no operator. -/
def primary (word : String) (rest : List String) : Except Fault (Expression × List String) :=
  let valued (f : String → Except Fault Expression) : Except Fault (Expression × List String) :=
    match rest with
    | [] => .error (.lacksValue word)
    | value :: rest => (f value).map (·, rest)
  match word with
  | "-name" => valued fun v => .ok (.name v false)
  | "-iname" => valued fun v => .ok (.name v true)
  | "-path" | "-wholename" => valued fun v => .ok (.path v false)
  | "-ipath" => valued fun v => .ok (.path v true)
  | "-type" => valued fun v =>
    let letters := (v.splitOn ",").flatMap String.toList
    if !letters.isEmpty && letters.all ['f', 'd', 'l', 'b', 'c', 'p', 's'].contains then
      .ok (.kind letters)
    else .error (.unknownKind v)
  | "-size" => valued fun v => (sizeOf? v).elim (.error (.unknown v)) .ok
  | "-perm" | "-user" | "-group" | "-newer" | "-mtime" | "-mmin" =>
    valued fun _ => .ok (.always false)
  | "-empty" => .ok (.empty, rest)
  | "-true" | "-xdev" | "-mount" => .ok (.always true, rest)
  | "-false" => .ok (.always false, rest)
  | "-print" => .ok (.print "\n", rest)
  | "-print0" => .ok (.print "\x00", rest)
  | "-printf" => valued fun v => .ok (.printFormat v)
  | "-delete" => .ok (.delete, rest)
  | "-prune" => .ok (.prune, rest)
  | "-exec" | "-execdir" | "-ok" =>
    let isEnd (a : String) : Bool := a == ";" || a == "+"
    let args := rest.takeWhile (!isEnd ·)
    match rest.drop args.length with
    | [] => .error (.lacksValue word)
    | sign :: more =>
      if args.isEmpty then .error (.lacksValue word)
      else if sign == "+" then
        .ok (.call (args.filter (· != "\x7b\x7d")) true, more)
      else .ok (.call args false, more)
  | word => .error (.unknown word)

mutual

/-- Reads expressions of which one has to hold. -/
def readEither : Nat → List String → Except Fault (Expression × List String)
  | 0, ts => .ok (.always true, ts)
  | fuel + 1, ts => do
    let (a, ts) ← readBoth fuel ts
    match ts with
    | "-o" :: ts | "-or" :: ts | "," :: ts =>
      let (b, ts) ← readEither fuel ts
      return (.either a b, ts)
    | ts => return (a, ts)

/-- Reads expressions that all have to hold. -/
def readBoth : Nat → List String → Except Fault (Expression × List String)
  | 0, ts => .ok (.always true, ts)
  | fuel + 1, ts => do
    let (a, ts) ← readNot fuel ts
    match ts with
    | [] | ")" :: _ | "-o" :: _ | "-or" :: _ | "," :: _ => return (a, ts)
    | "-a" :: ts | "-and" :: ts | ts =>
      let (b, ts) ← readBoth fuel ts
      return (.both a b, ts)

/-- Reads an expression with what is in front of it. -/
def readNot : Nat → List String → Except Fault (Expression × List String)
  | 0, ts => .ok (.always true, ts)
  | fuel + 1, ts =>
    match ts with
    | [] => .error (.missingOperand "-a")
    | "!" :: ts | "-not" :: ts => do
      let (a, ts) ← readNot fuel ts
      return (.not a, ts)
    | "(" :: ts => do
      let (a, ts) ← readEither fuel ts
      match ts with
      | ")" :: ts => return (a, ts)
      | _ => throw .unclosed
    | "-o" :: _ => .error (.missingOperand "-o")
    | "-a" :: _ => .error (.missingOperand "-a")
    | word :: rest => primary word rest

end

/-- The bounds that options set, and the other arguments. -/
def boundsOf : List String → Except Fault (Bounds × List String)
  | "-maxdepth" :: rest =>
    match rest with
    | [] => .error (.lacksValue "-maxdepth")
    | n :: rest => do
      let (b, ts) ← boundsOf rest
      match n.toNat? with
      | some n => return ({ b with most := some n }, ts)
      | none => throw (.notNumber "-maxdepth" n)
  | "-mindepth" :: rest =>
    match rest with
    | [] => .error (.lacksValue "-mindepth")
    | n :: rest => do
      let (b, ts) ← boundsOf rest
      match n.toNat? with
      | some n => return ({ b with least := n }, ts)
      | none => throw (.notNumber "-mindepth" n)
  | "-depth" :: rest => do
    let (b, ts) ← boundsOf rest
    return ({ b with isDeepFirst := true }, ts)
  | word :: rest => do
    let (b, ts) ← boundsOf rest
    return ({ b with isDeepFirst := b.isDeepFirst || word == "-delete" }, word :: ts)
  | [] => .ok ({}, [])

/-- The expression has an action. -/
def Expression.acts : Expression → Bool
  | .print _ | .printFormat _ | .delete | .call .. => true
  | .not e => e.acts
  | .both a b | .either a b => a.acts || b.acts
  | _ => false

/-- The expression of arguments; without an action, the files that it is true of are printed. -/
def read (ts : List String) : Except Fault Expression := do
  if ts.isEmpty then return .print "\n"
  let (e, rest) ← readEither (4 * ts.length + 4) ts
  if !rest.isEmpty then throw .unopened
  return if e.acts then e else .both e (.print "\n")

/-! ## Searching -/

/-- A file that is looked at. -/
structure Found where
  path : String
  place : Place
  entry : Entry
  depth : Nat

/-- The letter of the kind of an entry. -/
def kindLetter : Entry → Char
  | .directory => 'd'
  | .file _ => 'f'
  | .link _ => 'l'

/-- The last name of a path as patterns see it. -/
def nameOf (path : String) : String := Utility.lastName path

/-- The size of a file in bytes. -/
def sizeOf (f : Found) : Nat :=
  match f.entry with
  | .file content => content.length
  | .link linked => linked.length
  | .directory => 4096

/-- The text of a format about a file. -/
def formatted (f : Found) : List Char → List Char
  | '%' :: c :: rest =>
    let text := match c with
      | 'p' => f.path
      | 'f' => nameOf f.path
      | 'h' => (Path.ancestors f.path |>.drop 1).headD "."
      | 'y' => String.singleton (kindLetter f.entry)
      | 's' => toString (sizeOf f)
      | 'd' => toString f.depth
      | '%' => "%"
      | c => String.ofList ['%', c]
    text.toList ++ formatted f rest
  | '\\' :: 'n' :: rest => '\n' :: formatted f rest
  | '\\' :: 't' :: rest => '\t' :: formatted f rest
  | '\\' :: '0' :: rest => '\x00' :: formatted f rest
  | '\\' :: '\\' :: rest => '\\' :: formatted f rest
  | c :: rest => c :: formatted f rest
  | [] => []

/-- The pattern fits a text. -/
def fits (ignoresCase : Bool) (pattern text : String) : Bool :=
  let fold (t : String) : String := if ignoresCase then t.map Char.toLower else t
  Pattern.fits (markedOf (fold pattern).toList) (fold text).toList

/-- The value of an expression, what is done, and whether what is below is left out. -/
def evaluate (t : FileTree) (f : Found) : Expression → Bool × List Action × Bool
  | .always b => (b, [], false)
  | .name pattern ignoresCase => (fits ignoresCase pattern (nameOf f.path), [], false)
  | .path pattern ignoresCase => (fits ignoresCase pattern f.path, [], false)
  | .kind letters => (letters.contains (kindLetter f.entry), [], false)
  | .empty =>
    (match f.entry with
      | .directory => (t.names f.place).isEmpty
      | .file content => content.isEmpty
      | .link _ => false, [], false)
  | .size order count unit =>
    let units := (sizeOf f + unit - 1) / unit
    (compare units count == order, [], false)
  | .print ending => (true, [.say (f.path ++ ending)], false)
  | .printFormat format => (true, [.say (String.ofList (formatted f format.toList))], false)
  | .delete => (true, if f.path == "." then [] else [.remove f.place f.path], false)
  | .prune => (true, [], true)
  | .call args isOnce =>
    if isOnce then (true, [.collect args f.path], false)
    else (true, [.call (args.map fun a => f.path.intercalate (a.splitOn "\x7b\x7d"))], false)
  | .not e =>
    let (b, actions, prunes) := evaluate t f e
    (!b, actions, prunes)
  | .both a b =>
    let (x, as, p) := evaluate t f a
    if x then
      let (y, bs, q) := evaluate t f b
      (y, as ++ bs, p || q)
    else (false, as, p)
  | .either a b =>
    let (x, as, p) := evaluate t f a
    if x then (true, as, p)
    else
      let (y, bs, q) := evaluate t f b
      (y, as ++ bs, p || q)

/-- What is done with a file and all below it. -/
def actionsFrom (t : FileTree) (b : Bounds) (e : Expression) : Nat → Found → List Action
  | 0, _ => []
  | fuel + 1, f =>
    let (_, actions, prunes) := if b.least ≤ f.depth then evaluate t f e else (false, [], false)
    let goesOn := f.entry = .directory && b.most.all (f.depth < ·) && (!prunes || b.isDeepFirst)
    let names := if goesOn then (t.names f.place).mergeSort fun a b => a ≤ b else []
    let inner := names.flatMap fun n =>
      match t.entry? (f.place ++ [n]) with
      | some entry =>
        actionsFrom t b e fuel ⟨Path.join f.path n, f.place ++ [n], entry, f.depth + 1⟩
      | none => []
    if b.isDeepFirst then inner ++ actions else actions ++ inner

/-- What arguments ask for: actions and the reports of starting points that are not there. -/
def search (args : List String) (s : Session) : Except Fault (List Action × Printed) := do
  let isStart (a : String) : Bool :=
    match a.toList with
    | '-' :: _ :: _ => false
    | _ => a != "!" && a != "(" && a != ")" && a != ","
  let starts := args.takeWhile isStart
  let (bounds, rest) ← boundsOf (args.drop starts.length)
  let e ← read rest
  let results := (if starts.isEmpty then ["."] else starts).map fun path =>
    match s.tree.namedPlace path with
    | .error fault =>
      (([] : List Action), err ("find: '" ++ path ++ "': " ++ plainFault fault ++ "\n"))
    | .ok place =>
      match s.tree.entry? place with
      | some entry =>
        (actionsFrom s.tree bounds e (s.tree.entries.length + 1) ⟨path, place, entry, 0⟩, [])
      | none => ([], [])
  return (results.flatMap Prod.fst, results.flatMap Prod.snd)

/-- The programs that are called at the end, with all paths collected for them. -/
def collected : List Action → List (List String)
  | [] => []
  | .collect args path :: more =>
    match collected more with
    | call :: calls =>
      if args.isPrefixOf call then (args ++ path :: call.drop args.length) :: calls
      else (args ++ [path]) :: call :: calls
    | [] => [args ++ [path]]
  | _ :: more => collected more

end Searching

end Scaffold.Script

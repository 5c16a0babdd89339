import Scaffold.Occurrences
import Scaffold.Script.Awk.Datum
import Scaffold.Script.Occurrence
import Scaffold.Script.Session

/-!
# State — a program while it goes through records

The record is known as a whole and in fields; a change of one side changes the other. Output is kept
back until a command is run or the program ends.
-/

set_option autoImplicit false

namespace Scaffold.Script.Awk

/-- What a name stands for. -/
inductive Binding
  | value (d : Datum)
  | table (id : Nat)
  deriving Inhabited

/-- Where output is sent that is not the output of the program. -/
structure Writer where
  name : String
  /-- A command gets it when it is closed. -/
  isCommand : Bool
  /-- What the command is to get, in pieces, the last one first. -/
  pending : List Bytes := []

/-- Runs a command with an input: what it prints, and the session behind it. -/
abbrev Shell := String → Bytes → Session → Printed × Session

/-- The state of a program. -/
structure State where
  program : Program
  shell : Shell
  session : Session
  globals : List (String × Binding) := []
  /-- The parameters of the running function. -/
  locals : List (String × Binding) := []
  tables : Array Table := #[]
  record : String := ""
  fields : Array Datum := #[]
  /-- The place of the next argument to read. -/
  argument : Nat := 1
  /-- What is left of the file that is read. -/
  current : Option (List Char) := none
  /-- An argument has named a file. -/
  hasFile : Bool := false
  /-- All records are read. -/
  isDone : Bool := false
  /-- What is left of the input. -/
  input : List Char
  /-- The input was read. -/
  tookInput : Bool := false
  /-- What is left of other files and of the output of commands. -/
  readers : List (String × List Char) := []
  writers : List Writer := []
  /-- The rules whose range has begun. -/
  active : List Nat := []
  patterns : List (String × Expression) := []
  /-- Output that is kept back, the last piece first. -/
  kept : List Bytes := []
  printed : Printed := []
  status : Nat := 0
  seed : Nat := 0
  random : Nat := 1
  /-- How many functions are running. -/
  depth : Nat := 0

/-- Why statements are left. -/
inductive Stop
  | next
  | nextFile
  | exit
  | return (v : Datum)
  | leave
  | again
  | failed (text : String)

/-- A computation of a program. -/
abbrev Run := EStateM Stop State

namespace Run

/-- The text of a number of records or fields. -/
def countText (d : Datum) : String := d.toText "%.6g"

/-- The text of a global variable. -/
def globalText (s : State) (name : String) : String :=
  match s.globals.lookup name with
  | some (.value d) => countText d
  | _ => ""

/-- Ends the program with a report. -/
def fails {α : Type} (text : String) : Run α := throw (.failed text)

/-- Ends the program on account of what it does with its records. -/
def failsRunning {α : Type} (text : String) : Run α := do
  let s ← get
  fails ("run time error: " ++ text ++ "\n\tFILENAME=\"" ++ globalText s "FILENAME" ++ "\" FNR="
    ++ globalText s "FNR" ++ " NR=" ++ globalText s "NR")

/-! ## Names -/

/-- Binds a name in a list of names. -/
def bound (name : String) (b : Binding) (names : List (String × Binding)) :
    List (String × Binding) :=
  if names.any (·.1 == name) then
    names.map fun entry => if entry.1 == name then (name, b) else entry
  else names ++ [(name, b)]

/-- What a name stands for. -/
def binding? (name : String) : Run (Option Binding) := do
  let s ← get
  return s.locals.lookup name <|> s.globals.lookup name

/-- Binds a name, the one of the running function if it has it. -/
def bind (name : String) (b : Binding) : Run Unit :=
  modify fun s =>
    if s.locals.any (·.1 == name) then { s with locals := bound name b s.locals }
    else { s with globals := bound name b s.globals }

/-- The table of a name, which is made if there is none. -/
def tableOf (name : String) : Run Nat := do
  match ← binding? name with
  | some (.table id) => return id
  | _ => do
    let id := (← get).tables.size
    modify fun s => { s with tables := s.tables.push {} }
    bind name (.table id)
    return id

/-- A table. -/
def table (id : Nat) : Run Table := do return ((← get).tables[id]?).getD {}

/-- Changes a table. -/
def setTable (id : Nat) (t : Table) : Run Unit :=
  modify fun s => { s with tables := s.tables.setIfInBounds id t }

/-! ## Patterns -/

/-- A character as it stands for itself in an extended pattern. -/
def literal (c : Char) : List Char :=
  if ['\\', '[', ']', '(', ')', '.', '*', '+', '?', '|', '^', '$', '\x7b', '\x7d'].contains c then
    ['\\', c]
  else [c]

/-- A character as it stands for itself in a set. -/
def member (c : Char) : List Char :=
  if ['\\', '[', ']', '^', '-'].contains c then ['[', '.', c, '.', ']'] else [c]

/-- The character that a backslash and what follows spell. -/
def spelled (c : Char) (rest : List Char) : Char × List Char :=
  match Escapes.letters.lookup c with
  | some b => (Char.ofNat b.toNat, rest)
  | none =>
    if '0' ≤ c && c ≤ '7' then
      let (n, rest) := (spelledNumber 8 3 (c :: rest)).getD (0, rest)
      (Char.ofNat (n % 256), rest)
    else (c, rest)

/-- A pattern in which a backslash in front of any character spells one, without such spellings. -/
def extended : Nat → Bool → List Char → List Char
  | 0, _, _ | _, _, [] => []
  | fuel + 1, inSet, '\\' :: c :: rest =>
    let (c, rest) := spelled c rest
    (if inSet then member c else literal c) ++ extended fuel inSet rest
  | _, _, ['\\'] => ['\\', '\\']
  | fuel + 1, true, '[' :: ':' :: rest =>
    let name := rest.takeWhile (· != ':')
    '[' :: ':' :: name ++ (rest.drop name.length).take 2
      ++ extended fuel true (rest.drop (name.length + 2))
  | fuel + 1, true, ']' :: rest => ']' :: extended fuel false rest
  | fuel + 1, false, '[' :: '^' :: ']' :: rest => '[' :: '^' :: ']' :: extended fuel true rest
  | fuel + 1, false, '[' :: ']' :: rest => '[' :: ']' :: extended fuel true rest
  | fuel + 1, false, '[' :: '^' :: rest => '[' :: '^' :: extended fuel true rest
  | fuel + 1, false, '[' :: rest => '[' :: extended fuel true rest
  | fuel + 1, inSet, c :: rest => c :: extended fuel inSet rest

/-- How patterns are written. -/
def style : Expression.Style :=
  { isExtended := true, hasLooseCounts := true, hasLooseClose := true, hasEmptyRanges := true
    lead := .fault }

/-- What follows a set behind the bracket that opens it. -/
def behindSet : List Char → List Char
  | '[' :: c :: rest =>
    if c == ':' || c == '.' then
      match rest with
      | d :: rest => behindSet (d :: rest)
      | [] => []
    else behindSet (c :: rest)
  | ']' :: rest => rest
  | _ :: rest => behindSet rest
  | [] => []

/-- A branch or a group of a pattern is empty; `waits` says that an operand has to follow. -/
def lacksOperand : Nat → Bool → List Char → Bool
  | 0, _, _ => false
  | _, waits, [] => waits
  | fuel + 1, _, '\\' :: _ :: rest => lacksOperand fuel false rest
  | fuel + 1, _, '[' :: '^' :: ']' :: rest => lacksOperand fuel false (behindSet rest)
  | fuel + 1, _, '[' :: ']' :: rest => lacksOperand fuel false (behindSet rest)
  | fuel + 1, _, '[' :: rest => lacksOperand fuel false (behindSet rest)
  | fuel + 1, _, '(' :: rest => lacksOperand fuel true rest
  | fuel + 1, waits, '|' :: rest => waits || lacksOperand fuel true rest
  | fuel + 1, waits, ')' :: rest => waits || lacksOperand fuel false rest
  | fuel + 1, _, _ :: rest => lacksOperand fuel false rest

/-- The wording of a fault of a pattern. -/
def faultText : Expression.Fault → String
  | .openGroup => "missing ')'"
  | .strayClose => "missing '('"
  | .openSet | .noSet | .unknownClass => "bad class -- [], [^] or ["
  | _ => "missing operand"

/-- The pattern that a text spells, or why it spells none. -/
def patternOf (text : String) : Except Fault Expression :=
  let cs := extended (text.length + 1) false text.toList
  match Expression.ofText style (String.ofList cs) with
  | .ok e =>
    if cs.head? == some '|' || lacksOperand (cs.length + 1) false cs then
      .error (.badPattern 1 (faultText .badRepetition) text)
    else .ok e
  | .error fault => .error (.badPattern 1 (faultText fault) text)

/-- The pattern that a text spells; patterns are kept. -/
def pattern (text : String) : Run Expression := do
  match (← get).patterns.lookup text with
  | some e => return e
  | none =>
    match patternOf text with
    | .ok e => do
      modify fun s => { s with patterns := ((text, e) :: s.patterns).take 50 }
      return e
    | .error (.badPattern _ reason text) =>
      failsRunning ("regular expression compile failed (" ++ reason ++ ")\n" ++ text)
    | .error fault => fails fault.message

/-! ## Fields -/

/-- A blank between fields. -/
def isBlank (c : Char) : Bool := c == ' ' || c == '\t' || c == '\n'

/-- The pieces of a text between matches of a pattern that are not empty. -/
def piecesBetween (e : Expression) (text : String) : List String :=
  let cs := text.toList.toArray
  let (pieces, start) := (e.findAll cs).foldl (fun (pieces, start) m =>
    match m.group? 0 with
    | some (b, f) =>
      if b < f then (String.ofList (cs.extract start b).toList :: pieces, f) else (pieces, start)
    | none => (pieces, start)) (([] : List String), 0)
  (String.ofList (cs.extract start cs.size).toList :: pieces).reverse

/-- The fields of a text between separators; line ends may separate them as well. -/
def split (separator text : String) (atLines : Bool) : Run (List String) := do
  if text.isEmpty then return []
  else
    match separator.toList with
    | [' '] => return (text.splitToList isBlank).filter (!·.isEmpty)
    | [] => return text.toList.map String.singleton
    | [c] => return text.splitToList fun d => d == c || (atLines && d == '\n')
    | _ => do
      let e ← pattern (if atLines then "(" ++ separator ++ ")|\n" else separator)
      return piecesBetween e text

/-- The text of a variable. -/
def textOf (name : String) : Run String := do
  return match (← get).globals.lookup name with
    | some (.value d) => d.toText "%.6g"
    | _ => ""

/-- The text of a value in concatenations. -/
def joined (d : Datum) : Run String :=
  match d with
  | .number _ => do return d.toText (← textOf "CONVFMT")
  | d => pure (d.toText "")

/-- Takes a text as the record. -/
def setRecord (text : String) : Run Unit := do
  let parts ← split (← textOf "FS") text ((← textOf "RS").isEmpty)
  modify fun s => { s with record := text, fields := (parts.map Datum.given).toArray }

/-- Puts the record together from its fields. -/
def joinFields : Run Unit := do
  let separator ← textOf "OFS"
  let texts ← (← get).fields.toList.mapM joined
  modify fun s => { s with record := separator.intercalate texts }

/-- The value of a field. -/
def field (n : Int) : Run Datum := do
  match n with
  | .ofNat 0 => return .given (← get).record
  | .ofNat (n + 1) => return ((← get).fields[n]?).getD .absent
  | n => failsRunning ("negative field index $" ++ toString n)

/-- The most fields that are made. -/
def maxFields : Nat := 100000

/-- Fields in such a number; new ones are empty. -/
def resized (n : Nat) (fields : Array Datum) : Array Datum :=
  let n := min n maxFields
  if n ≤ fields.size then fields.extract 0 n
  else fields ++ Array.replicate (n - fields.size) (Datum.text "")

/-- Sets a field. -/
def setField (n : Int) (v : Datum) : Run Unit := do
  match n with
  | .ofNat 0 => do setRecord (← joined v)
  | .ofNat (n + 1) => do
    modify fun s =>
      let fields := if s.fields.size ≤ n then resized (n + 1) s.fields else s.fields
      { s with fields := fields.setIfInBounds n v }
    joinFields
  | n => failsRunning ("negative field index $" ++ toString n)

/-- The value of a variable. -/
def variable_ (name : String) : Run Datum := do
  match ← binding? name with
  | some (.value d) => return d
  | some (.table _) => fails ("line 1: illegal reference to array " ++ name)
  | none => do
    let s ← get
    return if name == "NF" then .number (Float.ofNat s.fields.size) else .absent

/-- Sets a variable. -/
def setVariable (name : String) (v : Datum) : Run Unit := do
  match ← binding? name with
  | some (.table _) => fails ("line 1: illegal reference to array " ++ name)
  | _ =>
    if name == "NF" && !(← get).locals.any (·.1 == name) then
      match wholePart v.toNumber with
      | .ofNat n => do
        modify fun s => { s with fields := resized n s.fields }
        joinFields
      | _ => failsRunning "negative value assigned to NF"
    else bind name (.value v)

/-! ## Output -/

/-- What is kept back is printed. -/
def flush : Run Unit := modify fun s =>
  if s.kept.isEmpty then s
  else { s with printed := s.printed ++ [(1, s.kept.reverse.flatten)], kept := [] }

/-- Runs a command with an input; its output is that of the program, or is handed back. -/
def command (text : String) (input : Bytes) (captures : Bool) : Run (Bytes × Nat) := do
  flush
  let s ← get
  let (p, session) := s.shell text input s.session
  let output := (p.filter (·.1 = 1)).flatMap Prod.snd
  let shown := if captures then p.filter (·.1 != 1) else p
  set { s with printed := s.printed ++ shown, session }
  return (output, session.status)

/-- Ends a place of output; the command gets what was printed. -/
def closeWriter (w : Writer) : Run Nat := do
  if w.isCommand then
    let (_, status) ← command w.name w.pending.reverse.flatten false
    return status
  else return 0

/-- Prints to a place. -/
def send (kind : Redirection) (name : String) (b : Bytes) : Run Unit := do
  let writers := (← get).writers
  if kind = .command then
    match writers.find? fun w => w.isCommand && w.name == name with
    | some w =>
      let others := writers.filter fun w => !(w.isCommand && w.name == name)
      modify fun s => { s with writers := { w with pending := b :: w.pending } :: others }
    | none => do
      flush
      modify fun s => { s with writers := ⟨name, true, [b]⟩ :: s.writers }
  else if name == "/dev/stdout" || name == "-" then modify fun s => { s with kept := b :: s.kept }
  else if name == "/dev/stderr" then modify fun s => { s with printed := s.printed ++ [(2, b)] }
  else if name == "/dev/null" then return ()
  else
    let isOpen := writers.any fun w => !w.isCommand && w.name == name
    let tree := (← get).session.tree
    let before := match tree.read name with
      | .ok before => if isOpen || kind = .append then before else []
      | .error _ => []
    match tree.write name (before ++ b) with
    | .ok tree =>
      modify fun s =>
        let session := { s.session with tree }
        if isOpen then { s with session }
        else { s with session, writers := ⟨name, false, []⟩ :: s.writers }
    | .error fault =>
      fails ("cannot open \"" ++ name ++ "\" for output (" ++ plainFault fault ++ ")")

/-! ## Input -/

/-- The first record of a text and what follows it; none if there is no record. -/
def cutRecord (separator : String) (text : List Char) :
    Run (Option (String × List Char)) := do
  match text, separator.toList with
  | [], _ => return none
  | text, [c] =>
    let record := text.takeWhile (· != c)
    let rest := text.drop (record.length + 1)
    -- an end of the last line alone is no record
    return some (String.ofList record, rest)
  | text, [] =>
    let text := text.dropWhile (· == '\n')
    if text.isEmpty then return none
    else
      match Occurrences.cut ['\n', '\n'] text with
      | some (record, rest) =>
        return some (String.ofList record, rest.dropWhile (· == '\n'))
      | none =>
        let record := if text.getLast? == some '\n' then text.dropLast else text
        return some (String.ofList record, [])
  | text, _ => do
    let e ← pattern separator
    let cs := text.toArray
    match (e.find? cs 0).bind (·.group? 0) with
    | some (b, f) =>
      if b < f then
        return some (String.ofList (text.take b), text.drop f)
      else return some (String.ofList text, [])
    | none => return some (String.ofList text, [])

/-- Sets a variable by an argument of the program, where escapes are read; a number in it counts. -/
def assignArgument (name text : String) : Run Unit := do
  let cs := text.toList
  let value := ((Token.readText (2 * cs.length + 2) [] (cs ++ ['"'])).map Prod.fst).getD cs
  setVariable name (.given (String.ofList value))

/-- The name and the text of an argument that sets a variable. -/
def assignment? (arg : String) : Option (String × String) :=
  let name := arg.toList.takeWhile fun c => c.isAlphanum || c == '_'
  match name, arg.toList.drop name.length with
  | c :: _, '=' :: value =>
    if c.isDigit then none else some (String.ofList name, String.ofList value)
  | _, _ => none

/-- The text of a file, or of the input. -/
def openFile (path : String) : Run (Except FileFault (List Char)) := do
  let s ← get
  if path == "-" || path == "/dev/stdin" then
    set { s with input := [], tookInput := true }
    return .ok s.input
  else
    return (s.session.content [] path).map fun b => (Raw.text b).toList

/-- Goes on to the next file that an argument names. -/
def nextFile : Nat → Run Unit
  | 0 => modify fun s => { s with isDone := true }
  | fuel + 1 => do
    let count := (wholePart (← variable_ "ARGC").toNumber).toNat
    let s ← get
    if count ≤ s.argument then
      if s.hasFile then modify fun s => { s with isDone := true, current := none }
      else
        modify fun s =>
          { s with hasFile := true, current := some s.input, input := [], tookInput := true }
    else
      let id ← tableOf "ARGV"
      let arg := (((← table id).get? (toString s.argument)).getD .absent).toText "%.6g"
      modify fun s => { s with argument := s.argument + 1 }
      match assignment? arg with
      | some (name, value) => do
        assignArgument name value
        nextFile fuel
      | none =>
        if arg.isEmpty then nextFile fuel
        else
          setVariable "FILENAME" (.text arg)
          setVariable "FNR" (.number 0)
          match ← openFile arg with
          | .ok text => modify fun s => { s with hasFile := true, current := some text }
          | .error fault =>
            fails ("cannot open \"" ++ arg ++ "\" (" ++ plainFault fault ++ ")")

/-- The next record of the files that arguments name. -/
def nextRecord : Nat → Run (Option String)
  | 0 => return none
  | fuel + 1 => do
    if (← get).isDone then return none
    else
      match (← get).current with
      | none => do
        nextFile (fuel + 1)
        nextRecord fuel
      | some text =>
        match ← cutRecord (← textOf "RS") text with
        | some (record, rest) => do
          modify fun s => { s with current := some rest }
          let counted (name : String) : Run Unit := do
            setVariable name (.number ((← variable_ name).toNumber + 1))
          counted "NR"
          counted "FNR"
          return some record
        | none => do
          modify fun s => { s with current := none }
          nextFile (fuel + 1)
          nextRecord fuel

/-- How many arguments may be looked at for the next record. -/
def argumentFuel : Run Nat := do
  return 2 * (wholePart (← variable_ "ARGC").toNumber).toNat + 10

/-- A line of another file or of the output of a command; none if it cannot be read. -/
def readLine (name : String) (isCommand : Bool) : Run (Except FileFault (Option String)) := do
  let key := (if isCommand then "|" else "<") ++ name
  let opened : Except FileFault (List Char) ← match (← get).readers.lookup key with
    | some text => pure (.ok text)
    | none =>
      if isCommand then do
        let (output, _) ← command name (Raw.bytes (String.ofList (← get).input)) true
        pure (.ok (Raw.text output).toList)
      else openFile name
  match opened with
  | .error fault => return .error fault
  | .ok text =>
    let found ← cutRecord (← textOf "RS") text
    let rest := (found.map Prod.snd).getD []
    modify fun s =>
      { s with readers := (key, rest) :: s.readers.filter (·.1 != key) }
    return .ok (found.map Prod.fst)

/-- Closes what has a name; tells how that went. -/
def close (name : String) : Run Int := do
  let s ← get
  match s.writers.find? (·.name == name) with
  | some w => do
    set { s with writers := s.writers.filter (·.name != name) }
    let status ← closeWriter w
    return status
  | none =>
    let isReader (entry : String × List Char) : Bool :=
      entry.1 == "|" ++ name || entry.1 == "<" ++ name
    if s.readers.any isReader then
      set { s with readers := s.readers.filter (!isReader ·) }
      return 0
    else return -1

end Run

end Scaffold.Script.Awk

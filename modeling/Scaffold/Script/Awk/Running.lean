import Scaffold.Script.Awk.State
import Scaffold.Script.Clock
import Scaffold.Script.Utility

/-!
# Running — what expressions and statements do

A number bounds how long statements run. Statements that are left early say why; what they have
changed until then stays changed.
-/

set_option autoImplicit false

namespace Scaffold.Script.Awk

namespace Run

/-! ## Operations -/

/-- A truth value. -/
def truth (b : Bool) : Datum := .number (if b then 1 else 0)

/-- An operation between numbers. -/
def calculate (op : Arithmetic) (x y : Float) : Float :=
  match op with
  | .add => x + y
  | .subtract => x - y
  | .multiply => x * y
  | .divide => x / y
  | .modulo => Decimal.remainder x y
  | .power => Float.pow x y

/-- A comparison by an order. -/
def Relation.holds (op : Relation) (isLess isEqual : Bool) : Bool :=
  match op with
  | .lt => isLess
  | .le => isLess || isEqual
  | .eq => isEqual
  | .ne => !isEqual
  | .gt => !isLess && !isEqual
  | .ge => !isLess

/-- Compares two values: as numbers if both are numbers, and as texts otherwise. -/
def compare (op : Relation) (a b : Datum) : Run Bool := do
  match a.number?, b.number? with
  | some x, some y => return Relation.holds op (x < y) (x == y)
  | _, _ =>
    let s ← joined a
    let t ← joined b
    return Relation.holds op (s < t) (s == t)

/-- The place that several values spell. -/
def placeText (items : List Datum) : Run String := do
  let texts ← items.mapM joined
  return (← textOf "SUBSEP").intercalate texts

/-- Reads the text that replaces a match: an ampersand stands for the match, behind a backslash for
itself. -/
def replacement (found : List Char) : List Char → List Char
  | '\\' :: '&' :: rest => '&' :: replacement found rest
  | '\\' :: '\\' :: rest => '\\' :: replacement found rest
  | '&' :: rest => found ++ replacement found rest
  | c :: rest => c :: replacement found rest
  | [] => []

/-- Replaces the first match or all of them; also how many. -/
def substituted (e : Expression) (all : Bool) (by_ text : String) : String × Nat :=
  let cs := text.toList.toArray
  let found := if all then e.findAll cs else (e.find? cs 0).toList
  let (pieces, start) := found.foldl (fun (pieces, start) m =>
    match m.group? 0 with
    | some (b, f) =>
      let part := (cs.extract b f).toList
      (replacement part by_.toList :: (cs.extract start b).toList :: pieces, f)
    | none => (pieces, start)) (([] : List (List Char)), 0)
  (String.ofList (((cs.extract start cs.size).toList :: pieces).reverse.flatten), found.length)

/-- The nearest whole number; a half goes to the even one. -/
def rounded (x : Float) : Int :=
  match Decimal.Double.ofFloat x with
  | .finite negative b =>
    let n : Int := b.inUnits 0
    if negative then -n else n
  | .infinite negative => if negative then -(Nat.pow 2 63 : Nat) else (Nat.pow 2 63 : Nat)
  | .nan => 0

/-- A part of a text: from a place on, which is counted from one, and so many characters. -/
def part (s : String) (start : Float) (length : Option Float) : String :=
  let first := rounded start
  let last : Int := match length with
    | some n => first + rounded n
    | none => s.length + 1
  let b := max first 1
  String.ofList ((s.toList.take (max last 1 - 1).toNat).drop (b - 1).toNat)

/-- The next number of a row that looks like chance. -/
def nextRandom (n : Nat) : Nat := (n * 16807) % 2147483647

/-! ## Evaluation -/

/-- Sends what an output statement prints. -/
def emit (target : Option (Redirection × String)) (text : String) : Run Unit :=
  match target with
  | none => modify fun s => { s with kept := Raw.bytes text :: s.kept }
  | some (kind, name) => send kind name (Raw.bytes text)

/-- What a function that is called gets for a parameter. -/
def parameter (binding : Option Binding) : Binding := binding.getD (.value .absent)

/-- A value that is nothing yet. -/
def isUnset : Option Binding → Bool
  | none | some (.value .absent) => true
  | _ => false

/-- How deep functions call each other. -/
def maxDepth : Nat := 1000

mutual

/-- The value of an expression. -/
def eval : Nat → Expr → Run Datum
  | 0, _ => fails "the program does not end"
  | fuel + 1, e => do
    match e with
    | .number x => return .number x
    | .text s => return .text s
    | .pattern p => do return truth ((← pattern p).occurs (← get).record)
    | .variable name => variable_ name
    | .cell name place => do
      let place ← placeText (← evalAll fuel place)
      let id ← tableOf name
      let t ← table id
      match t.get? place with
      | some d => return d
      | none => do
        setTable id (t.set place .absent)
        return .absent
    | .field place => do field (wholePart (← eval fuel place).toNumber)
    | .assign target none value => do
      let v ← eval fuel value
      store fuel target v
      return v
    | .assign target (some op) value => do
      let y := (← eval fuel value).toNumber
      let x := (← eval fuel target).toNumber
      let v := Datum.number (calculate op x y)
      store fuel target v
      return v
    | .choice c a b => do
      if (← eval fuel c).isTrue then eval fuel a else eval fuel b
    | .both a b => do
      if (← eval fuel a).isTrue then return truth (← eval fuel b).isTrue else return truth false
    | .either a b => do
      if (← eval fuel a).isTrue then return truth true else return truth (← eval fuel b).isTrue
    | .negation a => do return truth (!(← eval fuel a).isTrue)
    | .isIn place name => do
      let place ← placeText (← evalAll fuel place)
      return truth (((← table (← tableOf name)).get? place).isSome)
    | .fits a p negated => do
      let s ← joined (← eval fuel a)
      return truth ((← patternFor fuel p).occurs s != negated)
    | .relation op a b => do
      let x ← eval fuel a
      let y ← eval fuel b
      return truth (← compare op x y)
    | .concat a b => do
      let s ← joined (← eval fuel a)
      let t ← joined (← eval fuel b)
      return .text (s ++ t)
    | .arithmetic op a b => do
      let x := (← eval fuel a).toNumber
      let y := (← eval fuel b).toNumber
      return .number (calculate op x y)
    | .signed isNegative a => do
      let x := (← eval fuel a).toNumber
      return .number (if isNegative then -x else x)
    | .step target by_ isBefore => do
      let x := (← eval fuel target).toNumber
      store fuel target (.number (x + by_))
      return .number (if isBefore then x + by_ else x)
    | .several [e] => eval fuel e
    | .several items => do return .text (← placeText (← evalAll fuel items))
    | .getline target origin source => readInto fuel target origin source
    | .builtin name args => callBuiltin fuel name args
    | .call name args => callFunction fuel name args

/-- The values of expressions. -/
def evalAll : Nat → List Expr → Run (List Datum)
  | 0, _ | _, [] => return []
  | fuel + 1, e :: es => do
    let v ← eval fuel e
    return v :: (← evalAll fuel es)

/-- The pattern that an expression stands for. -/
def patternFor : Nat → Expr → Run Expression
  | 0, _ => pattern ""
  | fuel + 1, e => do
    match e with
    | .pattern p => pattern p
    | e => do pattern (← joined (← eval fuel e))

/-- Assigns a value to a place. -/
def store : Nat → Expr → Datum → Run Unit
  | 0, _, _ => return ()
  | fuel + 1, target, v => do
    match target with
    | .variable name => setVariable name v
    | .cell name place => do
      let place ← placeText (← evalAll fuel place)
      let id ← tableOf name
      setTable id ((← table id).set place v)
    | .field place => do setField (wholePart (← eval fuel place).toNumber) v
    | _ => return ()

/-- Reads a line into a place or the record: one if there was a line, zero at the end. -/
def readInto : Nat → Option Expr → Origin → Option Expr → Run Datum
  | 0, _, _, _ => return .number (-1)
  | fuel + 1, target, origin, source => do
    let taken (text : String) : Run Datum := do
      match target with
      | some target => store fuel target (.given text)
      | none => setRecord text
      return .number 1
    match origin, source with
    | .records, _ | _, none => do
      match ← nextRecord (← argumentFuel) with
      | some text => taken text
      | none => return .number 0
    | origin, some source => do
      let name ← joined (← eval fuel source)
      match ← readLine name (origin = .command) with
      | .error _ => return .number (-1)
      | .ok none => return .number 0
      | .ok (some text) => taken text

/-- Calls a function that is always there. -/
def callBuiltin : Nat → String → List Expr → Run Datum
  | 0, _, _ => return .absent
  | fuel + 1, name, args => do
    let number (f : Float → Float) : Run Datum := do
      match ← evalAll fuel args with
      | [d] => return .number (f d.toNumber)
      | _ => return .absent
    let text (f : String → String) : Run Datum := do
      match ← evalAll fuel args with
      | [d] => return .text (f (← joined d))
      | _ => return .absent
    match name, args with
    | "length", [] => return .number (Float.ofNat (← get).record.length)
    | "length", [.variable v] => do
      match ← binding? v with
      | some (.table id) => return .number (Float.ofNat (← table id).size)
      | _ => return .number (Float.ofNat (← joined (← variable_ v)).length)
    | "length", [e] => return .number (Float.ofNat (← joined (← eval fuel e)).length)
    | "substr", e :: start :: length => do
      let s ← joined (← eval fuel e)
      let start := (← eval fuel start).toNumber
      let length ← evalAll fuel length
      return .text (part s start (length.head?.map Datum.toNumber))
    | "index", [a, b] => do
      let s ← joined (← eval fuel a)
      let t ← joined (← eval fuel b)
      return .number <| match Occurrences.cut t.toList s.toList with
        | some (before, _) => if s.isEmpty then 0 else Float.ofNat (before.length + 1)
        | none => 0
    | "split", e :: .variable v :: separator => do
      let s ← joined (← eval fuel e)
      let parts ← match separator with
        | [.pattern p] => do
          let e ← pattern p
          pure (if s.isEmpty then [] else piecesBetween e s)
        | [e] => do split (← joined (← eval fuel e)) s false
        | _ => do split (← textOf "FS") s false
      let id ← tableOf v
      setTable id <| ((List.range parts.length).zip parts).foldl (fun t (n, part) =>
        t.set (toString (n + 1)) (.given part)) {}
      return .number (Float.ofNat parts.length)
    | "sub", p :: by_ :: target | "gsub", p :: by_ :: target => do
      let e ← patternFor fuel p
      let by_ ← joined (← eval fuel by_)
      let target := target.headD (.field (.number 0))
      let s ← joined (← eval fuel target)
      let (result, count) := substituted e (name == "gsub") by_ s
      if 0 < count then store fuel target (.text result)
      return .number (Float.ofNat count)
    | "match", [a, p] => do
      let s ← joined (← eval fuel a)
      let e ← patternFor fuel p
      let (start, length) : Float × Float :=
        match (e.find? s.toList.toArray 0).bind (·.group? 0) with
        | some (b, f) => (Float.ofNat (b + 1), Float.ofNat (f - b))
        | none => (0, -1)
      setVariable "RSTART" (.number start)
      setVariable "RLENGTH" (.number length)
      return .number start
    | "sprintf", args => do
      match ← evalAll fuel args with
      | f :: values => return .text (← formatText (← joined f) values "sprintf")
      | [] => return .absent
    | "toupper", _ => text fun s => s.map Char.toUpper
    | "tolower", _ => text fun s => s.map Char.toLower
    | "sin", _ => number Float.sin
    | "cos", _ => number Float.cos
    | "exp", _ => number Float.exp
    | "log", _ => number Float.log
    | "sqrt", _ => number Float.sqrt
    | "int", _ => number fun x =>
      match Decimal.truncated? x with
      | some n => Float.ofInt n
      | none => x
    | "atan2", [a, b] => do
      let y := (← eval fuel a).toNumber
      let x := (← eval fuel b).toNumber
      return .number (Float.atan2 y x)
    | "rand", _ => do
      let n := nextRandom (← get).random
      modify fun s => { s with random := n }
      return .number (Float.ofNat n / 2147483647)
    | "srand", args => do
      let seed := (((← evalAll fuel args).head?.map fun d => wholePart d.toNumber).getD 0).toNat
      let before := (← get).seed
      modify fun s => { s with seed, random := seed % 2147483646 + 1 }
      return .number (Float.ofNat before)
    | "system", [e] => do
      let (_, status) ← command (← joined (← eval fuel e)) [] false
      return .number (Float.ofNat status)
    | "close", [e] => do return .number (Float.ofInt (← close (← joined (← eval fuel e))))
    | "fflush", _ => do
      flush
      return .number 0
    | "systime", _ => return .number 0
    | "strftime", args => do
      let values ← evalAll fuel args
      let format ← match values.head? with
        | some d => joined d
        | none => pure "%c"
      let seconds := ((values[1]?).map fun d => wholePart d.toNumber).getD 0
      return .text (Clock.stamp (Calendar.Moment.ofSeconds seconds) 0 format)
    | "mktime", [e] => do
      let parts := (Utility.words (← joined (← eval fuel e))).map fun t => (t.toInt?).getD 0
      match parts with
      | year :: month :: day :: hour :: minute :: second :: _ =>
        return .number (Float.ofInt (Clock.secondsOf year month day hour minute second))
      | _ => return .number (-1)
    | _, _ => return .absent

/-- Calls a function of the program. A table that it makes of a parameter becomes that of the
variable that it was given. -/
def callFunction : Nat → String → List Expr → Run Datum
  | 0, _, _ => return .absent
  | fuel + 1, name, args => do
    match (← get).program.functions.find? (·.name == name) with
    | none => fails ("function " ++ name ++ " never defined")
    | some f => do
      let bindings ← argumentBindings fuel args
      let outer := (← get).locals
      if maxDepth < (← get).depth then fails "function call nesting too deep"
      let missing := f.parameters.length - bindings.length
      let locals := f.parameters.zip
        (bindings.map (fun b => parameter b.2) ++ List.replicate missing (.value .absent))
      modify fun s => { s with locals, depth := s.depth + 1 }
      let result ← tryCatch
        (do
          exec fuel (.block f.body)
          pure Datum.absent)
        fun
          | .return v => pure v
          | stop => do
            modify fun s => { s with locals := outer, depth := s.depth - 1 }
            throw stop
      let inner := (← get).locals
      modify fun s => { s with locals := outer, depth := s.depth - 1 }
      (f.parameters.zip bindings).forM fun (p, v, before) => do
        match v, inner.lookup p with
        | some v, some (.table id) => if isUnset before then bind v (.table id)
        | _, _ => return ()
      return result

/-- The arguments of a function: of a variable its name and what it stands for, of other expressions
the value. -/
def argumentBindings : Nat → List Expr → Run (List (Option String × Option Binding))
  | 0, _ | _, [] => return []
  | fuel + 1, e :: es => do
    let b ← match e with
      | .variable name => do
        match ← binding? name with
        | none =>
          if name == "NF" then pure (none, some (.value (← variable_ name)))
          else pure (some name, none)
        | b => pure (some name, b)
      | e => do pure (none, some (.value (← eval fuel e)))
    return b :: (← argumentBindings fuel es)

/-- Writes values in a format. -/
def formatText : String → List Datum → String → Run String
  | text, values, name => do
    match format text (← textOf "CONVFMT") values with
    | .ok s => return s
    | .error .tooFew =>
      failsRunning ("not enough arguments passed to " ++ name ++ "(\"" ++ text ++ "\")")
    | .error (.improper n) =>
      failsRunning ("improper conversion(number " ++ toString n ++ ") in " ++ name ++ "(\"" ++ text
        ++ "\")")

/-- Where an output statement leads. -/
def targetOf : Nat → Option (Redirection × Expr) → Run (Option (Redirection × String))
  | 0, _ => return none
  | fuel + 1, target => do
    match target with
    | none => return none
    | some (kind, e) => return some (kind, ← joined (← eval fuel e))

/-- Runs a statement. -/
def exec : Nat → Stmt → Run Unit
  | 0, _ => fails "the program does not end"
  | fuel + 1, s => do
    match s with
    | .expr e => do
      let _ ← eval fuel e
    | .print args target => do
      let text ←
        if args.isEmpty then pure (← get).record
        else do
          let values ← evalAll fuel args
          let conversions ← textOf "OFMT"
          pure ((← textOf "OFS").intercalate (values.map (·.toText conversions)))
      emit (← targetOf fuel target) (text ++ (← textOf "ORS"))
    | .printf args target => do
      match ← evalAll fuel args with
      | [] => return ()
      | f :: values =>
        let text ← formatText (← joined f) values "printf"
        emit (← targetOf fuel target) text
    | .choice c yes no => do
      if (← eval fuel c).isTrue then exec fuel yes
      else match no with
        | some no => exec fuel no
        | none => return ()
    | .while c body => repeatWhile fuel (some c) body none
    | .until body c => do
      if ← round fuel body then repeatWhile fuel (some c) body none
    | .loop start c step body => do
      match start with
      | some start => exec fuel start
      | none => pure ()
      repeatWhile fuel c body step
    | .each name table body => do
      let places := (← Run.table (← tableOf table)).places
      eachPlace fuel name places body
    | .block body => execAll fuel body
    | .next => throw .next
    | .nextFile => throw .nextFile
    | .exit status => do
      match status with
      | some e => do
        let n := wholePart (← eval fuel e).toNumber
        modify fun s => { s with status := (n % 256).toNat }
      | none => pure ()
      throw .exit
    | .return v => do
      match v with
      | some e => do throw (.return (← eval fuel e))
      | none => throw (.return .absent)
    | .leave => throw .leave
    | .again => throw .again
    | .delete name none => do setTable (← tableOf name) {}
    | .delete name (some place) => do
      let place ← placeText (← evalAll fuel place)
      let id ← tableOf name
      setTable id ((← table id).erase place)

/-- Runs statements in order. -/
def execAll : Nat → List Stmt → Run Unit
  | 0, _ | _, [] => return ()
  | fuel + 1, s :: ss => do
    exec fuel s
    execAll fuel ss

/-- Runs the body of a loop once; tells whether the loop goes on. -/
def round : Nat → Stmt → Run Bool
  | 0, _ => return false
  | fuel + 1, body =>
    tryCatch
      (do
        exec fuel body
        pure true)
      fun
        | .leave => pure false
        | .again => pure true
        | stop => throw stop

/-- Runs the body of a loop and a step behind it as long as a condition holds. -/
def repeatWhile : Nat → Option Expr → Stmt → Option Stmt → Run Unit
  | 0, _, _, _ => fails "the program does not end"
  | fuel + 1, c, body, step => do
    let holds ← match c with
      | some c => do pure (← eval fuel c).isTrue
      | none => pure true
    if holds then
      if ← round fuel body then
        match step with
        | some step => exec fuel step
        | none => pure ()
        repeatWhile fuel c body step

/-- Runs the body of a loop for places of a table. -/
def eachPlace : Nat → String → List String → Stmt → Run Unit
  | 0, _, _, _ | _, _, [], _ => return ()
  | fuel + 1, name, place :: places, body => do
    setVariable name (.text place)
    if ← round fuel body then eachPlace fuel name places body

end

/-! ## Rules -/

/-- How long a program runs. -/
def fuel : Nat := 20000000

/-- Whether a rule is run for the record. -/
def applies (n : Nat) (p : Pattern) : Run Bool := do
  match p with
  | .all => return true
  | .holds e => return (← eval fuel e).isTrue
  | .range first last => do
    let isActive := (← get).active.contains n
    if isActive || (← eval fuel first).isTrue then
      let ends := (← eval fuel last).isTrue
      modify fun s =>
        let others := s.active.filter (· != n)
        { s with active := if ends then others else n :: others }
      return true
    else return false

/-- Runs the rules for the record. -/
def runRules : List (Nat × Rule) → Run Unit
  | [] => return ()
  | (n, r) :: more => do
    if ← applies n r.pattern then
      match r.action with
      | some body => execAll fuel body
      | none => exec fuel (.print [] none)
    runRules more

/-- Runs the rules for the records; the number bounds how many there are. -/
def runRecords (rules : List (Nat × Rule)) : Nat → Run Unit
  | 0 => return ()
  | count + 1 => do
    match ← nextRecord (← argumentFuel) with
    | none => return ()
    | some text => do
      setRecord text
      tryCatch (runRules rules) fun
        | .next => pure ()
        | .nextFile => modify fun s => { s with current := s.current.map fun _ => [] }
        | stop => throw stop
      runRecords rules count

/-- Runs actions in order. -/
def runActions : List (List Stmt) → Run Unit
  | [] => return ()
  | body :: more => do
    execAll fuel body
    runActions more

/-- Ends the places of output, the last one first, and prints what is kept back. -/
def finish : List Writer → Run Unit
  | [] => do
    modify fun s => { s with writers := [] }
    flush
  | w :: more => do
    if w.isCommand then
      let s ← get
      let (p, session) := s.shell w.name w.pending.reverse.flatten s.session
      set { s with printed := s.printed ++ p, session }
    finish more

/-- Runs a program: the actions in front of all records, the rules for every record, and the actions
behind them. -/
def run (p : Program) : Run Unit := do
  let main : Run Unit := do
    runActions p.begins
    if !p.rules.isEmpty || !p.ends.isEmpty then
      let rules := (List.range p.rules.length).zip p.rules
      runRecords rules fuel
  let isLeft ← tryCatch
    (do
      main
      pure false)
    fun
      | .exit => pure true
      | stop => throw stop
  let _ := isLeft
  tryCatch (runActions p.ends) fun
    | .exit => pure ()
    | stop => throw stop

end Run

end Scaffold.Script.Awk

import Scaffold.Calendar.Format
import Scaffold.Expr.Evaluation
import Scaffold.Expr.Filter
import Scaffold.Splice
import Scaffold.Text.Segments

/-!
# Library — the functions that every expression can call

Some functions compute by themselves. The others ask the run, which they find under the name
`this`: they fail where that name stands for something else.
-/

set_option autoImplicit false

namespace Scaffold.Expr

namespace Library

open Params

/-- The run that the name `this` stands for. -/
def theRun (line : Nat) : Run Unit := do
  match (← Run.get).lookup? "this" with
  | some .context => return ()
  | _ => Run.fail line .invalidOperation

/-- Takes a single text. -/
def oneText (args : Arguments) : Except Halt String :=
  positional (takeAs asText) args

/-- Takes a single value. -/
def oneValue (args : Arguments) : Except Halt Value :=
  positional value args

/-- Takes a single value by the text that it is written as. -/
def oneShown (args : Arguments) : Except Halt String :=
  positional (shown) args

/-- Tells the run something; the answer is the empty text. -/
def tell (q : Question) : Run Value := do
  let _ ← Run.ask q
  return .text ""

/-- The name of the class of a value, for messages. -/
def kindName (v : Value) : String := v.kind.name

/-- Queues a block of raw bytes; the marker that stands for it is the answer. -/
def writeBytes (line : Nat) (args : Arguments) : Run Value := do
  let v ← Run.lift line (oneValue args)
  match Filter.bytesOf? v with
  | none => Run.halt ((Halt.because ("writeBytes expects bytes, got " ++ kindName v)).onLine line)
  | some block =>
    theRun line
    let _ ← Run.ask (.queueBytes block)
    return .text Splice.markerText

/-- The segments of a text up to a place or from one. -/
def substrByFlag (args : Arguments) : Except Halt Value :=
  positional (do
    let position ← takeAs asInt
    let flag ← takeAs asText
    return .text (Text.select position flag (← takeAs asText))) args

/-- The most numbers that a range may have. -/
def maxRange : Nat := 100000

/-- The numbers from one up or down to another. -/
def numbers (first last step : Int) : List Value :=
  let count : Int := if 0 < step then (last - first + step - 1) / step
    else (first - last + (-step) - 1) / (-step)
  (List.range count.toNat).map fun (n : Nat) => .integer (first + (n : Int) * step)

/-- A range of numbers: up to a bound, or between two of them in steps. -/
def range (args : Arguments) : Except Halt Value :=
  positional (do
    let a ← takeAs asInt
    let b ← optional asInt
    let step := (← optional asInt).getD 1
    noMore
    let (first, last) := match b with
      | some b => (a, b)
      | none => (0, a)
    if step = 0 then fail .invalidOperation
    else
      let distance := if 0 < step then last - first else first - last
      if (maxRange : Int) * step.natAbs < distance then fail .invalidOperation
      else return .iterable (numbers first last step) true) args

/-- A map of named values on top of a map. -/
def dict (args : Arguments) : Except Halt Value :=
  withNames (do
    let base ← next?
    noMore
    let entries ← match base with
      | none | some .undefined | some .none => pure []
      | some v =>
        match v.pairs? with
        | some entries => pure entries
        | none => fail .invalidOperation
    let named := (← get).named
    modify fun t => { t with named := [] }
    return .map (Value.setEntries entries named) .plain) args

/-- The names that a name space begins with, in their order as texts. -/
def namespaceNames (args : Arguments) : Except Halt Names :=
  positional (do
    let base ← next?
    noMore
    match base.filter (!·.isAbsent) with
    | none => return []
    | some v =>
      match v.pairs? with
      | some entries =>
        let names := entries.filterMap fun (key, value) => key.text?.map fun n => (n, value.thaw)
        return inTextOrder (names.foldl (fun names (n, v) => setName n v names) [])
      | none => fail .invalidOperation) args

/-- The format of moments when none is given. -/
def defaultFormat : String := "%Y-%m-%d %H:%M:%S"

/-- An instant as text; an unknown directive in the format aborts the run. -/
def formatted (line : Nat) (instant : Calendar.Instant) (format : Option String) : Run Value :=
  match Calendar.Moment.ofInstant? instant with
  | none =>
    let reason := "timestamp " ++ toString instant.seconds ++ " is out of range"
    Run.halt ((Halt.because reason).onLine line)
  | some m =>
    match Calendar.format? m (format.getD defaultFormat) with
    | some text => return .text text
    | none => Run.halt (.aborted (.unwritable instant (format.getD defaultFormat)))

/-- The seconds of an instant, and the format for it. -/
def dateArguments (args : Arguments) : Except Halt (Int × Option String) :=
  positional (do
    let seconds ← takeAs asInt
    return (seconds, ← optional asText)) args

/-- An instant by its seconds. -/
def date (line : Nat) (args : Arguments) : Run Value := do
  let (seconds, format) ← Run.lift line (dateArguments args)
  formatted line { seconds } format

/-- The format for the present moment. -/
def nowFormat (args : Arguments) : Except Halt (Option String) :=
  positional (optional asText) args

/-- The present moment, where the run is made. -/
def now (line : Nat) (args : Arguments) : Run Value := do
  let format ← Run.lift line (nowFormat args)
  let reading ← Run.ask .time
  formatted line reading.instant format

/-- Values as they are shown to who writes a template: each part on a line of its own. -/
def shownTall : List Value → String
  | [] => ""
  | [v] => v.tall
  | values => (Value.seq values).tall

/-- The functions, and the methods of the run, that spell out what they are applied to. -/
def spellers : List String := ["error", "debug"]

/-- An argument that a function or method would spell out without an end. -/
def endless? (name : String) (args : Arguments) : Option Value :=
  if spellers.contains name then Value.firstEndless? true args.flat else none

/-- The names of all functions. -/
def names : List String := [
  "env", "var", "remoteVar", "remoteVarResponse", "writeBytes", "pathRange", "substrByFlag",
  "error", "return", "list", "fromJson", "now", "date", "b64enc", "b64dec", "hexenc", "hexdec",
  "range", "dict", "namespace", "debug"]

/-- Calls a function by name. -/
def call (line : Nat) (name : String) (args : Arguments) : Run Value := do
  let lift {α : Type} : Except Halt α → Run α := Run.lift line
  match name with
  | "env" => do
    let n ← lift (oneText args)
    theRun line
    Run.ask (.env n)
  | "var" => do
    let n ← lift (oneText args)
    theRun line
    Run.ask (.var n)
  | "remoteVar" => do
    let n ← lift (oneText args)
    theRun line
    Run.ask (.remoteVar n)
  | "remoteVarResponse" => do
    let n ← lift (oneText args)
    theRun line
    Run.ask (.response n)
  | "writeBytes" => writeBytes line args
  | "pathRange" => do
    let sources ← args.flat.mapM Run.detached
    theRun line
    tell (.setPathRange sources)
  | "error" => do
    let message ← lift (oneShown args)
    theRun line
    tell (.setError message)
  | "return" => do
    let v ← Run.detached (← lift (oneValue args))
    theRun line
    tell (.setReturn v)
  | "substrByFlag" => lift (substrByFlag args)
  | "list" => return .seq args.flat
  | "fromJson" => lift (Filter.fromJson args)
  | "now" => now line args
  | "date" => date line args
  | "b64enc" => lift (Filter.b64enc args)
  | "b64dec" => lift (Filter.b64dec args)
  | "hexenc" => lift (Filter.hexenc args)
  | "hexdec" => lift (Filter.hexdec args)
  | "range" => lift (range args)
  | "dict" => lift (dict args)
  | "namespace" => do
    let names ← lift (namespaceNames args)
    return .cell .space (← Run.newCell (.names names))
  | "debug" => return .text (shownTall args.flat)
  | _ => Run.fail line .invalidOperation

/-- What a method of the run asks the project; none if there is no such question. -/
def projectQuestion? (name : String) (args : Arguments) : Option (Except Halt ProjectQuestion) :=
  let groups := args.flat.filterMap Value.text?
  match name with
  | "productName" => some (.ok .productName)
  | "moduleName" => some (.ok .moduleName)
  | "moduleDesc" => some (.ok .moduleDescription)
  | "versionName" => some (.ok .versionName)
  | "product" => some (.ok .product)
  | "version" => some (.ok .version)
  | "currentDepends" => some (.ok (.currentDepends groups))
  | "currentPluginDepends" => some (.ok (.currentPluginDepends groups))
  | "dependGroup" => some (.dependGroup <$> oneText args)
  | _ => none

/-- Calls a method of the run, if it has one of this name. -/
def callMethod? (line : Nat) (name : String) (args : Arguments) : Run (Option Value) := do
  let lift {α : Type} : Except Halt α → Run α := Run.lift line
  match projectQuestion? name args with
  | some question => do some <$> Run.ask (.project (← lift question))
  | none =>
    match name with
    | "error" => do some <$> tell (.setError (← lift (oneShown args)))
    | "return" => do some <$> tell (.setReturn (← Run.detached (← lift (oneValue args))))
    | "env" => do some <$> Run.ask (.env (← lift (oneText args)))
    | "var" => do some <$> Run.ask (.var (← lift (oneText args)))
    | "remoteVar" => do some <$> Run.ask (.remoteVar (← lift (oneText args)))
    | "remoteVarResponse" => do some <$> Run.ask (.response (← lift (oneText args)))
    | _ => return none

/-- The attributes of the run. -/
def contextNames : List String := ["type", "name", "data"]

/-- An attribute of the run. -/
def contextAttribute (name : String) : Run Value :=
  match name with
  | "type" => Run.ask .phase
  | "name" => Run.ask .itemName
  | "data" => Run.ask .itemData
  | _ => return .undefined

/-- The sections of the document that can be looked at. -/
def sections : List String :=
  ["imports", "envs", "vars", "remoteVars", "templates", "executes", "shell", "comments"]

/-- A section of the document. -/
def documentAttribute (name : String) : Run Value :=
  if sections.contains name then Run.ask (.section name) else return .undefined

end Library

end Scaffold.Expr

import Scaffold.Yaml.Value
import Scaffold.Yaml.Stream

/-!
# Reading — documents by expectation

A reading takes the steps of a document one after the other and knows the path of fields it is
at. Whatever goes wrong is placed at the innermost node whose reading was under way, by its mark
and its path.
-/

set_option autoImplicit false

namespace Scaffold.Yaml

/-- The way from the root of a document to a node. -/
inductive Path
  | root
  | item (parent : Path) (index : Nat)
  | entry (parent : Path) (key : String)
  /-- The value of a key that is no scalar. -/
  | unknown (parent : Path)
  deriving Repr

mutual

/-- The text of a path. -/
def Path.text : Path → String
  | .root => "."
  | .item parent index => parent.text ++ "[" ++ toString index ++ "]"
  | .entry parent key => parent.lead ++ key
  | .unknown parent => parent.lead ++ "?"

/-- The text of a path in front of a field. -/
def Path.lead : Path → String
  | .root => ""
  | .item parent index => parent.text ++ "[" ++ toString index ++ "]."
  | .entry parent key => parent.lead ++ key ++ "."
  | .unknown parent => parent.lead ++ "?."

end

/-- Why a document cannot be read. -/
inductive Fault
  | malformed (fault : Malformed)
  | unknownAnchor (mark : Mark)
  /-- The steps ended where a node was expected. -/
  | endOfStream
  | severalDocuments
  | tooDeep (mark : Mark)
  | tooManyAliases
  /-- The data are not what was expected; the place is that of the innermost reading. -/
  | data (reason : String) (place : Option (Mark × String))

/-- A fault of a stream as a fault of reading. -/
def Fault.ofStream : StreamFault → Fault
  | .malformed fault => .malformed fault
  | .unknownAnchor mark => .unknownAnchor mark

/-- The place of a fault, if it has one. -/
def Fault.mark? : Fault → Option Mark
  | .malformed fault => some fault.mark
  | .unknownAnchor mark | .tooDeep mark => some mark
  | .data _ place => place.map (·.1)
  | .endOfStream | .severalDocuments | .tooManyAliases => none

/-- The wording of a fault: path, reason and place; the root and the very beginning are not
named. -/
def Fault.message (fault : Fault) : String :=
  let shown := match fault with
    | .malformed fault => fault.problem
    | .unknownAnchor _ => "unknown anchor"
    | .endOfStream => "EOF while parsing a value"
    | .severalDocuments =>
      "deserializing from YAML containing more than one document is not supported"
    | .tooDeep _ => "recursion limit exceeded"
    | .tooManyAliases => "repetition limit exceeded"
    | .data reason none => reason
    | .data reason (some (_, path)) => if path == "." then reason else path ++ ": " ++ reason
  match fault with
  | .malformed fault => fault.message
  | _ =>
    match fault.mark? with
    | some mark =>
      if mark.line != 0 || mark.column != 0 then shown ++ " at " ++ mark.text else shown
    | none => shown

/-- The line and column of a fault, counted from one; zero if it has no place. -/
def Fault.position (fault : Fault) : Nat × Nat :=
  match fault.mark? with
  | some mark => (mark.line + 1, mark.column + 1)
  | none => (0, 0)

/-- Where a reading is in its document. -/
structure Scope where
  stream : Stream
  path : Path := .root
  /-- How many collections may still be opened. -/
  depth : Nat := 128

/-- What a reading has used up: the steps and the aliases. -/
structure Progress where
  next : Nat := 0
  jumps : Nat := 0

/-- A reading of part of a document. -/
abbrev Reading (α : Type) := ReaderT Scope (StateT Progress (Except Fault)) α

namespace Reading

/-- Data that are not what was expected. -/
def refuse {α : Type} (reason : String) : Reading α :=
  throw (.data reason none)

/-- Places a fault that has no place yet. -/
def placed {α : Type} (mark : Mark) (r : Reading α) : Reading α := fun scope progress =>
  match r scope progress with
  | .error (.data reason none) => .error (.data reason (some (mark, scope.path.text)))
  | result => result

/-- Goes on inside, along a path. -/
def under {α : Type} (path : Path → Path) (r : Reading α) : Reading α := fun scope =>
  r { scope with path := path scope.path }

/-- The next step, left in place. -/
def peek : Reading (Step × Mark) := do
  let stream := (← read).stream
  match stream.steps[(← get).next]? with
  | some step => return step
  | none =>
    match stream.fault with
    | some fault => throw (.ofStream fault)
    | none => throw .endOfStream

/-- Takes the next step. -/
def take : Reading (Step × Mark) := do
  let step ← peek
  modify fun progress => { progress with next := progress.next + 1 }
  return step

/-- Reads the node that an alias stands for, and comes back. -/
def jump {α : Type} (id : Nat) (r : Reading α) : Reading α := do
  let stream := (← read).stream
  let progress ← get
  let jumps := progress.jumps + 1
  if stream.steps.size * 100 < jumps then throw .tooManyAliases
  match stream.targets.lookup id with
  | none => throw .endOfStream
  | some target =>
    set ({ next := target, jumps } : Progress)
    let result ← r
    modify fun used => { used with next := progress.next }
    return result

/-- Reads the next node, an alias through the node it stands for. -/
def node {α : Type} (r : Step → Mark → Reading α) : Reading α := do
  let (step, mark) ← take
  placed mark <|
    match step with
    | .reference id => jump id do
      let (step, mark) ← take
      placed mark (r step mark)
    | step => r step mark

/-- How data are named that are not what was expected. -/
def unexpected : Scalar → String
  | .null => "unit value"
  | .bool b => "boolean \x60" ++ toString b ++ "\x60"
  | .int n => "integer \x60" ++ toString n ++ "\x60"
  | .wide n =>
    "integer \x60" ++ toString n ++ "\x60 as " ++ (if n < 0 then "i128" else "u128")
  | .float x =>
    let text := Decimal.plain.render x
    "floating point \x60" ++ (if text.contains '.' then text else text ++ ".0") ++ "\x60"
  | .string s => "string " ++ Text.quoted s

/-- The reading of a scalar, whatever it is. -/
def scalar (tag : Option String) (text : String) (style : Style) (isSpent : Bool) :
    Reading Scalar :=
  match Scalar.read tag text style isSpent with
  | .ok scalar => return scalar
  | .error wanted =>
    refuse ("invalid value: string " ++ Text.quoted text ++ ", expected " ++ wanted)

/-- Refuses a node where something else was expected. -/
def mismatch {α : Type} (step : Step) (expected : String) : Reading α := do
  let found ← match step with
    | .scalar tag text style => unexpected <$> scalar tag text style false
    | .sequenceStart _ | .sequenceEnd => pure "sequence"
    | .mappingStart _ | .mappingEnd => pure "map"
    | .void | .reference _ => throw .endOfStream
  refuse ("invalid type: " ++ found ++ ", expected " ++ expected)

/-- Opens a collection. -/
def nested {α : Type} (mark : Mark) (r : Reading α) : Reading α := fun scope =>
  match scope.depth with
  | 0 => throw (.tooDeep mark)
  | depth + 1 => r { scope with depth }

/-- Whether the collection ends here. -/
def ends : Reading Bool := do
  match (← peek).1 with
  | .sequenceEnd | .mappingEnd | .void => return true
  | _ => return false

/-- Reads the items of a sequence up to its end. -/
def items {α : Type} (r : Reading α) : Nat → Nat → List α → Reading (List α)
  | 0, _, read => return read.reverse
  | fuel + 1, index, read => do
    if ← ends then return read.reverse
    let item ← under (.item · index) r
    items r fuel (index + 1) (item :: read)

/-- The path of the value whose key comes next. -/
def keyPath : Reading (Path → Path) := do
  match (← peek).1 with
  | .scalar _ text _ => return (.entry · text)
  | _ => return .unknown

/-- Reads the entries of a mapping up to its end; `r` reads one entry, given how its value's
path extends that of the mapping. -/
def entries {σ : Type} (r : σ → (Path → Path) → Reading σ) : Nat → σ → Reading σ
  | 0, state => return state
  | fuel + 1, state => do
    if ← ends then return state
    let path ← keyPath
    entries r fuel (← r state path)

/-- A bound on the parts of any collection. -/
def bound : Reading Nat := do
  return (← read).stream.steps.size + 1

/-- A plain scalar without text, which stands for an empty collection. -/
def isEmptyNode : Step → Bool
  | .void => true
  | .scalar _ text style => text.isEmpty && style == .plain
  | _ => false

/-- Reads a sequence. -/
def sequence {α : Type} (expected : String) (r : Reading α) : Reading (List α) :=
  node fun step mark => do
    match step with
    | .sequenceStart _ =>
      let result ← nested mark (do items r (← bound) 0 [])
      discard take
      return result
    | step => if isEmptyNode step then return [] else mismatch step expected

/-- Reads a mapping. -/
def mapping {σ : Type} (expected : String) (start : σ) (r : σ → (Path → Path) → Reading σ) :
    Reading σ :=
  node fun step mark => do
    match step with
    | .mappingStart _ =>
      let result ← nested mark (do entries r (← bound) start)
      discard take
      return result
    | step => if isEmptyNode step then return start else mismatch step expected

/-- Reads a text: any scalar as it is written. -/
def string (expected : String) : Reading String :=
  node fun step _ =>
    match step with
    | .scalar _ text _ => return text
    | step => mismatch step expected

/-- Reads a boolean. -/
def bool : Reading Bool :=
  node fun step _ =>
    match step with
    | .scalar tag text style =>
      let literal := style == .literal && tag == some (Scalar.standardTag "bool")
      match if style == .plain || literal then Scalar.bool? text else none with
      | some b => return b
      | none => mismatch step "a boolean"
    | step => mismatch step "a boolean"

/-- Whether the node that begins with this step is present. -/
def isPresent : Step → Reading Bool
  | .scalar tag text style =>
    if style != .plain then return true
    else if tag == some (Scalar.standardTag "null") then
      if Scalar.isNull text then return false
      else refuse ("invalid value: string " ++ Text.quoted text ++ ", expected null")
    else if tag.isSome then return true
    else return !(text.isEmpty || Scalar.isNull text)
  | .void => return false
  | _ => return true

/-- Reads a node that may be absent: nothing, or a plain null. -/
def optional {α : Type} (r : Reading α) : Reading (Option α) := do
  let here : Reading (Option α) := do
    let (step, _) ← peek
    if ← isPresent step then some <$> r
    else
      discard take
      return none
  match (← peek).1 with
  | .reference id =>
    discard take
    jump id here
  | _ => here

/-- Passes a node of any kind. -/
def ignore : Reading Unit := do
  let rec pass (fuel depth : Nat) : Reading Unit :=
    match fuel with
    | 0 => return
    | fuel + 1 => do
      let depth := match (← take).1 with
        | .sequenceStart _ | .mappingStart _ => depth + 1
        | .sequenceEnd | .mappingEnd => depth - 1
        | _ => depth
      if depth == 0 then return else pass fuel depth
  pass (← bound) 0

/-- How a key that is given twice is named. -/
def repeatedKey : Value → String
  | .null => "duplicate entry with null key"
  | .bool b => "duplicate entry with key \x60" ++ toString b ++ "\x60"
  | .number n => "duplicate entry with key " ++ n.text
  | .string s => "duplicate entry with key " ++ Text.quoted s
  | _ => "duplicate entry in YAML map"

/-- The name of a tag of the document's own. -/
def ownTag? (tag : Option String) : Option String :=
  match tag.map String.toList with
  | some ['!'] => some "!"
  | some ('!' :: name) => some (String.ofList name)
  | _ => none

/-- What a scalar is as generic data. -/
def ofScalar (s : Scalar) : Reading Value :=
  match s with
  | .null => return .null
  | .bool b => return .bool b
  | .int n => return .number (.int n)
  | .float x => return .number (.float x)
  | .string s => return .string s
  | .wide n => refuse ("invalid type: " ++ unexpected (.wide n) ++ ", expected any YAML value")

/-- The step behind which a generic node goes on, its tag, and the node itself. -/
def tagOf : Step → Option String
  | .scalar tag _ _ | .sequenceStart tag | .mappingStart tag => tag
  | _ => none

/-- Generic data, given how the parts of a collection are read. -/
def valueWith (part : Reading Value) : Reading Value :=
  node fun step mark => do
    let content : Reading Value := do
      match step with
      | .scalar tag text style => ofScalar (← scalar tag text style (ownTag? tag).isSome)
      | .sequenceStart _ =>
        let values ← nested mark (do items part (← bound) 0 [])
        discard take
        return .sequence values
      | .mappingStart _ =>
        let pairs ← nested mark (do
          entries (fun (read : List (Value × Value)) path => do
            let key ← part
            if read.any (fun pair => key.same pair.1) then refuse (repeatedKey key)
            let value ← under path part
            return read ++ [(key, value)]) (← bound) [])
        discard take
        return .mapping pairs
      | .void => return .null
      | step => mismatch step "any YAML value"
    match ownTag? (tagOf step) with
    | some tag => return .tagged tag (← placed mark content)
    | none => content

/-- Generic data within this many levels of collections. -/
def valueWithin : Nat → Reading Value
  | 0 => valueWith (throw (.tooDeep {}))
  | depth + 1 => valueWith (valueWithin depth)

/-- Reads generic data. -/
def value : Reading Value := do
  valueWithin (← read).depth

/-- Reads the fields of a record: each known field at most once, unknown ones are passed over.
`field` gives the reading of a field by its name. -/
def record {σ : Type} (expected : String) (start : σ) (field : String → Option (σ → Reading σ)) :
    Reading σ :=
  (·.1) <$> mapping expected (start, ([] : List String)) fun (state, seen) path => do
    let name ← string "field identifier"
    match field name with
    | none =>
      ignore
      return (state, seen)
    | some r =>
      if seen.contains name then refuse ("duplicate field \x60" ++ name ++ "\x60")
      return (← under path (r state), name :: seen)

end Reading

/-- Reads the only document of a stream. -/
def Stream.read {α : Type} (stream : Stream) (r : Reading α) : Except Fault α := do
  let (result, _) ← (r { stream }).run {}
  match stream.fault with
  | some fault => throw (.ofStream fault)
  | none => if stream.more then throw .severalDocuments else return result

end Scaffold.Yaml

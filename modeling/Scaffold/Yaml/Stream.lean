import Scaffold.Text.Utf8
import Scaffold.Yaml.Event

/-!
# Stream — the first document of a stream

The steps through the nodes of the first document, with every alias resolved to the node it
stands for. A fault does not undo the steps before it: whoever reads them meets the fault only
when no step is left.
-/

set_option autoImplicit false

namespace Scaffold.Yaml

/-- One step through the nodes of a document. -/
inductive Step
  /-- The node that an anchor names, by the anchor's number. -/
  | reference (id : Nat)
  | scalar (tag : Option String) (text : String) (style : Style)
  | sequenceStart (tag : Option String)
  | sequenceEnd
  | mappingStart (tag : Option String)
  | mappingEnd
  /-- What an empty stream holds. -/
  | void
  deriving DecidableEq, Repr

/-- Why the steps of a document end early. -/
inductive StreamFault
  | malformed (fault : Malformed)
  | unknownAnchor (mark : Mark)
  deriving DecidableEq, Repr

/-- The first document of a stream. -/
structure Stream where
  steps : Array (Step × Mark) := #[]
  /-- Where the node of an anchor begins, by the anchor's number. -/
  targets : List (Nat × Nat) := []
  fault : Option StreamFault := none
  /-- Another document follows. -/
  more : Bool := false

/-- The anchors met so far: names with the number given last, and where each number points. A
name that is given again takes the number that the next new name would take. -/
structure Anchors where
  names : List (String × Nat) := []
  targets : List (Nat × Nat) := []

/-- Gives the node at `position` its anchor. -/
def Anchors.define (anchors : Anchors) (name : Option String) (position : Nat) : Anchors :=
  match name with
  | none => anchors
  | some name =>
    let id := anchors.names.length
    { names := anchors.names.filter (·.1 != name) ++ [(name, id)]
      targets := (id, position) :: anchors.targets }

/-- Whether a document or a fault follows behind the end of the first document. -/
def followed (events : List (Event × Mark)) (fault : Option Malformed) : Bool :=
  match events with
  | [(.streamEnd, _)] => false
  | [] => fault.isSome
  | _ => true

/-- Collects the steps of the first document. -/
def collect (fault : Option Malformed) :
    List (Event × Mark) → Anchors → Array (Step × Mark) → Stream
  | [], anchors, steps => ⟨steps, anchors.targets, fault.map .malformed, false⟩
  | (event, mark) :: events, anchors, steps =>
    let node (properties : Properties) (step : Step) : Anchors × Array (Step × Mark) :=
      (anchors.define properties.anchor steps.size, steps.push (step, mark))
    match event with
    | .streamStart | .documentStart => collect fault events anchors steps
    | .streamEnd =>
      ⟨if steps.isEmpty then #[(.void, mark)] else steps, anchors.targets, none, false⟩
    | .documentEnd => ⟨steps, anchors.targets, none, followed events fault⟩
    | .reference name =>
      match anchors.names.lookup name with
      | some id => collect fault events anchors (steps.push (.reference id, mark))
      | none => ⟨steps, anchors.targets, some (.unknownAnchor mark), false⟩
    | .scalar properties text style =>
      let (anchors, steps) := node properties (.scalar properties.tag text style)
      collect fault events anchors steps
    | .sequenceStart properties =>
      let (anchors, steps) := node properties (.sequenceStart properties.tag)
      collect fault events anchors steps
    | .mappingStart properties =>
      let (anchors, steps) := node properties (.mappingStart properties.tag)
      collect fault events anchors steps
    | .sequenceEnd => collect fault events anchors (steps.push (.sequenceEnd, mark))
    | .mappingEnd => collect fault events anchors (steps.push (.mappingEnd, mark))

/-- The characters that may stand in a stream. -/
def isStreamChar (c : Char) : Bool :=
  let n := c.toNat
  n == 0x9 || n == 0xA || n == 0xD || (0x20 ≤ n && n ≤ 0x7E) || n == 0x85
    || (0xA0 ≤ n && n ≤ 0xFFFD) || 0x10000 ≤ n

/-- The number of bytes that a lead byte announces; zero for a byte that leads none. -/
def leadWidth (b : UInt8) : Nat :=
  if b < 0x80 then 1 else if b < 0xC0 then 0 else if b < 0xE0 then 2
  else if b < 0xF0 then 3 else if b < 0xF8 then 4 else 0

/-- The number that a lead byte of some width and its continuations spell. -/
def spelled (width : Nat) (lead : UInt8) (rest : Bytes) : Nat :=
  let head := match width with
    | 1 => lead.toNat
    | 2 => lead.toNat % 32
    | 3 => lead.toNat % 16
    | _ => lead.toNat % 8
  rest.foldl (fun n b => n * 64 + b.toNat % 64) head

/-- The characters of a stream, or the first fault of its encoding. -/
def decodeStream : Nat → Bytes → Nat → List Char → Except Malformed (List Char)
  | 0, _, _, text => .ok text.reverse
  | _, [], _, text => .ok text.reverse
  | fuel + 1, lead :: rest, offset, text =>
    let fault (problem : String) : Except Malformed (List Char) := .error ⟨problem, {}, offset⟩
    let width := leadWidth lead
    let tail := rest.take (width - 1)
    let n := spelled width lead tail
    if width == 0 then fault "invalid leading UTF-8 octet"
    else if tail.length + 1 < width then fault "incomplete UTF-8 octet sequence"
    else if !tail.all Utf8.isContinuation then fault "invalid trailing UTF-8 octet"
    else if (width == 2 && n < 0x80) || (width == 3 && n < 0x800) || (width == 4 && n < 0x10000)
    then fault "invalid length of a UTF-8 sequence"
    else if (0xD800 ≤ n && n ≤ 0xDFFF) || 0x10FFFF < n then fault "invalid Unicode character"
    else if !isStreamChar (Char.ofNat n) then fault "control characters are not allowed"
    else decodeStream fuel (rest.drop (width - 1)) (offset + width) (Char.ofNat n :: text)

/-- The first document of a byte stream. -/
def Stream.ofBytes (bytes : Bytes) : Stream :=
  match decodeStream (bytes.length + 1) bytes 0 [] with
  | .error fault => { fault := some (.malformed fault) }
  | .ok text =>
    let (events, fault) := Event.ofChars text
    collect fault events {} #[]

end Scaffold.Yaml

import Scaffold.Yaml.Token
import Scaffold.Yaml.Token.Scanner

/-!
# Event — a document as a sequence of steps

The nodes of a document in order: scalars and aliases, and the beginning and end of every
sequence and mapping. In a mapping keys and values alternate.
-/

set_option autoImplicit false

namespace Scaffold.Yaml

/-- What a node may carry besides its content. -/
structure Properties where
  anchor : Option String := none
  tag : Option String := none
  deriving DecidableEq, Repr

/-- One step through a stream of documents. -/
inductive Event
  | streamStart
  | streamEnd
  | documentStart
  | documentEnd
  | reference (name : String)
  | scalar (properties : Properties) (text : String) (style : Style)
  | sequenceStart (properties : Properties)
  | sequenceEnd
  | mappingStart (properties : Properties)
  | mappingEnd
  deriving DecidableEq, Repr

end Scaffold.Yaml

/-!
## Grammar — signs to events

What may come next is a stack of expectations. Each step looks at the next sign or two, takes
what belongs to one event and leaves the expectations for the rest.
-/

namespace Scaffold.Yaml

/-- What the grammar waits for. -/
inductive Expectation
  | streamStart
  /-- A document, which may do without its indicator only as the first of a stream. -/
  | document (first : Bool)
  | documentContent
  | documentEnd
  | blockNode
  | blockEntry (first : Bool)
  /-- An entry of a sequence that is indented no further than the mapping around it. -/
  | indentlessEntry
  | blockKey (first : Bool)
  | blockValue
  | flowEntry (first : Bool)
  /-- The key of a single pair inside a flow sequence. -/
  | pairKey
  | pairValue
  | pairEnd
  | flowKey (first : Bool)
  | flowValue
  /-- The absent value of a flow mapping's key that has no value indicator. -/
  | noFlowValue
  | nothing
  deriving DecidableEq, Repr

/-- The state of the grammar. -/
structure Grammar where
  scanner : Scanner
  expects : Expectation := .streamStart
  /-- What is expected after the node that is being read. -/
  stack : List Expectation := []
  /-- The tag handles of the document and what they stand for. -/
  handles : List (String × String) := []

namespace Grammar

/-- One event with the place where it begins. -/
abbrev Step := Except Malformed (Event × Mark × Grammar)

/-- The next sign. -/
def next (g : Grammar) : Except Malformed (Token × Grammar) := do
  let (token, scanner) ← g.scanner.next
  return (token, { g with scanner })

/-- Takes the next sign. -/
def take (g : Grammar) : Grammar :=
  { g with scanner := g.scanner.take }

/-- Goes on with what is expected after the current node. -/
def pop (g : Grammar) : Grammar :=
  match g.stack with
  | expects :: stack => { g with expects, stack }
  | [] => { g with expects := .nothing }

/-- Expects `after` behind the node that comes next. -/
def push (g : Grammar) (after : Expectation) : Grammar :=
  { g with stack := after :: g.stack }

/-- Goes on with this expectation. -/
def expect (g : Grammar) (expects : Expectation) : Grammar :=
  { g with expects }

/-- The scalar that stands for an absent node. -/
def absent (g : Grammar) (mark : Mark) : Step :=
  .ok (.scalar {} "" .plain, mark, g)

/-- A fault at a sign. -/
def fault {α : Type} (problem : String) (mark : Mark) : Except Malformed α :=
  .error ⟨problem, mark, 0⟩

/-- The tag that a handle and its suffix stand for. -/
def resolveTag (g : Grammar) (handle suffix : String) (mark : Mark) :
    Except Malformed String :=
  if handle.isEmpty then .ok suffix
  else match g.handles.lookup handle with
    | some lead => .ok (lead ++ suffix)
    | none => fault "found undefined tag handle" mark

/-- Reads an anchor and a tag, in either order. -/
def properties (g : Grammar) : Except Malformed (Properties × Mark × Token × Grammar) := do
  let (token, g) ← g.next
  let start := token.start
  match token.kind with
  | .anchor name =>
    let (token, g) ← g.take.next
    match token.kind with
    | .tag handle suffix =>
      let mark := token.start
      let (token, g) ← g.take.next
      return (⟨some name, some (← g.resolveTag handle suffix mark)⟩, start, token, g)
    | _ => return (⟨some name, none⟩, start, token, g)
  | .tag handle suffix =>
    let mark := token.start
    let (token, g) ← g.take.next
    match token.kind with
    | .anchor name =>
      let (token, g) ← g.take.next
      return (⟨some name, some (← g.resolveTag handle suffix mark)⟩, start, token, g)
    | _ => return (⟨none, some (← g.resolveTag handle suffix mark)⟩, start, token, g)
  | _ => return ({}, start, token, g)

/-- Reads a node; block collections only where `block`, and sequences that are not indented only
where `indentless`. -/
def node (g : Grammar) (block indentless : Bool) : Step := do
  let (token, g) ← g.next
  match token.kind with
  | .reference name => return (.reference name, token.start, g.pop.take)
  | _ =>
    let (properties, start, token, g) ← g.properties
    let opens (event : Event) (expects : Expectation) : Step :=
      .ok (event, start, { g with expects })
    let empty : Step :=
      if properties.anchor.isSome || properties.tag.isSome then
        .ok (.scalar properties "" .plain, start, g.pop)
      else fault "did not find expected node content" token.start
    match token.kind with
    | .blockEntry =>
      if indentless then opens (.sequenceStart properties) .indentlessEntry else empty
    | .scalar text style =>
      let properties :=
        if properties.tag == some "!" then { properties with tag := none } else properties
      return (.scalar properties text style, start, g.pop.take)
    | .flowSequenceStart => opens (.sequenceStart properties) (.flowEntry true)
    | .flowMappingStart => opens (.mappingStart properties) (.flowKey true)
    | .blockSequenceStart =>
      if block then opens (.sequenceStart properties) (.blockEntry true) else empty
    | .blockMappingStart =>
      if block then opens (.mappingStart properties) (.blockKey true) else empty
    | _ => empty

/-- Reads the directives in front of a document. -/
def directives : Nat → Bool → List (String × String) → Grammar →
    Except Malformed (List (String × String) × Grammar)
  | 0, _, handles, g => .ok (handles, g)
  | fuel + 1, versioned, handles, g => do
    let (token, g) ← g.next
    match token.kind with
    | .versionDirective major minor =>
      if versioned then fault "found duplicate %YAML directive" token.start
      else if major != 1 || (minor != 1 && minor != 2) then
        fault "found incompatible YAML document" token.start
      else directives fuel true handles g.take
    | .tagDirective handle lead =>
      if (handles.lookup handle).isSome then
        fault "found duplicate %TAG directive" token.start
      else directives fuel versioned (handles ++ [(handle, lead)]) g.take
    | _ => return (handles, g)

/-- The handles that every document has. -/
def standardHandles : List (String × String) :=
  [("!", "!"), ("!!", "tag:yaml.org,2002:")]

/-- Passes the ends of documents. -/
def passEnds : Nat → Grammar → Except Malformed Grammar
  | 0, g => .ok g
  | fuel + 1, g => do
    let (token, g) ← g.next
    if token.kind == .documentEnd then passEnds fuel g.take else return g

/-- A bound on the signs still to come. -/
def bound (g : Grammar) : Nat :=
  4 * g.scanner.cursor.rest.length + g.scanner.tokens.length + 8

/-- Begins a document or ends the stream. -/
def document (g : Grammar) (first : Bool) : Step := do
  let g ← if first then .ok g else passEnds g.bound g
  let (token, g) ← g.next
  let explicit := match token.kind with
    | .versionDirective .. | .tagDirective .. | .documentStart => true
    | _ => false
  if token.kind == .streamEnd then
    return (.streamEnd, token.start, (g.expect .nothing).take)
  else if first && !explicit then
    return (.documentStart, token.start,
      ({ g with handles := standardHandles }.expect .blockNode).push .documentEnd)
  else
    let (handles, g) ← directives g.bound false [] g
    let (start, g) ← g.next
    if start.kind != .documentStart then
      fault "did not find expected <document start>" start.start
    else
      return (.documentStart, token.start,
        (({ g with handles := handles ++ standardHandles }.expect .documentContent).push
          .documentEnd).take)

/-- The content of a document that began with its indicator. -/
def documentContent (g : Grammar) : Step := do
  let (token, g) ← g.next
  match token.kind with
  | .versionDirective .. | .tagDirective .. | .documentStart | .documentEnd | .streamEnd =>
    g.pop.absent token.start
  | _ => g.node true false

/-- The end of a document, with or without its indicator. -/
def documentEnd (g : Grammar) : Step := do
  let (token, g) ← g.next
  let g := if token.kind == .documentEnd then g.take else g
  return (.documentEnd, token.start, { g with expects := .document false, handles := [] })

/-- The content behind an indicator: a node, or nothing if `ends` holds of the next sign. -/
def content (g : Grammar) (ends : Token.Kind → Bool) (after : Expectation)
    (block indentless : Bool) (mark : Option Mark) : Step := do
  let (token, g) ← g.next
  if ends token.kind then (g.expect after).absent (mark.getD token.start)
  else (g.push after).node block indentless

/-- An entry or the end of a block sequence. -/
def blockEntry (g : Grammar) (first : Bool) : Step := do
  let g ← if first then (·.2.take) <$> g.next else .ok g
  let (token, g) ← g.next
  match token.kind with
  | .blockEntry =>
    g.take.content (fun k => k == .blockEntry || k == .blockEnd) (.blockEntry false)
      true false token.stop
  | .blockEnd => return (.sequenceEnd, token.start, g.pop.take)
  | _ => fault "did not find expected '-' indicator" token.start

/-- An entry or the end of a sequence that is not indented. -/
def indentlessEntry (g : Grammar) : Step := do
  let (token, g) ← g.next
  match token.kind with
  | .blockEntry =>
    g.take.content (fun k => k == .blockEntry || k == .key || k == .value || k == .blockEnd)
      .indentlessEntry true false token.stop
  | _ => return (.sequenceEnd, token.start, g.pop)

/-- What ends an absent key or value of a block mapping. -/
def endsBlockPart (kind : Token.Kind) : Bool :=
  kind == .key || kind == .value || kind == .blockEnd

/-- A key or the end of a block mapping. -/
def blockKey (g : Grammar) (first : Bool) : Step := do
  let g ← if first then (·.2.take) <$> g.next else .ok g
  let (token, g) ← g.next
  match token.kind with
  | .key => g.take.content endsBlockPart .blockValue true true token.stop
  | .blockEnd => return (.mappingEnd, token.start, g.pop.take)
  | _ => fault "did not find expected key" token.start

/-- A value of a block mapping. -/
def blockValue (g : Grammar) : Step := do
  let (token, g) ← g.next
  match token.kind with
  | .value => g.take.content endsBlockPart (.blockKey false) true true token.stop
  | _ => (g.expect (.blockKey false)).absent token.start

/-- Passes the comma in front of every entry but the first of a flow collection. -/
def comma (g : Grammar) (first : Bool) (problem : String) :
    Except Malformed (Token × Grammar) := do
  let (token, g) ← g.next
  if first then return (token, g)
  else if token.kind == .flowEntry then g.take.next
  else fault problem token.start

/-- An entry or the end of a flow sequence. -/
def flowEntry (g : Grammar) (first : Bool) : Step := do
  let g ← if first then (·.2.take) <$> g.next else .ok g
  let (token, g) ← g.next
  let done (token : Token) (g : Grammar) : Step :=
    .ok (.sequenceEnd, token.start, g.pop.take)
  if token.kind == .flowSequenceEnd then done token g
  else
    let (token, g) ← g.comma first "did not find expected ',' or ']'"
    match token.kind with
    | .key => return (.mappingStart {}, token.start, (g.expect .pairKey).take)
    | .flowSequenceEnd => done token g
    | _ => (g.push (.flowEntry false)).node false false

/-- The key of a single pair. -/
def pairKey (g : Grammar) : Step := do
  let (token, g) ← g.next
  match token.kind with
  | .value | .flowEntry | .flowSequenceEnd =>
    (g.expect .pairValue).take.absent token.stop
  | _ => (g.push .pairValue).node false false

/-- The value of a single pair. -/
def pairValue (g : Grammar) : Step := do
  let (token, g) ← g.next
  match token.kind with
  | .value =>
    g.take.content (fun k => k == .flowEntry || k == .flowSequenceEnd) .pairEnd false false none
  | _ => (g.expect .pairEnd).absent token.start

/-- The end of a single pair. -/
def pairEnd (g : Grammar) : Step := do
  let (token, g) ← g.next
  return (.mappingEnd, token.start, { g with expects := .flowEntry false })

/-- A key or the end of a flow mapping. -/
def flowKey (g : Grammar) (first : Bool) : Step := do
  let g ← if first then (·.2.take) <$> g.next else .ok g
  let (token, g) ← g.next
  let done (token : Token) (g : Grammar) : Step :=
    .ok (.mappingEnd, token.start, g.pop.take)
  if token.kind == .flowMappingEnd then done token g
  else
    let (token, g) ← g.comma first "did not find expected ',' or '\x7d'"
    match token.kind with
    | .key =>
      g.take.content (fun k => k == .value || k == .flowEntry || k == .flowMappingEnd)
        .flowValue false false none
    | .flowMappingEnd => done token g
    | _ => (g.push .noFlowValue).node false false

/-- The value of a flow mapping's key. -/
def flowValue (g : Grammar) : Step := do
  let (token, g) ← g.next
  match token.kind with
  | .value =>
    g.take.content (fun k => k == .flowEntry || k == .flowMappingEnd) (.flowKey false)
      false false none
  | _ => (g.expect (.flowKey false)).absent token.start

/-- The absent value of a flow mapping's key. -/
def noFlowValue (g : Grammar) : Step := do
  let (token, g) ← g.next
  (g.expect (.flowKey false)).absent token.start

/-- The next event. -/
def step (g : Grammar) : Step :=
  match g.expects with
  | .streamStart => do
    let (token, g) ← g.next
    return (.streamStart, token.start, (g.expect (.document true)).take)
  | .document first => g.document first
  | .documentContent => g.documentContent
  | .documentEnd => g.documentEnd
  | .blockNode => g.node true false
  | .blockEntry first => g.blockEntry first
  | .indentlessEntry => g.indentlessEntry
  | .blockKey first => g.blockKey first
  | .blockValue => g.blockValue
  | .flowEntry first => g.flowEntry first
  | .pairKey => g.pairKey
  | .pairValue => g.pairValue
  | .pairEnd => g.pairEnd
  | .flowKey first => g.flowKey first
  | .flowValue => g.flowValue
  | .noFlowValue => g.noFlowValue
  | .nothing => .ok (.streamEnd, g.scanner.cursor.mark, g)

/-- The events of a stream in order and, if it is malformed, the fault that ends them. -/
def run : Nat → Grammar → List (Event × Mark) → List (Event × Mark) × Option Malformed
  | 0, _, events => (events.reverse, none)
  | fuel + 1, g, events =>
    match g.step with
    | .error fault => (events.reverse, some fault)
    | .ok (.streamEnd, mark, _) => (((.streamEnd, mark) :: events).reverse, none)
    | .ok (event, mark, g) => run fuel g ((event, mark) :: events)

end Grammar

/-- The events of a stream of characters. -/
def Event.ofChars (text : List Char) : List (Event × Mark) × Option Malformed :=
  Grammar.run (16 * text.length + 64) { scanner := Scanner.ofChars text } []

end Scaffold.Yaml

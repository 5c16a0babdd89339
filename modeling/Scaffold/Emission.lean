import Scaffold.Range
import Scaffold.Splice
import Scaffold.Work

/-!
# Emission — file templates to files

For every combination of its range, a file template is first planned and then applied. Planning
evaluates expressions and yields one operation; applying it is all that touches the output. What
evaluations have left in the slots for a file is dropped behind every combination, so that none of
it reaches another one.
-/

set_option autoImplicit false

namespace Scaffold

open Scaffold.Expr (Value)

/-- What one combination of a file template does. -/
inductive Operation
  | createDirectory (target : String)
  | copy (source target : String)
  /-- Writes rendered content, with a block for every marker in it. -/
  | write (target : String) (content : Bytes) (blocks : List Bytes)
  deriving DecidableEq

/-- The path that an operation creates. -/
def Operation.target : Operation → String
  | .createDirectory target | .copy _ target | .write target _ _ => target

namespace Emission

/-- Where files go and where files to copy come from. -/
structure Roots where
  output : String
  source : String := "."

/-- The block of the report. -/
def block : String := Phase.templates.text

/-- A failed write. -/
def writeError {α : Type} (path reason : String) : Except Error α :=
  .error (.fileWrite path reason)

/-- Evaluates the segments of a path and joins what they give, without the blanks around it. -/
def planSegments (names : Bindings) : List String → String → Step String
  | [], path => return path
  | segment :: segments, path => do
    let text ← evaluateText segment names
    planSegments names segments (Path.join path (Text.trim text))

/-- Evaluates the path of a template: as a whole, then every segment of the result that is not
blank. -/
def planPath (roots : Roots) (template : String) (names : Bindings) : Step String := do
  let path ← evaluateText template names
  let segments := (Path.parts path).filter (!Text.isBlankText ·)
  return Path.join roots.output (← planSegments names segments "")

/-- Evaluates the content of a file and takes the blocks that it has queued. -/
def planContent (content : String) (names : Bindings) : Step (Bytes × List Bytes) := fun c =>
  match evaluateContent content names c with
  | (.ok e, c) => (.ok (Utf8.ofString e.text, c.writes), { c with writes := [] })
  | (.error e, c) => (.error e, c)

/-- What a template does for one combination. -/
def plan (roots : Roots) (template : String) (spec : FileSpec) (names : Bindings) :
    Step Operation := do
  let target ← planPath roots template names
  if spec.isDir then return .createDirectory target
  else if Text.isBlankText spec.path then
    if spec.content.isEmpty then Step.fail (.fileWrite target "missing content")
    else
      let (content, blocks) ← planContent spec.content names
      return .write target content blocks
  else
    let source ← evaluateText spec.path names
    return .copy (Path.join roots.source (Text.trim source)) target

/-- Reports what was done for a template. -/
def done (template what : String) : System (Except Error Unit) := do
  System.report ⟨block, "$\x7b" ++ template ++ "\x7d => " ++ what⟩
  return .ok ()

/-- Goes on behind the directories that lead to a target. -/
def below (target : String) (next : System (Except Error Unit)) : System (Except Error Unit) := do
  match ← System.makeParents target with
  | .error (parent, fault) => return writeError parent fault.message
  | .ok () => next

/-- Performs an operation. A file whose blocks do not match its markers holds what could be written
in front of the mismatch. -/
def apply (template : String) : Operation → System (Except Error Unit)
  | .createDirectory target => do
    match ← System.makeDirectories target with
    | .error fault => return writeError target fault.message
    | .ok () => done template ("create dir: " ++ target)
  | .copy source target => below target do
    match ← System.copy source target with
    | .error fault =>
      return writeError target ("copy from " ++ source ++ " failed: " ++ fault.message)
    | .ok () => done template ("copy file: " ++ source)
  | .write target content blocks => below target do
    let result := Splice.splice content blocks
    match ← System.write target result.written, result.fault with
    | .error fault, _ => return writeError target fault.message
    | .ok (), some fault => return writeError target fault.message
    | .ok (), none =>
      let what :=
        if blocks.isEmpty then "write content to: " else "write content and bytes data to: "
      done template (what ++ target)

/-- Plans and applies one combination. -/
def emit (roots : Roots) (template : String) (spec : FileSpec) (names : Bindings) : Work Unit :=
  Work.settle (do
    let operation ← Work.ofStep (plan roots template spec names)
    Work.ofSystem (apply template operation)) Context.clearFile

/-- The expression that registers a range: a text that holds no expression lists what is
registered. -/
def rangeExpression (range : String) : String :=
  if Occurrences.occurs "\x7b\x7b".toList range.toList
      || Occurrences.occurs "\x7b%".toList range.toList then range
  else "\x7b\x7b pathRange(" ++ range ++ ") \x7d\x7d"

/-- The sources that a range expression registers; they are taken out of the context. -/
def rangeSources (template range : String) (names : Bindings) : Step (List RangeSource) := fun c =>
  match evaluate (rangeExpression range) names c with
  | (.error e, c) => (.error e, c)
  | (.ok _, c) =>
    let sources : Except Error (List RangeSource) :=
      match c.pathRange with
      | none => .error (.range (.unregistered template))
      | some values => RangeSource.ofValues values
    (sources, { c with pathRange := none })

/-- Acts on every combination of the range of a template. -/
def eachCombination (template range : String) (action : Bindings → Work Unit) (names : Bindings) :
    Context → System (Except Error Unit × Bindings × Context) := fun c =>
  if range.isEmpty then (action names c).bind fun (r, c) => .done (r, names, c)
  else
    match rangeSources template range names c with
    | (.error e, c) => .done (.error e, names, c)
    | (.ok sources, c) =>
      let walked : StateT Context System (Except Error Unit × Bindings) :=
        Range.walk (fun names => (action names : StateT Context System (Except Error Unit)))
          sources 0 names
      (walked c).bind fun ((r, names), c) => .done (r, names, c)

/-- Processes a template. Combinations that are written stay when a later one fails. -/
def process (roots : Roots) (template : String) (spec : FileSpec) (names : Bindings) :
    Context → System (Except Error Unit × Bindings × Context) := fun c =>
  if spec.ignore then (done template "ignore").bind fun r => .done (r, names, c)
  else
    let c := (c.enter .templates template spec.toValue).reset
    eachCombination template (Text.trim spec.range) (emit roots template spec) names c

end Emission

end Scaffold

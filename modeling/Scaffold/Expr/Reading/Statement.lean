import Scaffold.Expr.Reading.Expression

/-!
# Statement — whole templates from signs

A template is a row of texts, written values and statements. A statement that encloses a part of
the template ends at a statement of its own; every reader of a statement takes the reader of such
a part as an argument.
-/

set_option autoImplicit false

namespace Scaffold.Expr.Reading

/-- Reads the statements up to one that begins with one of these words, which is not taken. -/
abbrev Body := List String → Reading (List Stmt)

/-- Names that cannot be assigned. -/
def reservedNames : List String :=
  ["true", "True", "false", "False", "none", "None", "loop", "self"]

/-- Reads a name that is assigned. -/
def assignedName : Reading String := do
  let name ← identifier
  if reservedNames.contains name then fail else return name

/-- Reads attributes behind an assigned name; only the last one is assigned. -/
def pathFrom (line : Nat) : Nat → Tree → Reading Target
  | 0, _ => fail
  | fuel + 1, base => do
    let name ← identifier
    if ← skip "." then pathFrom line fuel (.attribute line base name)
    else return .attribute line base name

/-- Reads a name that is assigned, with attributes behind it. -/
def assignedPlace : Reading Target := do
  let name ← assignedName
  let line ← lastLine
  if ← skip "." then pathFrom line ((← bound) + 1) (.variable line name)
  else return .name name

/-- The next sign cannot belong to an assignment. -/
def isAtTargetEnd : Reading Bool := do
  match ← peek with
  | some (.punctuation s) => return s == ")"
  | some (.name n) => return n == "in"
  | some .closeValue | some .closeBlock => return true
  | _ => return false

/-- Reads the parts of a target with commas between them; the flag tells that there was one. -/
def targetsFrom (part : Reading Target) : Nat → List Target → Bool → Reading (List Target × Bool)
  | 0, done, listed => return (done, listed)
  | fuel + 1, done, listed => do
    if !done.isEmpty then expect ","
    if ← isAtTargetEnd then return (done, listed)
    else
      let target ← part
      if ← isAt "," then targetsFrom part fuel (done ++ [target]) true
      else return (done ++ [target], listed)

/-- Reads a target: a single part, or parts with commas between them. A part is read by `place` or
is a target in brackets. -/
def targetWithin (place : Reading Target) : Nat → Reading Target
  | 0 => fail
  | fuel + 1 => do
    let line ← nextLine
    let part : Reading Target := do
      if ← skip "(" then
        let inner ← targetWithin place fuel
        expect ")"
        return inner
      else place
    match ← targetsFrom part ((← bound) + 1) [] false with
    | ([target], false) => return target
    | (targets, _) => return .items line targets

/-- Reads a target of names. -/
def target : Reading Target := do
  targetWithin (.name <$> assignedName) ((← bound) + 1)

/-- Reads a target of names and attributes. -/
def assignedTarget : Reading Target := do
  targetWithin assignedPlace ((← bound) + 1)

/-- Reads a target in brackets, or a single name. -/
def boundTarget : Reading Target := do
  if ← skip "(" then
    let inner ← target
    expect ")"
    return inner
  else return .name (← assignedName)

/-- Reads a part of the template that is no part of a loop around it. -/
def outsideLoop {α : Type} (r : Reading α) : Reading α := do
  let c ← get
  set { c with inLoop := false }
  let a ← r
  modify fun d => { d with inLoop := c.inLoop }
  return a

/-- Reads a loop behind its first word. -/
def loopStmt (body : Body) : Reading Stmt := do
  let outer := (← get).inLoop
  modify fun c => { c with inLoop := true }
  let start ← lastLine
  let target ← target
  expectWord "in"
  let source ← unconditional
  let keep ← if ← skipWord "if" then some <$> expression else pure none
  let recursive ← skipWord "recursive"
  expectBlockEnd
  let inner ← body ["endfor", "else"]
  let otherwise ← if ← skipWord "else" then do
      expectBlockEnd
      body ["endfor"]
    else pure []
  let _ ← next
  modify fun c => { c with inLoop := outer }
  return .loop (source.exit start) target source keep recursive inner otherwise

/-- Reads a condition and what depends on it. -/
def choiceStmt (body : Body) : Nat → Reading Stmt
  | 0 => fail
  | fuel + 1 => do
    let test ← unconditional
    expectBlockEnd
    let yes ← body ["endif", "else", "elif"]
    match ← next with
    | some (.name "else") =>
      expectBlockEnd
      let no ← body ["endif"]
      let _ ← next
      return .choice test yes no
    | some (.name "elif") => return .choice test yes [← choiceStmt body fuel]
    | _ => return .choice test yes []

/-- Reads bindings up to the end of the statement. -/
def bindingsFrom : Nat → List (Target × Tree) → Reading (List (Target × Tree))
  | 0, _ => fail
  | fuel + 1, done => do
    if ← isAtBlockEnd then return done
    else
      if !done.isEmpty then expect ","
      let target ← boundTarget
      expect "="
      let value ← expression
      bindingsFrom fuel (done ++ [(target, value)])

/-- Reads a scope with bindings of its own. -/
def scopeStmt (body : Body) : Reading Stmt := do
  let line ← lastLine
  let bindings ← bindingsFrom ((← bound) + 1) []
  expectBlockEnd
  let inner ← body ["endwith"]
  let _ ← next
  return .scope line bindings inner

/-- Reads filters with bars between them up to the end of the statement. -/
def filtersFrom : Nat → Option Tree → Reading (Option Tree)
  | 0, _ => fail
  | fuel + 1, done => do
    if ← isAtBlockEnd then return done
    else
      if done.isSome then expect "|"
      let name ← qualified
      let start ← lastLine
      let args ← if ← isAt "(" then arguments expression else pure []
      let entry := match done with
        | some tree => tree.exit start
        | none => start
      filtersFrom fuel (some (.filter (Argument.exit entry args) name done args))

/-- Reads filters, at least one. -/
def filters : Reading Tree := do
  match ← filtersFrom ((← bound) + 1) none with
  | some tree => return tree
  | none => fail

/-- Reads an assignment of a value or of the text of a block. -/
def setStmt (body : Body) : Reading Stmt := do
  let place ← assignedTarget
  if (← isAtBlockEnd) || (← isAt "|") then
    let filter ← if ← skip "|" then some <$> filters else pure none
    expectBlockEnd
    let inner ← body ["endset"]
    let _ ← next
    return .setBlock place filter inner
  else
    expect "="
    return .set place (← listed expression)

/-- Reads a part whose texts are escaped or not. -/
def autoescapeStmt (body : Body) : Reading Stmt := do
  let start ← lastLine
  let enabled ← expression
  expectBlockEnd
  let inner ← body ["endautoescape"]
  let _ ← next
  return .autoescape (enabled.exit start) enabled inner

/-- Reads a part whose text is filtered. -/
def filterStmt (body : Body) : Reading Stmt := do
  let line ← lastLine
  let filter ← filters
  expectBlockEnd
  let inner ← body ["endfilter"]
  let _ ← next
  return .filterBlock line filter inner

/-- A statement that writes nothing but blanks. -/
def isBlankText : Stmt → Bool
  | .text text => text.toList.all Text.isBlank
  | _ => false

/-- Reads a named block; a name stands for one block only, and none is part of a routine. A block
that another template must give has no content of its own. -/
def blockStmt (body : Body) : Reading Stmt := do
  let line ← lastLine
  if (← get).inRoutine then fail
  else outsideLoop do
    let name ← identifier
    if (← get).blocks.contains name then fail
    else
      modify fun c => { c with blocks := name :: c.blocks }
      let _ ← skipWord "scoped"
      let required ← skipWord "required"
      expectBlockEnd
      let inner ← body ["endblock"]
      let _ ← next
      if required && !inner.all isBlankText then fail
      match ← peek with
      | some (.name again) =>
        if again == name then
          let _ ← next
        else fail
      | _ => pure ()
      return .block line name required inner

/-- Takes the words that say whether a template sees the names around it; tells whether they were
there. -/
def contextWords : Reading Bool := do
  let announced ← if ← skipWord "without" then pure true else skipWord "with"
  if announced then expectWord "context"
  return announced

/-- Reads a reference to another template whose text stands here. -/
def includeStmt : Reading Stmt := do
  let line ← lastLine
  let name ← expression
  let inFront ← contextWords
  let ignoreMissing ← skipWord "ignore"
  if ignoreMissing then
    expectWord "missing"
    if !inFront then
      let _ ← contextWords
  return .include line name ignoreMissing

/-- Reads a reference to another template as a whole. -/
def importStmt : Reading Stmt := do
  let line ← lastLine
  let source ← expression
  expectWord "as"
  match (← expression).target? with
  | some place =>
    let _ ← contextWords
    return .importAll line source place
  | none => fail

/-- Reads names with aliases. -/
def importedFrom : Nat → List (String × String) → Reading (List (String × String))
  | 0, _ => fail
  | fuel + 1, done => do
    if (← isAtBlockEnd) || (← contextWords) then return done
    else
      if !done.isEmpty then expect ","
      if (← isAtBlockEnd) || (← contextWords) then return done
      else
        let name ← assignedName
        let given ← if ← skipWord "as" then assignedName else pure name
        importedFrom fuel (done ++ [(name, given)])

/-- Reads a reference to names of another template. -/
def fromStmt : Reading Stmt := do
  let line ← lastLine
  let source ← expression
  expectWord "import"
  return .importNames line source (← importedFrom ((← bound) + 1) [])

/-- Reads parameters with defaults up to the closing bracket; behind a parameter with a default
all have one. -/
def parametersFrom : Nat → List String → List Tree → Reading (List String × List Tree)
  | 0, _, _ => fail
  | fuel + 1, names, defaults => do
    if ← skip ")" then return (names, defaults)
    else
      if !names.isEmpty then expect ","
      if !names.isEmpty && (← skip ")") then return (names, defaults)
      else
        let names := names ++ [← assignedName]
        if ← skip "=" then parametersFrom fuel names (defaults ++ [← expression])
        else if defaults.isEmpty then parametersFrom fuel names defaults
        else fail

/-- Reads the body of a routine. -/
def routineBody (body : Body) (last : String) : Reading (List Stmt) := do
  expectBlockEnd
  let c ← get
  set { c with inLoop := false, inRoutine := true }
  let inner ← body [last]
  modify fun d => { d with inLoop := c.inLoop, inRoutine := c.inRoutine }
  let _ ← next
  return inner

/-- Reads the declaration of a routine. -/
def defineStmt (body : Body) : Reading Stmt := do
  let name ← identifier
  expect "("
  let (names, defaults) ← parametersFrom ((← bound) + 1) [] []
  return .define (.mk name names defaults (← routineBody body "endmacro"))

/-- Reads a call that is handed a block as a routine. -/
def callStmt (body : Body) : Reading Stmt := do
  let (names, defaults) ← if ← skip "(" then parametersFrom ((← bound) + 1) [] []
    else pure ([], [])
  match ← expression with
  | .call line callee args =>
    return .callBlock line callee args (.mk "caller" names defaults (← routineBody body "endcall"))
  | _ => fail

/-- Reads a call whose value is dropped. -/
def performStmt : Reading Stmt := do
  match ← expression with
  | .call line callee args => return .perform line callee args
  | _ => fail

/-- Reads a word that belongs into a loop. -/
def loopWord (stmt : Stmt) : Reading Stmt := do
  if (← get).inLoop then return stmt else fail

/-- Reads a statement between its signs. -/
def statement (body : Body) : Reading Stmt := nested do
  match ← take with
  | .name "for" => loopStmt body
  | .name "if" => choiceStmt body ((← bound) + 1)
  | .name "with" => scopeStmt body
  | .name "set" => setStmt body
  | .name "autoescape" => autoescapeStmt body
  | .name "filter" => filterStmt body
  | .name "block" => blockStmt body
  | .name "extends" => do
    let line ← lastLine
    return .inherit line (← expression)
  | .name "include" => includeStmt
  | .name "import" => importStmt
  | .name "from" => fromStmt
  | .name "macro" => defineStmt body
  | .name "call" => callStmt body
  | .name "do" => performStmt
  | .name "continue" => loopWord .continue
  | .name "break" => loopWord .leave
  | _ => fail

/-- Reads texts, values and statements up to a statement that begins with one of these words, or
up to the end. -/
def bodyFrom (inner : Body) (ends : List String) : Nat → List Stmt → Reading (List Stmt)
  | 0, done => return done.reverse
  | fuel + 1, done => do
    match ← next with
    | none => return done.reverse
    | some (.text text) => bodyFrom inner ends fuel (.text text :: done)
    | some .openValue =>
      let line ← lastLine
      let value ← expression
      match ← take with
      | .closeValue => bodyFrom inner ends fuel (.emit (value.exit line) value :: done)
      | _ => fail
    | some .openBlock =>
      let ended ← match ← peek with
        | none => fail
        | some (.name n) => pure (ends.contains n)
        | some _ => pure false
      if ended then return done.reverse
      else
        let stmt ← statement inner
        expectBlockEnd
        bodyFrom inner ends fuel (stmt :: done)
    | some _ => fail

/-- Reads the statements of a part; the number bounds how parts nest. -/
def bodyWithin : Nat → Body
  | 0 => fun _ => fail
  | fuel + 1 => fun ends => do
    bodyFrom (bodyWithin fuel) ends ((← bound) + 1) []

end Scaffold.Expr.Reading

namespace Scaffold.Expr

/-- The statements of a template. -/
def read (template : String) : Except Failure (List Stmt) :=
  let lexemes := scan template
  (Reading.bodyWithin (lexemes.length + 1) []).run' { lexemes }

end Scaffold.Expr

import Scaffold.Script.EditScript
import Scaffold.Script.Utility

/-!
# Editing — lines that are changed as they pass

For every line of the input the commands of an edit script are run in order on the space that holds
the line; what the space holds at the end is printed. A second space keeps what later lines need.
-/

set_option autoImplicit false

namespace Scaffold.Script

namespace Editing

/-- A line of the input; `isOpen` tells that it has no end. -/
structure Line where
  text : String
  isOpen : Bool

/-- The state of an editor. -/
structure Editor where
  space : String := ""
  kept : String := ""
  /-- The line in the space has no end. -/
  isOpen : Bool := false
  left : List Line
  number : Nat := 0
  output : String := ""
  /-- What was printed last lacks its end. -/
  lacksEnd : Bool := false
  /-- What is printed behind the space. -/
  queued : List String := []
  written : List (String × String) := []
  /-- The ranges that are open: the place of the command and the line that ends it, if known. -/
  ranges : List (Nat × Option Nat) := []
  replaced : Bool := false
  used : Option Expression := none
  ended : Option Nat := none
  tree : FileTree

namespace Editor

/-- Prints a text as it is. -/
def put (e : Editor) (text : String) : Editor :=
  if text.isEmpty then e
  else { e with output := (if e.lacksEnd then e.output ++ "\n" else e.output) ++ text
                lacksEnd := false }

/-- Prints a line; it has an end as the line of the input has one. -/
def say (e : Editor) (line : String) : Editor :=
  if e.isOpen then { (e.put (line ++ "\n")) with output := (e.put line).output, lacksEnd := true }
  else e.put (line ++ "\n")

/-- Writes a line to a file. -/
def write (e : Editor) (path line : String) : Editor :=
  if path == "/dev/stdout" then e.say line
  else
    let before := (e.written.lookup path).getD ""
    { e with written := (path, before ++ line ++ "\n") :: e.written.filter (·.1 != path) }

/-- Prints what is queued. -/
def flush (e : Editor) : Editor :=
  { e.queued.foldl (fun e text => e.put text) e with queued := [] }

/-- The end of a round: the space is printed, then what is queued. -/
def finishRound (e : Editor) (isQuiet : Bool) : Editor :=
  (if isQuiet then e else e.say e.space).flush

/-- The text matches a pattern; the pattern is remembered. -/
def matches_ (e : Editor) (p : Option Expression) : Bool × Editor :=
  match p <|> e.used with
  | none => (false, e)
  | some pattern => (pattern.occurs e.space, { e with used := some pattern })

/-- The line is that of an address. -/
def isAt (e : Editor) : Address → Bool × Editor
  | .line n => (e.number = n, e)
  | .last => (e.left.isEmpty, e)
  | .every first step =>
    (if step = 0 then e.number = first
      else first ≤ e.number && (e.number - first) % step = 0, e)
  | .pattern p => e.matches_ p

/-- Opens or closes the range of a command. -/
def setRange (e : Editor) (place : Nat) (range : Option (Option Nat)) : Editor :=
  let others := e.ranges.filter (·.1 != place)
  { e with ranges := match range with
    | some r => (place, r) :: others
    | none => others }

/-- The command at a place is for the line. -/
def isSelected (e : Editor) (place : Nat) (s : Selection) : Bool × Editor :=
  let (chosen, e) :=
    match s.first, s.limit with
    | none, _ => (true, e)
    | some a, none => e.isAt a
    | some a, some limit =>
      let isOpen := e.ranges.lookup place
      let opens : Option (Option Nat) × Bool × Editor :=
        match isOpen, a with
        | some r, _ => (some r, false, e)
        | none, .line 0 => if e.number = 1 then (some none, false, e) else (none, false, e)
        | none, a =>
          let (begins, e) := e.isAt a
          if begins then (some none, true, e) else (none, false, e)
      match opens with
      | (none, _, e) => (false, e)
      | (some known, isFirst, e) =>
        match limit with
        | .after n =>
          let finish := known.getD (e.number + n)
          (true, e.setRange place (if finish ≤ e.number then none else some (some finish)))
        | .at_ (.line n) =>
          if isFirst then (true, e.setRange place (if n ≤ e.number then none else some none))
          else if n < e.number then
            let (begins, e) := e.isAt a
            (begins, e.setRange place none)
          else (true, e.setRange place (if n ≤ e.number then none else some none))
        | .at_ b =>
          if isFirst then
            match b with
            | .last => (true, e.setRange place (if e.left.isEmpty then none else some none))
            | _ => (true, e.setRange place (some none))
          else
            let (finishes, e) := e.isAt b
            (true, e.setRange place (if finishes then none else some none))
  (chosen != s.isOther, e)

/-- Takes the next line of the input. -/
def takeLine (e : Editor) : Option (String × Editor) :=
  match e.left with
  | [] => none
  | line :: left =>
    some (line.text, { e with left, isOpen := line.isOpen, number := e.number + 1 })

end Editor

/-- A character as the case that is set says. -/
def recased (upper : Option Bool) (c : Char) : Char :=
  match upper with
  | some true => c.toUpper
  | some false => c.toLower
  | none => c

/-- Characters with a case for the first one and one for all. -/
def recasedAll (all next : Option Bool) : List Char → List Char × Option Bool
  | [] => ([], next)
  | c :: rest => (recased (next <|> all) c :: rest.map (recased all), none)

/-- The text that parts make of a match. -/
def replacement (text : Array Char) (m : Expression.Match) :
    Option Bool → Option Bool → List Part → List Char
  | _, _, [] => []
  | all, next, part :: parts =>
    match part with
    | .recase upper => replacement text m upper none parts
    | .recaseNext upper => replacement text m all (some upper) parts
    | .text c =>
      let (cs, next) := recasedAll all next [c]
      cs ++ replacement text m all next parts
    | .group n =>
      let cs := match m.group? n with
        | some (b, e) => (text.extract b e).toList
        | none => []
      let (cs, next) := recasedAll all next cs
      cs ++ replacement text m all next parts

/-- A text with matches replaced, from a place on. -/
def replacedFrom (s : Substitution) (text : Array Char) : Nat → List Expression.Match → List Char
  | last, [] => (text.extract last text.size).toList
  | last, m :: rest =>
    match m.group? 0 with
    | none => replacedFrom s text last rest
    | some (b, e) =>
      (text.extract last b).toList ++ replacement text m none none s.parts
        ++ replacedFrom s text e rest

/-- Replaces matches in a text; none if there are not enough of them. -/
def Substitution.apply (s : Substitution) (pattern : Expression) (text : String) :
    Option String :=
  let chars := text.toList.toArray
  let found := (pattern.findAll chars).drop (s.first - 1)
  let found := if s.isGlobal then found else found.take 1
  if found.isEmpty then none else some (String.ofList (replacedFrom s chars 0 found))

/-- A text in signs that can be seen, as it is written with an end. -/
def plainText (text : String) : String :=
  let octal (b : UInt8) : String :=
    let n := b.toNat
    "\\" ++ toString (n / 64) ++ toString (n / 8 % 8) ++ toString (n % 8)
  let one (b : UInt8) : String :=
    match b with
    | 92 => "\\\\"
    | 7 => "\\a"
    | 8 => "\\b"
    | 9 => "\\t"
    | 10 => "\\n"
    | 11 => "\\v"
    | 12 => "\\f"
    | 13 => "\\r"
    | b => if 32 ≤ b && b < 127 then String.singleton (Char.ofNat b.toNat) else octal b
  String.join ((Raw.bytes text).map one) ++ "$\n"

/-- The place behind the brace that closes the one in front of a place. -/
def behindBlock (commands : List Command) (place : Nat) : Nat :=
  let step (found : Nat × Nat × Option Nat) (c : Command) : Nat × Nat × Option Nat :=
    match found with
    | (n, depth, some p) => (n, depth, some p)
    | (n, depth, none) =>
      match c.op with
      | .enter => (n + 1, depth + 1, none)
      | .leave => if depth = 0 then (n, depth, some (n + 1)) else (n + 1, depth - 1, none)
      | _ => (n + 1, depth, none)
  let (n, _, p) := (commands.drop place).foldl step (place, 0, none)
  p.getD n

/-- How a round ends. -/
inductive Ending
  /-- The space is printed. -/
  | normal
  /-- The space is not printed. -/
  | dropped
  /-- The round begins again with what is left in the space. -/
  | again
  | quit (status : Nat) (isSilent : Bool)

/-- Runs the commands from a place on. -/
def runFrom (commands : List Command) (isQuiet : Bool) : Nat → Nat → Editor → Ending × Editor
  | 0, _, e => (.quit 1 true, e)
  | fuel + 1, place, e =>
    match commands[place]? with
    | none => (.normal, e)
    | some c =>
      let (chosen, e) := e.isSelected place c.selection
      let go (e : Editor) : Ending × Editor := runFrom commands isQuiet fuel (place + 1) e
      let jump (name : String) (e : Editor) : Ending × Editor :=
        match if name.isEmpty then none else labelPlace? commands name with
        | some target => runFrom commands isQuiet fuel target e
        | none => (.normal, e)
      let first (text : String) : String := String.ofList (text.toList.takeWhile (· != '\n'))
      if !chosen then
        match c.op with
        | .enter => runFrom commands isQuiet fuel (behindBlock commands (place + 1)) e
        | _ => go e
      else
        match c.op with
        | .enter | .leave | .label _ => go e
        | .append text => go { e with queued := e.queued ++ [text] }
        | .insert text => go (e.put text)
        | .change text =>
          let isWithin := c.selection.limit.isSome && !c.selection.isOther
            && (e.ranges.lookup place).isSome
          (.dropped, if isWithin then e else e.put text)
        | .delete => (.dropped, e)
        | .deleteFirst =>
          if e.space.toList.contains '\n' then
            let rest := (e.space.toList.dropWhile (· != '\n')).drop 1
            (.again, { e with space := String.ofList rest })
          else (.dropped, e)
        | .print => go (e.say e.space)
        | .printFirst => go (e.put (first e.space ++ "\n"))
        | .printNumber => go (e.put (toString e.number ++ "\n"))
        | .printPlain => go (e.put (plainText e.space))
        | .next =>
          match (if isQuiet then e else if e.left.isEmpty then e else e.say e.space).takeLine with
          | some (line, after) => go { after.flush with space := line }
          | none => (.quit 0 false, e)
        | .nextAppended =>
          match e.takeLine with
          | some (line, after) => go { after.flush with space := e.space ++ "\n" ++ line }
          | none => (.quit 0 false, e)
        | .hold => go { e with kept := e.space }
        | .holdAppended => go { e with kept := e.kept ++ "\n" ++ e.space }
        | .recall => go { e with space := e.kept }
        | .recallAppended => go { e with space := e.space ++ "\n" ++ e.kept }
        | .exchange => go { e with space := e.kept, kept := e.space }
        | .quit status isSilent => (.quit status isSilent, e)
        | .readFile path =>
          match e.tree.read path with
          | .ok b => go { e with queued := e.queued ++ [Raw.text b] }
          | .error _ => go e
        | .writeFile path => go (e.write path e.space)
        | .jump name => jump name e
        | .jumpIfReplaced name =>
          if e.replaced then jump name { e with replaced := false } else go e
        | .jumpUnlessReplaced name =>
          if e.replaced then go { e with replaced := false } else jump name e
        | .transliterate pairs =>
          go { e with space := e.space.map fun c => (pairs.lookup c).getD c }
        | .substitute s =>
          match s.pattern <|> e.used with
          | none => go e
          | some pattern =>
            let e := { e with used := some pattern }
            match s.apply pattern e.space with
            | none => go e
            | some space =>
              let e := { e with space, replaced := true }
              let e := if s.prints then e.say e.space else e
              go (s.file.elim e fun path => e.write path e.space)

/-- Runs a script on all lines. -/
def runAll (commands : List Command) (isQuiet : Bool) : Nat → Bool → Editor → Editor
  | 0, _, e => e
  | fuel + 1, isAgain, e =>
    match if isAgain then some (e.space, e) else e.takeLine with
    | none => e
    | some (line, e) =>
      let e := { e with space := line, replaced := if isAgain then e.replaced else false }
      match runFrom commands isQuiet 100000 0 e with
      | (.normal, e) => runAll commands isQuiet fuel false (e.finishRound isQuiet)
      | (.dropped, e) => runAll commands isQuiet fuel false e.flush
      | (.again, e) => runAll commands isQuiet fuel true e.flush
      | (.quit status isSilent, e) =>
        let e := if isSilent then e else e.finishRound isQuiet
        { e with ended := some status }

/-- The lines of a content. -/
def linesOf (b : Bytes) : List Line :=
  (Utility.lines b).map fun l =>
    ⟨Raw.text (Utility.bareLine l), l.getLast? != some 10⟩

/-- Only the last of all lines may lack its end. -/
def closedLines (contents : List Bytes) : List Line :=
  let all := contents.flatMap linesOf
  all.dropLast.map (fun l => { l with isOpen := false }) ++ all.getLast?.toList

/-- Where a script goes wrong: the number of the expression and the number of its characters up to
there. -/
def faultPlace : Nat → Nat → List String → Nat × Nat
  | n, place, [] => (n, place)
  | n, place, text :: more =>
    if place ≤ text.length || more.isEmpty then (n, place)
    else faultPlace (n + 1) (place - text.length - 1) more

/-- The report of a fault in a script. -/
def report (texts : List String) (fault : Fault) (left : Nat) : String :=
  match fault with
  | .noLabel _ | .badPattern .loneClass => "sed: " ++ fault.message ++ "\n"
  | fault =>
    let whole := "\n".intercalate texts
    let (n, place) := faultPlace 1 (whole.length - left) texts
    let place := if fault = .unmatchedOpen then 0 else place
    "sed: -e expression #" ++ toString n ++ ", char " ++ toString place ++ ": " ++ fault.message
      ++ "\n"

/-- Writes what was collected for files. -/
def writeAll (written : List (String × String)) (s : Session) : Printed × Session :=
  written.foldl (fun (p, s) (path, text) =>
    let (q, s) := Utility.change s ("sed: couldn't open file " ++ path)
      (s.tree.write path (Raw.bytes text))
    (p ++ q, s)) ([], s)

/-- Splits an option that changes files in place from the ending for what they were before. -/
def splitInPlace (args : List String) : List String :=
  args.flatMap fun a =>
    match a.toList with
    | '-' :: cs =>
      let flags := cs.takeWhile fun c => ['n', 'E', 'r', 's', 'u', 'z'].contains c
      match cs.drop flags.length with
      | 'i' :: ending =>
        let flag := String.ofList ('-' :: flags ++ ['i'])
        if ending.isEmpty then [flag] else [flag, "-Z" ++ String.ofList ending]
      | _ => [a]
    | _ => [a]

/-- The texts of a script: of options and of files. -/
def scriptTexts (o : Settings) (s : Session) : Except Printed (List String) :=
  (o.given.filter fun (c, _) => c == 'e' || c == 'f').mapM fun (c, value) =>
    if c == 'e' then .ok value
    else
      match s.tree.read value with
      | .ok b => .ok (Raw.text (Utility.bareLine b))
      | .error fault =>
        .error (err ("sed: couldn't open file " ++ value ++ ": " ++ plainFault fault ++ "\n"))

/-- Edits each file in place. -/
def editFiles (commands : List Command) (o : Settings) (paths : List String) (s : Session) :
    Printed × Session :=
  Utility.onEach (fun path s =>
    match s.tree.read path with
    | .error fault =>
      if fault = .missing then
        Utility.bad 1 (err ("sed: can't read " ++ path ++ ": No such file or directory\n")) s
      else Utility.bad 4 (err ("sed: couldn't edit " ++ path ++ ": not a regular file\n")) s
    | .ok b =>
      let e := runAll commands (o.has 'n') 100000 false { left := linesOf b, tree := s.tree }
      let s := match o.value? 'Z' with
        | some ending =>
          match s.tree.write (path ++ ending) b with
          | .ok tree => { s with tree }
          | .error _ => s
        | none => s
      let rest := String.join (e.left.map fun l => l.text ++ if l.isOpen then "" else "\n")
      let (p, s) := Utility.change s ("sed: couldn't open file " ++ path)
        (s.tree.write path (Raw.bytes (e.output ++ rest)))
      let (q, s) := writeAll e.written s
      (p ++ q, s)) paths s

/-- Edits lines as they pass. -/
def sed : Tool where
  name := "sed"
  flags := "nErsuzi"
  valued := "efZl"
  names := [("quiet", 'n'), ("silent", 'n'), ("expression", 'e'), ("file", 'f'),
    ("regexp-extended", 'E'), ("line-length", 'l'), ("separate", 's'), ("unbuffered", 'u'),
    ("null-data", 'z')]
  prepare := splitInPlace
  reads o :=
    let operands := if o.given.any (fun (c, _) => c == 'e' || c == 'f') then o.operands
      else o.operands.drop 1
    operands.isEmpty || operands.contains "-"
  run o input s :=
    match scriptTexts o s with
    | .error p => Utility.bad 1 p s
    | .ok given =>
      let (texts, paths) := match given, o.operands with
        | [], text :: paths => ([text], paths)
        | given, paths => (given, paths)
      if texts.isEmpty then
        Utility.bad 1 (err ("Usage: sed [OPTION]... \x7bscript-only-if-no-other-script\x7d " ++
          "[input-file]...\n")) s
      else
        match read (!(o.has 'E' || o.has 'r')) ("\n".intercalate texts) with
        | .error (fault, left) =>
          Utility.bad (match fault with
            | .noLabel _ | .badPattern .loneClass => 4
            | _ => 1) (err (report texts fault left)) s
        | .ok commands =>
          if o.has 'i' then editFiles commands o paths s
          else
            let paths := if paths.isEmpty then ["-"] else paths
            let contents := paths.map fun path =>
              Utility.contentOf (fun path =>
                if s.tree.kind? path = some .directory then "sed: couldn't edit " ++ path
                else "sed: can't read " ++ path) input path s
            let faults : Printed := contents.flatMap fun r =>
              match r with
              | .ok _ => []
              | .error p => p
            let there := contents.filterMap Except.toOption
            let e := runAll commands (o.has 'n') 100000 false
              { left := closedLines there, tree := s.tree }
            let (p, s) := writeAll e.written s
            let status := if there.length = contents.length then e.ended.getD 0 else 2
            Utility.bad status (faults ++ out e.output ++ p) s

end Editing

end Scaffold.Script

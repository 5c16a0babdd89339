import Scaffold.Regex.Reading
import Scaffold.Regex.Search
import Scaffold.Script.FileUtility
import Scaffold.Script.Occurrence
import Scaffold.Script.Pattern

/-!
# Matching — lines that match a pattern

Lines that match, or all others, are printed, counted or only looked for. Lines around them are
printed as well where that is asked for; a sign tells them apart from those that match, and a mark
stands between groups of lines.
-/

set_option autoImplicit false

namespace Scaffold.Script

namespace Matching

/-! ## Patterns -/

/-- What is looked for in lines: the first match at or behind a place. -/
abbrev Sought := Array Char → Nat → Option (Nat × Nat)

/-- How patterns are written. -/
def styleOf (o : Settings) : Expression.Style :=
  let isExtended := o.has 'E'
  { isExtended, ignoresCase := (o.has 'i' || o.has 'y')
    lead := if isExtended then .skipped else .literal
    hasLooseCounts := isExtended, hasLooseClose := isExtended, refusesLoneClass := true }

/-- How much of a line has to match. -/
def extentOf (o : Settings) : Expression.Extent :=
  if o.has 'x' then .wholeLine else if o.has 'w' then .wholeWord else .anywhere

/-- What texts look for, or the report of a fault. -/
def soughtOf (o : Settings) (texts : List String) : Except String Sought :=
  let span (e : Expression) : Sought := fun text start =>
    (e.find? text start).bind (·.group? 0)
  if texts.isEmpty then .ok fun _ _ => none
  else if o.has 'F' then .ok (span (.ofLiterals (styleOf o) (extentOf o) texts))
  else if o.has 'P' then
    let source := "|".intercalate texts
    let source := match extentOf o with
      | .anywhere => source
      | .wholeLine => "^(?:" ++ source ++ ")$"
      | .wholeWord => "(?-u:\\b)(?:" ++ source ++ ")(?-u:\\b)"
    match Regex.ofText? ((if o.has 'i' then "(?i)" else "") ++ source) with
    | none => .error "invalid pattern"
    | some p =>
      let program := p.program
      .ok fun text start => (Regex.find? p program text start).bind (·.group? 0)
  else
    match Expression.ofTexts (styleOf o) (extentOf o) texts with
    | .ok e => .ok (span e)
    | .error fault => .error fault.message

/-- The parts of a line that match, without the empty ones, each with its place. -/
def partsOf (sought : Sought) (line : Array Char) : Nat → Nat → List (Nat × Nat)
  | 0, _ => []
  | fuel + 1, start =>
    match sought line start with
    | none => []
    | some (b, e) =>
      if b = e then if b < line.size then partsOf sought line fuel (b + 1) else []
      else (b, e) :: partsOf sought line fuel e

/-! ## Lines -/

/-- A line of a content: its number, the place of its first byte, and its text. -/
structure Line where
  number : Nat
  place : Nat
  text : Bytes

/-- The lines of a content; zeros end them where that is said. -/
def linesOf (zero : Bool) (b : Bytes) : List Line :=
  let texts := if zero then
      let parts := Occurrences.split [(0 : UInt8)] b
      if parts.getLast? == some [] then parts.dropLast else parts
    else (Utility.lines b).map Utility.bareLine
  (texts.foldl (fun (n, place, done) text =>
    (n + 1, place + text.length + 1, (⟨n, place, text⟩ : Line) :: done)) (1, 0, [])).2.2.reverse

/-- What is done with the matches in a content. -/
structure Plan where
  sought : Sought
  inverts : Bool := false
  most : Option Nat := none
  before : Nat := 0
  after : Nat := 0
  hasContext : Bool := false
  hasNumbers : Bool := false
  hasPlaces : Bool := false
  onlyParts : Bool := false
  hasColor : Bool := false
  separator : Option String := some "--"
  title : Option String := none
  endsTitleWithZero : Bool := false
  hasTab : Bool := false
  zero : Bool := false

/-- The line is one of those that are asked for. -/
def Plan.selects (p : Plan) (line : Line) : Bool :=
  (p.sought (Raw.text line.text).toList.toArray 0).isSome != p.inverts

/-- Which lines are selected: as many as are wanted at most. -/
def Plan.selected (p : Plan) : Nat → List Line → List Line
  | _, [] => []
  | count, line :: more =>
    if p.most.any (decide <| · ≤ count) then []
    else if p.selects line then line :: p.selected (count + 1) more
    else p.selected count more

/-- What stands in front of a line. -/
def Plan.lead (p : Plan) (sign : Char) (number place : Nat) : Bytes :=
  let paint (code text : String) : String :=
    if p.hasColor then "\x1b[" ++ code ++ "m\x1b[K" ++ text ++ "\x1b[m\x1b[K" else text
  let mark := paint "36" (String.singleton sign)
  let wide (n width : Nat) : String :=
    let digits := toString n
    if p.hasTab then String.ofList (List.replicate (width - digits.length) ' ') ++ digits
    else digits
  let title := p.title.elim "" fun t =>
    paint "35" t ++ if p.endsTitleWithZero then "\x00" else mark
  let number := if p.hasNumbers then paint "32" (wide number 4) ++ mark else ""
  let place := if p.hasPlaces then paint "32" (wide place 6) ++ mark else ""
  let text := title ++ number ++ place
  Raw.bytes (text ++ if p.hasTab && !text.isEmpty then "\t" else "")

/-- The end of a line. -/
def Plan.lineEnd (p : Plan) : Bytes := [if p.zero then 0 else 10]

/-- A text in the colour of matches. -/
def painted (b : Bytes) : Bytes :=
  Raw.bytes "\x1b[01;31m\x1b[K" ++ b ++ Raw.bytes "\x1b[m\x1b[K"

/-- A line with its matches in colour. -/
def Plan.colored (p : Plan) (text : Bytes) : Bytes :=
  let parts := partsOf p.sought (Raw.text text).toList.toArray (text.length + 1) 0
  let (place, done) := parts.foldl (fun (place, done) (b, e) =>
    (e, done ++ (text.take b).drop place ++ painted ((text.take e).drop b))) (0, [])
  done ++ text.drop place

/-- A selected line as it is printed. -/
def Plan.shown (p : Plan) (line : Line) : Bytes :=
  if p.onlyParts then
    if p.inverts then []
    else
      let parts := partsOf p.sought (Raw.text line.text).toList.toArray (line.text.length + 1) 0
      parts.flatMap fun (b, e) =>
        let part := (line.text.take e).drop b
        p.lead ':' line.number (line.place + b) ++ (if p.hasColor then painted part else part)
          ++ p.lineEnd
  else
    p.lead ':' line.number line.place
      ++ (if p.hasColor && !p.inverts then p.colored line.text else line.text) ++ p.lineEnd

/-- What is printed of a content: the selected lines and those around them. Behind the last one of
so many lines no others are looked at, except those that are printed for it. -/
def Plan.printed (p : Plan) (lines selected : List Line) : Bytes :=
  if !p.hasContext || p.onlyParts then
    let mark : Bytes := if p.hasContext then
        (p.separator.elim [] fun t => Raw.bytes (t ++ "\n")) else []
    (selected.zip (0 :: selected.map Line.number)).flatMap fun (line, last) =>
      (if last = 0 || line.number ≤ last + p.before + p.after + 1 then [] else mark) ++ p.shown line
  else
    let numbers := selected.map Line.number
    let isNear (n : Nat) : Bool := numbers.any fun m => m ≤ n + p.before && n ≤ m + p.after
    let near := lines.filter fun line => isNear line.number
    let mark := p.separator.elim [] fun t => Raw.bytes (t ++ "\n")
    let step (done : Nat × Bytes) (line : Line) : Nat × Bytes :=
      let gap := if done.1 != 0 && done.1 + 1 < line.number then mark else []
      let shown := if numbers.contains line.number then p.shown line
        else if p.onlyParts then []
        else p.lead '-' line.number line.place ++ line.text ++ p.lineEnd
      (line.number, done.2 ++ gap ++ shown)
    (near.foldl step (0, [])).2

/-! ## The program -/

/-- The paths that are searched: those of the operands, and the files below directories. -/
def searchedPaths (recursive : Bool) (t : FileTree) (paths : List String) : List String :=
  if !recursive then if paths.isEmpty then ["-"] else paths
  else
    let filesOf (d : String) : List String :=
      match t.place d with
      | .ok p => ((t.names p).mergeSort fun a b => a ≤ b).filterMap fun n =>
        match t.entry? (p ++ [n]) with
        | some (.file _) => some (Path.join d n)
        | _ => none
      | .error _ => []
    if paths.isEmpty then
      (Utility.within t ".").flatMap filesOf |>.map fun path => String.ofList (path.toList.drop 2)
    else
      paths.flatMap fun path =>
        if t.kind? path = some .directory then (Utility.within t path).flatMap filesOf else [path]

/-- The number of lines around matches that a text asks for. -/
def contextOf (o : Settings) (letters : List Char) : Except String (Option Nat) :=
  match (o.given.filter fun (c, _) => letters.contains c).getLast? with
  | none => .ok none
  | some (_, text) =>
    match text.toNat? with
    | some n => .ok (some n)
    | none => .error (text ++ ": invalid context length argument")

/-- An older form of the number of lines around matches: digits behind a dash. -/
def prepareContext (args : List String) : List String :=
  args.map fun a =>
    match a.toList with
    | '-' :: c :: cs => if (c :: cs).all Char.isDigit then "-C" ++ String.ofList (c :: cs) else a
    | _ => a

/-- The path passes the patterns that include and exclude files. -/
def passes (o : Settings) (isOperand : Bool) (path : String) : Bool :=
  let name := ((path.splitOn "/").getLast?).getD path
  let fits (pattern : String) : Bool :=
    Pattern.fits (pattern.toList.map (·, false)) name.toList
      || Pattern.fits (pattern.toList.map (·, false)) path.toList
  let folders := (path.splitOn "/").dropLast
  let isIn (pattern : String) : Bool :=
    folders.any fun f => Pattern.fits (pattern.toList.map (·, false)) f.toList
  let included := o.values '1'
  (isOperand && path == "-") ||
    ((included.isEmpty || included.any fits) && !(o.values '2').any fits
      && (isOperand || !(o.values '3').any isIn))

/-- The patterns of arguments and files, and the other operands. -/
def patternTexts (o : Settings) (input : Bytes) (s : Session) :
    Except Printed (List String × List String) := do
  let given := o.given.filter fun (c, _) => c == 'e' || c == 'f'
  let texts ← given.mapM fun (c, value) =>
    if c == 'e' then .ok (value.splitOn "\n")
    else do
      let b ← Utility.contentOf (fun path => "grep: " ++ path) input value s
      return (Utility.lines b).map fun l => Raw.text (Utility.bareLine l)
  match given, o.operands with
  | [], text :: paths => return (text.splitOn "\n", paths)
  | _, paths => return (texts.flatten, paths)

/-- Prints the lines that match a pattern. -/
def search (name : String) (implied : List (Char × String)) (o : Settings) (input : Bytes)
    (s : Session) : Printed × Session :=
  let o := { o with given := o.given ++ implied }
  let fails (text : String) : Printed × Session :=
    Utility.bad 2 (err (name ++ ": " ++ text ++ "\n")) s
  let kinds := ['E', 'F', 'G', 'P']
  let kind := (o.given.filter fun (c, _) => kinds.contains c).getLast?.toList
  let o := { o with given := (o.given.filter fun (c, _) => !kinds.contains c) ++ kind }
  if o.operands.isEmpty && !(o.has 'e' || o.has 'f') then
    Utility.bad 2 (err ("Usage: grep [OPTION]... PATTERNS [FILE]...\n" ++ Tool.hint "grep")) s
  else
    match contextOf o ['B', 'C'], contextOf o ['A', 'C'] with
    | .error text, _ | .ok _, .error text => fails text
    | .ok before, .ok after =>
      match o.value? 'm', (o.value? 'm').bind String.toInt? with
      | some _, none => fails "invalid max count"
      | _, most =>
        match patternTexts o input s with
        | .error p => Utility.bad 2 p s
        | .ok (texts, paths) =>
          match soughtOf o texts with
          | .error text => fails text
          | .ok sought =>
            let recursive := o.has 'r' || o.has 'R'
            let searched := (searchedPaths recursive s.tree paths).filter fun path =>
              passes o (paths.contains path) path
            let hasFolder := recursive
              && (paths.isEmpty || paths.any fun p => s.tree.kind? p = some .directory)
            let isTitled := (o.has 'H' || 1 < paths.length || hasFolder) && !o.has 'h'
            let plan : Plan :=
              { sought, inverts := o.has 'v'
                most := most.bind fun n => if n < 0 then none else some n.toNat
                before := before.getD 0, after := after.getD 0
                hasContext := before.isSome || after.isSome
                hasNumbers := o.has 'n', hasPlaces := o.has 'b', onlyParts := o.has 'o'
                hasColor := o.value? '6' == some "always", hasTab := o.has 'T'
                separator := if o.has '5' then none else some ((o.value? '4').getD "--")
                endsTitleWithZero := o.has 'Z', zero := o.has 'z' }
            let one (path : String) : Except Printed (Printed × Bool) := do
              let isFolder := path != "-" && s.tree.kind? path = some .directory
              if isFolder && (o.value? 'd' == some "skip") then return ([], false)
              let b ← Utility.contentOf (fun path => "grep: " ++ path) input path s
              let lines := linesOf plan.zero b
              let shown := if path == "-" then (o.value? '7').getD "(standard input)" else path
              let plan := { plan with title := if isTitled then some shown else none }
              let selected := plan.selected 0 lines
              let found := !selected.isEmpty
              let head (mark : String) : String :=
                if isTitled then shown ++ (if o.has 'Z' then "\x00" else mark) else ""
              let isBinary := b.contains 0 && !plan.zero && !o.has 'a'
              let p : Printed :=
                if o.has 'q' then []
                else if o.has 'l' || o.has 'L' then
                  if found == o.has 'l' then
                    out (shown ++ if o.has 'Z' then "\x00" else "\n")
                  else []
                else if o.has 'c' then out (head ":" ++ toString selected.length ++ "\n")
                else if isBinary && found then
                  if o.has 'I' then []
                  else err ("grep: " ++ shown ++ ": binary file matches\n")
                else [(1, plan.printed lines selected)]
              return (p, found && !(isBinary && o.has 'I'))
            let results := searched.map one
            let printed : Printed := results.flatMap fun
              | .ok (p, _) => p
              | .error p => if o.has 's' then [] else p
            let failed := results.any fun
              | .ok _ => false
              | .error _ => true
            let found := results.any fun
              | .ok (_, found) => found
              | .error _ => false
            Utility.bad (if failed && !(found && o.has 'q') then 2 else if found then 0 else 1)
              (printed.filter (!·.2.isEmpty)) s

/-- A program that searches; options may be implied. -/
def searchTool (name : String) (implied : List (Char × String)) : Tool where
  name
  flags := "EFGPcHhILlnoqRrsTUvwxyizZab5u"
  valued := "ABCDdefm12347"
  optional := "6"
  names := [("extended-regexp", 'E'), ("fixed-strings", 'F'), ("fixed-regexp", 'F'),
    ("basic-regexp", 'G'), ("perl-regexp", 'P'), ("after-context", 'A'), ("before-context", 'B'),
    ("byte-offset", 'b'), ("context", 'C'), ("color", '6'), ("colour", '6'), ("count", 'c'),
    ("devices", 'D'), ("directories", 'd'), ("exclude", '2'), ("exclude-dir", '3'), ("file", 'f'),
    ("files-with-matches", 'l'), ("files-without-match", 'L'), ("group-separator", '4'),
    ("ignore-case", 'i'), ("include", '1'), ("initial-tab", 'T'), ("invert-match", 'v'),
    ("label", '7'), ("line-number", 'n'), ("line-regexp", 'x'), ("max-count", 'm'),
    ("no-filename", 'h'), ("no-group-separator", '5'), ("no-messages", 's'), ("null", 'Z'),
    ("null-data", 'z'), ("only-matching", 'o'), ("quiet", 'q'), ("recursive", 'r'),
    ("dereference-recursive", 'R'), ("regexp", 'e'), ("silent", 'q'), ("text", 'a'),
    ("with-filename", 'H'), ("word-regexp", 'w')]
  misuse := 2
  usage := "Usage: grep [OPTION]... PATTERNS [FILE]...\n"
  prepare := prepareContext
  reads o := o.operands.length ≤ (if o.has 'e' || o.has 'f' then 0 else 1)
    && !(o.has 'r' || o.has 'R') || o.operands.contains "-"
  run o input s := search name implied o input s

/-- The programs that search. -/
def searchTools : List Tool :=
  [searchTool "grep" [], searchTool "egrep" [('E', "")], searchTool "fgrep" [('F', "")]]

end Matching

end Scaffold.Script

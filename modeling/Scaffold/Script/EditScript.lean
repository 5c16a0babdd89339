import Scaffold.Script.Occurrence
import Scaffold.Script.Session

/-!
# EditScript — commands for lines and how they are written

An edit script is a row of commands, each with the lines that it is for. A fault in a script is
reported with the number of characters in front of it.
-/

set_option autoImplicit false

namespace Scaffold.Script

namespace Editing

/-! ## Scripts -/

/-- What a line is selected by. -/
inductive Address
  | line (n : Nat)
  | last
  /-- No pattern stands for the one that was used last. -/
  | pattern (p : Option Expression)
  /-- A line and every line so many behind it. -/
  | every (first step : Nat)

/-- What a range of lines ends with. -/
inductive Limit
  | at_ (address : Address)
  /-- So many lines behind the first one. -/
  | after (count : Nat)

/-- The lines that a command is for. -/
structure Selection where
  first : Option Address := none
  limit : Option Limit := none
  /-- The command is for all other lines. -/
  isOther : Bool := false

/-- A part of a replacement. -/
inductive Part
  | text (c : Char)
  | group (n : Nat)
  /-- From here on all letters are capitals, or small, or as they are. -/
  | recase (upper : Option Bool)
  /-- The next letter is a capital, or small. -/
  | recaseNext (upper : Bool)

/-- What takes the place of matches. -/
structure Substitution where
  pattern : Option Expression
  parts : List Part
  /-- The first match that is replaced. -/
  first : Nat := 1
  /-- All matches behind it are replaced as well. -/
  isGlobal : Bool := false
  prints : Bool := false
  file : Option String := none

/-- What a command does. -/
inductive Op
  | enter | leave
  | append (text : String) | insert (text : String) | change (text : String)
  | delete | deleteFirst | print | printFirst | printNumber | printPlain
  | next | nextAppended
  | hold | holdAppended | recall | recallAppended | exchange
  | quit (status : Nat) (isSilent : Bool)
  | readFile (path : String) | writeFile (path : String)
  | label (name : String)
  | jump (name : String) | jumpIfReplaced (name : String) | jumpUnlessReplaced (name : String)
  | substitute (s : Substitution)
  | transliterate (pairs : List (Char × Char))

/-- A command. -/
structure Command where
  selection : Selection
  op : Op

/-- What is wrong with a script. -/
inductive Fault
  | unterminated (command : Char)
  | unknownCommand (c : Char)
  | unknownOption
  | unterminatedAddress
  | unexpectedClose
  | unmatchedOpen
  | unexpectedComma
  | missingCommand
  | expectedBackslash
  | extraCharacters
  | commentAddress
  | labelAddress
  | differentLengths
  | invalidReference (n : Nat)
  | repeated (option : Char)
  | severalNumbers
  | zeroNumber
  | badPattern (fault : Expression.Fault)
  | noPattern
  | noLabel (name : String)
  deriving DecidableEq, Repr

/-- The wording of a fault. -/
def Fault.message : Fault → String
  | .unterminated c => "unterminated \x60" ++ String.singleton c ++ "' command"
  | .unknownCommand c => "unknown command: \x60" ++ String.singleton c ++ "'"
  | .unknownOption => "unknown option to \x60s'"
  | .unterminatedAddress => "unterminated address regex"
  | .unexpectedClose => "unexpected \x60\x7d'"
  | .unmatchedOpen => "unmatched \x60\x7b'"
  | .unexpectedComma => "unexpected \x60,'"
  | .missingCommand => "missing command"
  | .expectedBackslash => "expected \\ after \x60a', \x60c' or \x60i'"
  | .extraCharacters => "extra characters after command"
  | .commentAddress => "comments don't accept any addresses"
  | .labelAddress => ": doesn't want any addresses"
  | .differentLengths => "strings for \x60y' command are different lengths"
  | .invalidReference n =>
    "invalid reference \\" ++ toString n ++ " on \x60s' command's RHS"
  | .repeated c => "multiple \x60" ++ String.singleton c ++ "' options to \x60s' command"
  | .severalNumbers => "multiple number options to \x60s' command"
  | .zeroNumber => "number option to \x60s' command may not be zero"
  | .badPattern fault => fault.message
  | .noPattern => "no previous regular expression"
  | .noLabel name => "can't find label for jump to \x60" ++ name ++ "'"

/-! ## Reading scripts

A reader takes characters from the front of a script; a fault tells how many were left. -/

/-- What a reader gives, or a fault with the number of characters behind it. -/
abbrev Reading := Except (Fault × Nat)

/-- A fault in front of a rest. -/
def fails {α : Type} (fault : Fault) (rest : List Char) : Reading α := .error (fault, rest.length)

/-- Where in a pattern a reader stands. -/
inductive Spot
  | plain | opened | inside | named

/-- The characters up to a sign that is neither behind a backslash nor in a set of a pattern. -/
def delimited (sign : Char) (isPattern : Bool) :
    Spot → List Char → Option (List Char × List Char)
  | _, [] => none
  | .plain, '\\' :: c :: rest =>
    let kept := if c = sign then [c] else ['\\', c]
    (delimited sign isPattern .plain rest).map fun (text, rest) => (kept ++ text, rest)
  | .plain, c :: rest =>
    if c = sign then some ([], rest)
    else
      let next := if c = '[' && isPattern then Spot.opened else .plain
      (delimited sign isPattern next rest).map fun (text, rest) => (c :: text, rest)
  | .opened, c :: rest =>
    let next := if c = '^' then Spot.opened
      else if c = '[' && rest.head? == some ':' then .named
      else .inside
    (delimited sign isPattern next rest).map fun (text, rest) => (c :: text, rest)
  | .inside, c :: rest =>
    let next := if c = ']' then Spot.plain
      else if c = '[' && rest.head? == some ':' then .named
      else .inside
    (delimited sign isPattern next rest).map fun (text, rest) => (c :: text, rest)
  | .named, c :: rest =>
    let next := if c = ']' then Spot.inside else .named
    (delimited sign isPattern next rest).map fun (text, rest) => (c :: text, rest)

/-- Blanks in front of a text are left out. -/
def skipBlanks (cs : List Char) : List Char := cs.dropWhile fun c => c == ' ' || c == '\t'

/-- A number, if one is there. -/
def number? (cs : List Char) : Option (Nat × List Char) :=
  let digits := cs.takeWhile Char.isDigit
  (String.ofList digits).toNat?.map (·, cs.drop digits.length)

/-- How patterns of scripts are written. -/
def styleOf (isBasic ignoresCase isMultiline : Bool) : Expression.Style :=
  { isExtended := !isBasic, ignoresCase, isMultiline
    lead := if isBasic then .literal else .fault, isStrict := true, hasEscapes := true
    refusesLoneClass := true }

/-- The pattern that a text spells; an empty one is the pattern that was used last. -/
def patternFor (style : Expression.Style) (text : List Char) (rest : List Char) :
    Reading (Option Expression) :=
  if text.isEmpty then .ok none
  else
    match Expression.ofText style (String.ofList text) with
    | .ok p => .ok (some p)
    | .error fault => .error (.badPattern fault, rest.length)

/-- A pattern as an address, with the signs around it. -/
def patternAddress (isBasic : Bool) (sign : Char) (cs : List Char) :
    Reading (Address × List Char) :=
  match delimited sign true .plain cs with
  | none => .error (.unterminatedAddress, 0)
  | some (text, rest) => do
    let flags := rest.takeWhile fun c => c == 'I' || c == 'M'
    let rest := rest.drop flags.length
    let style := styleOf isBasic (flags.contains 'I') (flags.contains 'M')
    return (.pattern (← patternFor style text rest), rest)

/-- An address, if one is there. -/
def address (isBasic : Bool) (cs : List Char) : Reading (Option Address × List Char) :=
  match cs with
  | '$' :: rest => .ok (some .last, rest)
  | '/' :: rest => (patternAddress isBasic '/' rest).map fun (a, rest) => (some a, rest)
  | '\\' :: c :: rest => (patternAddress isBasic c rest).map fun (a, rest) => (some a, rest)
  | cs =>
    match number? cs with
    | none => .ok (none, cs)
    | some (n, rest) =>
      match rest with
      | '~' :: more =>
        match number? more with
        | some (step, rest) => .ok (some (.every n step), rest)
        | none => .ok (some (.every n 0), more)
      | rest => .ok (some (.line n), rest)

/-- The lines that a command is for. -/
def selection (isBasic : Bool) (cs : List Char) : Reading (Selection × List Char) := do
  let (first, cs) ← address isBasic cs
  let cs := skipBlanks cs
  let (limit, cs) ← match first, cs with
    | some _, ',' :: rest =>
      match skipBlanks rest with
      | '+' :: more =>
        match number? more with
        | some (n, rest) => pure (some (Limit.after n), rest)
        | none => fails .unexpectedComma rest
      | more => do
        match ← address isBasic more with
        | (some a, rest) => pure (some (Limit.at_ a), rest)
        | (none, _) => fails .unexpectedComma rest
    | _, cs => pure (none, cs)
  let cs := skipBlanks cs
  match cs with
  | '!' :: rest =>
    return ({ first, limit, isOther := true }, skipBlanks (rest.dropWhile (· == '!')))
  | cs => return ({ first, limit }, cs)

/-- The text behind a command that takes one: up to the end of a line that no backslash
continues. -/
def blockText : List Char → List Char × List Char
  | [] => ([], [])
  | '\n' :: rest => ([], rest)
  | '\\' :: c :: rest =>
    let (text, rest) := blockText rest
    (c :: text, rest)
  | c :: rest =>
    let (text, rest) := blockText rest
    (c :: text, rest)

/-- The text of a command that adds lines. -/
def addedText (cs : List Char) : Reading (String × List Char) :=
  let ended (cs : List Char) : Reading (String × List Char) :=
    let (text, rest) := blockText cs
    .ok (String.ofList text ++ "\n", rest)
  match skipBlanks cs with
  | [] => fails .expectedBackslash []
  | '\\' :: rest =>
    match skipBlanks rest with
    | '\n' :: more => ended more
    | [] => .ok ("", [])
    | _ => ended rest
  | cs => ended cs

/-- The rest of a line: a label or a path. -/
def lineText (cs : List Char) : String × List Char :=
  let text := (skipBlanks cs).takeWhile (· != '\n')
  (String.ofList text, (skipBlanks cs).drop (text.length + 1))

/-- A label, up to a blank or a semicolon. -/
def labelText (cs : List Char) : String × List Char :=
  let cs := skipBlanks cs
  let text := cs.takeWhile fun c => c != '\n' && c != ';' && c != ' ' && c != '\t'
  (String.ofList text, cs.drop text.length)

/-- The end of a command: a semicolon, the end of a line, or a brace that is left there. -/
def ended (cs : List Char) : Reading (Unit × List Char) :=
  match skipBlanks cs with
  | [] => .ok ((), [])
  | ';' :: rest | '\n' :: rest => .ok ((), rest)
  | '\x7d' :: rest => .ok ((), '\x7d' :: rest)
  | '#' :: rest => .ok ((), '#' :: rest)
  | _ :: rest => fails .extraCharacters rest

/-- The parts of a replacement. -/
def partsOf : List Char → List Part
  | '\\' :: c :: rest =>
    let part : Part :=
      if c.isDigit then .group (c.toNat - 48)
      else
        match c with
        | 'n' => .text '\n'
        | 't' => .text '\t'
        | 'r' => .text '\r'
        | 'U' => .recase (some true)
        | 'L' => .recase (some false)
        | 'E' => .recase none
        | 'u' => .recaseNext true
        | 'l' => .recaseNext false
        | c => .text c
    part :: partsOf rest
  | '&' :: rest => .group 0 :: partsOf rest
  | c :: rest => .text c :: partsOf rest
  | [] => []

/-- The options behind a substitution. -/
structure Options where
  letters : List Char := []
  number : Option Nat := none
  file : Option String := none

/-- Reads the options behind a substitution. -/
def options : Nat → Options → List Char → Reading (Options × List Char)
  | 0, o, cs => .ok (o, cs)
  | fuel + 1, o, cs =>
    match cs with
    | [] => .ok (o, [])
    | c :: rest =>
      if c == 'g' || c == 'p' then
        if o.letters.contains c then fails (.repeated c) rest
        else options fuel { o with letters := c :: o.letters } rest
      else if c == 'i' || c == 'I' || c == 'm' || c == 'M' then
        options fuel { o with letters := c.toUpper :: o.letters } rest
      else if c == 'w' then
        let (path, rest) := lineText rest
        .ok ({ o with file := some path }, rest)
      else if c.isDigit then
        match number? cs, o.number with
        | _, some _ => fails .severalNumbers rest
        | some (0, rest), none => fails .zeroNumber rest
        | some (n, rest), none => options fuel { o with number := some n } rest
        | none, none => fails .unknownOption rest
      else if c == '\n' || c == ';' then .ok (o, rest)
      else if c == '\x7d' || c == '#' then .ok (o, cs)
      else if c == ' ' || c == '\t' then options fuel o rest
      else fails .unknownOption rest

/-- The highest group that parts ask for. -/
def highestGroup (parts : List Part) : Nat :=
  parts.foldl (fun n p =>
    match p with
    | .group k => max n k
    | _ => n) 0

/-- Reads a substitution. -/
def substitution (isBasic : Bool) (cs : List Char) : Reading (Op × List Char) :=
  match cs with
  | [] => fails (.unterminated 's') []
  | sign :: rest =>
    match delimited sign true .plain rest with
    | none => fails (.unterminated 's') []
    | some (text, rest) =>
      match delimited sign false .plain rest with
      | none => fails (.unterminated 's') []
      | some (new, rest) => do
        let (o, rest) ← options (rest.length + 1) {} rest
        let style := styleOf isBasic (o.letters.contains 'I') (o.letters.contains 'M')
        let pattern ← patternFor style text rest
        let parts := partsOf new
        let highest := highestGroup parts
        if pattern.any fun p => p.groups < highest then
          throw (.invalidReference highest, rest.length)
        let s : Substitution :=
          { pattern, parts, first := o.number.getD 1, isGlobal := o.letters.contains 'g'
            prints := o.letters.contains 'p', file := o.file }
        return (.substitute s, rest)

/-- The characters of a list of characters to exchange. -/
def exchanged : List Char → List Char
  | '\\' :: 'n' :: rest => '\n' :: exchanged rest
  | '\\' :: '\\' :: rest => '\\' :: exchanged rest
  | c :: rest => c :: exchanged rest
  | [] => []

/-- Reads an exchange of characters. -/
def transliteration (cs : List Char) : Reading (Op × List Char) :=
  match cs with
  | [] => fails (.unterminated 'y') []
  | sign :: rest =>
    match delimited sign false .plain rest with
    | none => fails (.unterminated 'y') []
    | some (old, rest) =>
      match delimited sign false .plain rest with
      | none => fails (.unterminated 'y') []
      | some (new, rest) => do
        let old := exchanged old
        let new := exchanged new
        if old.length != new.length then throw (.differentLengths, rest.length)
        let (_, rest) ← ended rest
        return (.transliterate (old.zip new), rest)

/-- Reads what a command does. -/
def operation (isBasic : Bool) (c : Char) (rest : List Char) : Reading (Op × List Char) :=
  let simple (op : Op) : Reading (Op × List Char) := (ended rest).map fun (_, rest) => (op, rest)
  let counted (f : Nat → Op) : Reading (Op × List Char) :=
    let (n, rest) := (number? (skipBlanks rest)).getD (0, rest)
    (ended rest).map fun (_, rest) => (f n, rest)
  let labelled (f : String → Op) : Reading (Op × List Char) :=
    let (name, rest) := labelText rest
    (ended rest).map fun (_, rest) => (f name, rest)
  match c with
  | '\x7b' => .ok (.enter, rest)
  | 's' => substitution isBasic rest
  | 'y' => transliteration rest
  | 'a' => (addedText rest).map fun (text, rest) => (.append text, rest)
  | 'i' => (addedText rest).map fun (text, rest) => (.insert text, rest)
  | 'c' => (addedText rest).map fun (text, rest) => (.change text, rest)
  | 'r' => let (path, rest) := lineText rest; .ok (.readFile path, rest)
  | 'w' => let (path, rest) := lineText rest; .ok (.writeFile path, rest)
  | 'b' => labelled .jump
  | 't' => labelled .jumpIfReplaced
  | 'T' => labelled .jumpUnlessReplaced
  | 'q' => counted fun n => .quit n false
  | 'Q' => counted fun n => .quit n true
  | 'd' => simple .delete
  | 'D' => simple .deleteFirst
  | 'p' => simple .print
  | 'P' => simple .printFirst
  | '=' => simple .printNumber
  | 'l' => simple .printPlain
  | 'n' => simple .next
  | 'N' => simple .nextAppended
  | 'h' => simple .hold
  | 'H' => simple .holdAppended
  | 'g' => simple .recall
  | 'G' => simple .recallAppended
  | 'x' => simple .exchange
  | c => fails (.unknownCommand c) rest

/-- Reads commands; `depth` tells how many braces are open. -/
def commandsFrom (isBasic : Bool) : Nat → Nat → List Char → Reading (List Command)
  | 0, _, _ => .ok []
  | fuel + 1, depth, cs =>
    match cs.dropWhile fun c => c == ' ' || c == '\t' || c == '\n' || c == ';' with
    | [] => if depth = 0 then .ok [] else .error (.unmatchedOpen, cs.length)
    | '\x7d' :: rest =>
      if depth = 0 then .error (.unexpectedClose, rest.length)
      else do
        let (_, rest) ← ended rest
        return ⟨{}, .leave⟩ :: (← commandsFrom isBasic fuel (depth - 1) rest)
    | '#' :: rest => commandsFrom isBasic fuel depth (rest.dropWhile (· != '\n'))
    | cs => do
      let (selection, rest) ← selection isBasic cs
      match rest with
      | [] => throw (.missingCommand, 0)
      | c :: rest =>
        if c == '#' then throw (.commentAddress, rest.length)
        if c == ',' then throw (.unexpectedComma, rest.length)
        if c == ':' then
          if selection.first.isSome then throw (.labelAddress, rest.length)
          let (name, rest) := labelText rest
          return ⟨{}, .label name⟩ :: (← commandsFrom isBasic fuel depth rest)
        let (op, rest) ← operation isBasic c rest
        let depth := if c == '\x7b' then depth + 1 else depth
        return ⟨selection, op⟩ :: (← commandsFrom isBasic fuel depth rest)

/-- The label that a command leads to. -/
def Op.target? : Op → Option String
  | .jump name | .jumpIfReplaced name | .jumpUnlessReplaced name =>
    if name.isEmpty then none else some name
  | _ => none

/-- The place of a label. -/
def labelPlace? (commands : List Command) (name : String) : Option Nat :=
  commands.findIdx? fun c =>
    match c.op with
    | .label n => n == name
    | _ => false

/-- The commands of a script. -/
def read (isBasic : Bool) (script : String) : Reading (List Command) := do
  let cs := script.toList
  let commands ← commandsFrom isBasic (cs.length + 1) 0 cs
  match (commands.filterMap fun c => c.op.target?).find? fun name =>
      (labelPlace? commands name).isNone with
  | some name => throw (.noLabel name, 0)
  | none => return commands

end Editing

end Scaffold.Script

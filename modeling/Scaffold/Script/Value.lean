import Scaffold.Script.Calculation
import Scaffold.Script.Quoting
import Scaffold.Script.Pattern

/-!
# Value — what parameters stand for

A parameter stands for one text, for several, or for nothing. A change of a parameter is made to
each of its texts.
-/

set_option autoImplicit false

namespace Scaffold.Script

/-- What a parameter stands for. -/
inductive Value
  | nothing
  | one (text : String)
  /-- Several texts; they are one text between double quotes where that is said. -/
  | several (texts : List String) (isOne : Bool)

namespace Value

/-- The texts of a value. -/
def texts : Value → List String
  | .nothing => []
  | .one text => [text]
  | .several texts _ => texts

/-- The value as one text. -/
def text (separator : String) (v : Value) : String := separator.intercalate v.texts

/-- There is no value, or only an empty one where these count as none. -/
def isAbsent (empty : Bool) : Value → Bool
  | .nothing => true
  | .one text => empty && text.isEmpty
  | .several texts _ => texts.isEmpty || (empty && texts.all String.isEmpty)

/-- The value with every text changed. -/
def map (f : String → String) : Value → Value
  | .nothing => .nothing
  | .one text => .one (f text)
  | .several texts isOne => .several (texts.map f) isOne

end Value

/-- The letters of the options that are set. -/
def optionLetters (s : Session) : List Char :=
  let set (on : Bool) (c : Char) : List Char := if on then [c] else []
  if s.isBash then
    set s.stopsOnError 'e' ++ set s.keepsPatterns 'f' ++ ['h'] ++ set s.needsValues 'u'
      ++ set s.traces 'x' ++ ['B'] ++ set s.isArgument 'c'
  else
    set s.needsValues 'u' ++ set s.traces 'x' ++ set s.keepsPatterns 'f' ++ set s.stopsOnError 'e'

/-- What the extended shell says about itself and its surroundings. -/
def ownValue? (s : Session) (name : String) : Option String :=
  match name with
  | "_" => some s.lastWord
  | "LINENO" => some (toString s.line)
  | "BASHPID" => some "4242"
  | "BASH" => some "/usr/bin/bash"
  | "BASH_SUBSHELL" => some (toString s.depth)
  | "SECONDS" | "UID" | "EUID" => some "0"
  | "RANDOM" => some "16838"
  | "HOSTTYPE" => some "x86_64"
  | "OSTYPE" => some "linux-gnu"
  | "MACHTYPE" => some "x86_64-pc-linux-gnu"
  | _ => none

/-- The value of a state of the shell or of an argument. -/
def stateValue? (s : Session) (name : String) : Option Value :=
  match name with
  | "?" => some (.one (toString s.status))
  | "$" => some (.one "4242")
  | "#" => some (.one (toString s.arguments.length))
  | "@" => some (.several s.arguments false)
  | "*" => some (.several s.arguments true)
  | "!" => some (s.jobs.head?.elim .nothing fun job => .one (toString job.number))
  | "-" => some (.one (String.ofList (optionLetters s)))
  | "0" => some (.one s.name)
  | name =>
    match name.toNat? with
    | some n => some ((s.arguments[n - 1]?).elim .nothing .one)
    | none =>
      match name, s.value? name with
      | _, some _ => none
      | "OPTIND", none => some (.one "1")
      | "PS4", none => some (.one "+ ")
      | "IFS", none => some (.one " \t\n")
      | "PPID", none => some (.one "4241")
      | name, none => if s.isBash then (ownValue? s name).map .one else none

/-- The variables of a session as calculations use them. -/
def calculationStore (isBash : Bool) : Calculation.Store Session where
  isBash
  value? s v :=
    match v.place with
    | some place => (s.row? v.name).bind (·.cells.lookup place)
    | none =>
      match stateValue? s v.name with
      | some value => value.texts.head?
      | none => s.value? v.name
  assign s v n :=
    match v.place with
    | some place => s.setRow v.name (((s.row? v.name).getD {}).set place (toString n))
    | none => s.setVariable v.name (toString n)
  next? s name :=
    match s.row? name with
    | some row => if row.isNumbered then some row.next else none
    | none => some 0
  isFixed s name := s.fixed.contains name
  needsValues s := s.needsValues && s.isBash

/-- The value of a calculation, and the session that it leaves. -/
def calculated (s : Session) (text : String) : Except Calculation.Fault Int × Session :=
  Calculation.run (calculationStore s.isBash) s text

/-- Ends the shell with a report. -/
def breaksOff (text : String) (status : Nat) (s : Session) : Printed × Session :=
  (err (s.report text), { s with ended := true, status })

/-- Ends the shell because a parameter is not there. -/
def breaksOffAt (name : String) (s : Session) : Printed × Session :=
  if s.isBash then
    let shown := if name.toNat?.isSome then "$" ++ name else name
    breaksOff (shown ++ ": unbound variable") (if s.stopsOnError then 1 else 127) s
  else breaksOff (name ++ ": parameter not set") 2 s

/-- The value of a calculation; one without a value ends the shell, and the title stands in front of
the report. -/
def reckoned (title text : String) (s : Session) : Int × Printed × Session :=
  match calculated s text with
  | (.ok n, s) => (n, [], s)
  | (.error fault, s) =>
    match s.isBash, fault.cause with
    | true, .unset name => (0, breaksOffAt name s)
    | true, _ => (0, breaksOff (title ++ fault.message true text) 1 s)
    | false, _ => (0, breaksOff (fault.message false text) 2 s)

/-- What a variable is set to: a text, or the value of the calculation that it spells. -/
def kept (title : String) (s : Session) (name text : String) : String × Printed × Session :=
  if s.integers.contains name then
    let (n, p, s) := reckoned title text s
    (toString n, p, s)
  else (text, [], s)

/-- Sets a variable; the title is that of the command that does so. -/
def put (title : String) (s : Session) (name text : String) : Printed × Session :=
  let (text, p, s) := kept title s name text
  (p, if s.ended then s else s.setVariable name text)

/-- The place that a text between square brackets means in a row. -/
def placeIn (row : Row) (text : String) (s : Session) : String × Printed × Session :=
  if row.isNumbered then
    let (n, p, s) := reckoned "" text s
    (toString (if n < 0 then (row.next : Int) + n else n), p, s)
  else (text, [], s)

/-- The value of a parameter; `place` is what its place expands to. -/
def valueOf (s : Session) (p : Parameter) (place : String) : Value :=
  match stateValue? s p.name, p.place with
  | some v, _ => v
  | none, none => (s.value? p.name).elim .nothing .one
  | none, some _ =>
    match s.row? p.name, place with
    | none, "@" => .several [] false
    | none, "*" => .several [] true
    | none, _ => .nothing
    | some row, "@" => .several row.values false
    | some row, "*" => .several row.values true
    | some row, place => (row.cells.lookup place).elim .nothing .one

/-- A part of a list, by where it starts and how long it is; numbers below zero count from the
end. -/
def sliceOf {α : Type} (xs : List α) (start : Int) (length : Option Int) : List α :=
  let first : Int := if start < 0 then (xs.length : Int) + start else start
  if first < 0 then []
  else
    let rest := xs.drop first.toNat
    match length with
    | none => rest
    | some n => rest.take (if n < 0 then ((rest.length : Int) + n).toNat else n.toNat)

/-- A part of a value: of its text, or of its texts. -/
def sliced (start : Int) (length : Option Int) : Value → Value
  | .several texts isOne => .several (sliceOf texts start length) isOne
  | v => v.map fun t => String.ofList (sliceOf t.toList start length)

/-- A text with other letters where a pattern fits them; no pattern stands for all letters. -/
def recased (kind : LetterChange) (everywhere : Bool) (pattern : List Marked) (text : String) :
    String :=
  let change (c : Char) : Char :=
    if !(pattern.isEmpty || Pattern.fits pattern [c]) then c
    else
      match kind with
      | .capital => c.toUpper
      | .small => c.toLower
      | .swapped => if c.isLower then c.toUpper else c.toLower
  match text.toList, everywhere with
  | cs, true => String.ofList (cs.map change)
  | [], false => ""
  | c :: rest, false => String.ofList (change c :: rest)

/-- The letters that tell the kind of a variable. -/
def kindLetters (s : Session) (name : String) : String :=
  let row := match s.rows.lookup name with
    | some row => if row.isNumbered then "a" else "A"
    | none => ""
  row ++ (if s.integers.contains name then "i" else "")
    ++ (if s.fixed.contains name then "r" else "")
    ++ (if s.exported.contains name then "x" else "")

/-- A text in the form that a letter asks for. -/
def shownText (s : Session) (name : String) (letter : Char) (text : String) : String :=
  let kind := kindLetters s name
  match letter with
  | 'U' => recased .capital true [] text
  | 'u' => recased .capital false [] text
  | 'L' => recased .small true [] text
  | 'Q' | 'K' => Quoting.word text
  | 'E' => Escapes.word text.toList
  | 'A' =>
    (if kind.isEmpty then "" else "declare -" ++ kind ++ " ") ++ name ++ "=" ++ Quoting.word text
  | 'a' => kind
  | _ => text

/-- A text with another one in place of what a pattern fits. -/
def replaced (extent : Extent) (pattern : List Marked) (by_ text : String) : String :=
  let cs := text.toList
  String.ofList <|
    match extent with
    | .first => Pattern.replaceFrom false pattern by_.toList (cs.length + 1) cs
    | .everywhere => Pattern.replaceFrom true pattern by_.toList (cs.length + 1) cs
    | .start =>
      match (Pattern.startLengths pattern cs).getLast? with
      | some n => by_.toList ++ cs.drop n
      | none => cs
    | .finish =>
      match (Pattern.endLengths pattern cs).getLast? with
      | some n => cs.take (cs.length - n) ++ by_.toList
      | none => cs

/-- The change and the form of a parameter are those of the extended shell alone. -/
def isExtended (p : Parameter) (change : Change) : Bool :=
  p.place.isSome || p.isIndirect ||
    match change with
    | .replace .. | .recase .. | .slice .. | .shown _ => true
    | .keep | .absent .. | .trim .. => false

/-- The segments of a value; unquoted ones are cut. -/
def segmentsOf (s : Session) (quoted : Bool) (v : Value) : List Segment :=
  let separator := (s.separators.head?.elim "" String.singleton)
  match v with
  | .nothing => [⟨"", quoted, !quoted, false⟩]
  | .one text => [⟨text, quoted, !quoted, false⟩]
  | .several texts isOne =>
    if quoted && isOne then [⟨separator.intercalate texts, true, false, false⟩]
    else
      let last := texts.length - 1
      (texts.zip (List.range texts.length)).map fun (text, n) =>
        ⟨text, quoted, !quoted, n != last⟩

/-- The home directory, or a directory of the shell, in place of a tilde. -/
def untilded (s : Session) (w : Word) : Word :=
  let behind (home : String) (rest : Word) : Word :=
    match rest with
    | [] | .text "/" false :: _ | .text ":" false :: _ => .text home true :: rest
    | _ => w
  match w, s.value? "HOME" with
  | .text "~" false :: .text "+" false :: rest, _ =>
    if s.isBash then behind s.directory rest else w
  | .text "~" false :: .text "-" false :: rest, _ =>
    if s.isBash then (s.value? "OLDPWD").elim w (behind · rest) else w
  | .text "~" false :: .text "r" false :: .text "o" false :: .text "o" false :: .text "t" false ::
      rest, _ => behind "/root" rest
  | .text "~" false :: rest, some home => behind home rest
  | .text "~" false :: rest, none => if s.isBash then behind "/root" rest else w
  | w, _ => w

end Scaffold.Script

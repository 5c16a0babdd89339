import Scaffold.Expr.Arguments
import Scaffold.Expr.Escaping
import Scaffold.Text.Directive
import Scaffold.Expr.Value.Print
import Scaffold.Text.Case

/-!
# Text — filters that make texts
-/

set_option autoImplicit false

/-!
## Directive — arguments at the marked places of a text

Every directive of a text is replaced by an argument: by the one with its name, or by the next one.
-/

namespace Scaffold.Expr

open Scaffold.Text (Directive Measure)

namespace Filter

open Params

/-- The integer of a number; a fraction counts only for decimal digits. -/
def integerIn? (fractions : Bool) : Value → Option Int
  | .int n _ => some n
  | .bool b => some (if b then 1 else 0)
  | .float x => if fractions then Decimal.truncated? x else none
  | _ => none

/-- The number that a value is, an integer exactly. -/
def doubleIn? : Value → Option Decimal.Double
  | .int n _ => some (.finite (n < 0) ⟨n.natAbs, 0⟩)
  | .bool b => some (.finite false ⟨if b then 1 else 0, 0⟩)
  | .float x => some (.ofFloat x)
  | _ => none

/-- The character of a number or of a text of one character. -/
def character? (v : Value) : Option Char :=
  match integerIn? false v, v.text?.map String.toList with
  | some n, _ =>
    if 0 ≤ n && n < 0x110000 && !(0xD800 ≤ n && n < 0xE000) then some (Char.ofNat n.toNat)
    else none
  | none, some [c] => some c
  | none, _ => none

/-- A part in a width that is counted in bytes. -/
def placed (d : Directive) (width : Nat) (part : String) : String :=
  let more := part.utf8ByteSize - part.length
  Directive.place d.flags (width - more) false "" part

/-- Writes a number with a fraction. What is no number has no sign, and the shortest form never
keeps a point without digits behind it. -/
def writtenDouble (d : Directive) (width precision : Nat) (x : Decimal.Double) : String :=
  let dropped : List Char := (if x = .nan then ['+', ' '] else [])
    ++ (if d.conversion.toLower = 'g' then ['#'] else [])
  { d with flags := d.flags.filter (!dropped.contains ·) }.double width precision x

/-- Writes a value as the conversion to text does: numbers without the sign that is only asked for,
a number with a fraction so that the point shows. -/
def writtenText (d : Directive) (width : Nat) (precision : Option Nat) (v : Value) : String :=
  let plain : Directive := { d with flags := d.flags.filter fun c => c == '-' || c == '0' }
  match v with
  | .int n _ => { plain with conversion := 'd' }.integer width 0 n
  | .float x =>
    let short : Directive := { flags := [], conversion := 'g' }
    let text := short.double 0 (precision.getD 6) (.ofFloat x)
    let text := if text.toList.all fun c => c.isDigit || c == '-' then text ++ ".0" else text
    let (sign, body) := match text.toList with
      | '-' :: rest => ("-", String.ofList rest)
      | _ => ("", text)
    Directive.place plain.flags width true sign body
  | v =>
    let text := v.print
    placed plain width (match precision with
      | some n => String.ofList (text.toList.take n)
      | none => text)

/-- Writes a value as a directive says, if it can. -/
def writtenBy? (d : Directive) (width : Nat) (precision : Option Nat) (v : Value) :
    Option String :=
  match d.conversion with
  | 's' => some (writtenText d width precision v)
  | 'c' => (character? v).map (placed d width ∘ String.singleton)
  | 'd' | 'i' => (integerIn? true v).map (d.integer width (precision.getD 0))
  | 'o' | 'x' | 'X' => (integerIn? false v).map (d.integer width (precision.getD 0))
  | 'e' | 'E' | 'f' | 'F' | 'g' | 'G' =>
    (doubleIn? v).map (writtenDouble d width (precision.getD 6))
  | _ => none

/-- A width or precision that fits into a word; larger ones than can be written end everything. -/
def measured : Measure → Params (Option Nat)
  | .given n =>
    if Nat.pow 2 64 ≤ n then fail .invalidOperation
    else if Value.maxElements < n then throw (.aborted (.overwide n))
    else return some n
  | _ => return none

/-- The argument that a directive takes: the one with its name, or the next one. -/
def argumentOf (d : Directive) (named : Value) (values : List Value) :
    Params (Value × List Value) :=
  match d.name, values with
  | some name, _ =>
    -- a name outside of ASCII is measured in the wrong units
    if name.toList.any fun c => 128 ≤ c.toNat then throw (.aborted (.foreignName name))
    else if named.kind = .map then
      match named.at? (.text name) with
      | some v => return (v, values)
      | none => fail .invalidOperation
    else fail .invalidOperation
  | none, v :: values => return (v, values)
  | none, [] => fail .invalidOperation

/-- Writes arguments at the marked places of a text, each of them `prepared`; the number bounds the
length of the text. -/
def formattedFrom (prepared : Value → Value) (named : Value) :
    Nat → List Value → List Char → Params String
  | 0, _, _ => return ""
  | fuel + 1, values, text => do
    match text with
    | [] => return ""
    | '%' :: '%' :: rest => return "%" ++ (← formattedFrom prepared named fuel values rest)
    | '%' :: rest =>
      match Directive.read rest with
      | none => fail .invalidOperation
      | some (d, rest) =>
        let width ← measured d.width
        let precision ← measured d.precision
        let (v, values) ← argumentOf d named values
        match writtenBy? d (width.getD 0) precision (prepared v) with
        | some piece => return piece ++ (← formattedFrom prepared named fuel values rest)
        | none => fail .invalidOperation
    | c :: rest => return String.singleton c ++ (← formattedFrom prepared named fuel values rest)

/-- An argument of a safe text: what is not a number is escaped. -/
def escapedArgument (v : Value) : Value :=
  match v.kind with
  | .undefined | .none | .bool | .number => v
  | _ => .string (escaped v) true

/-- Writes arguments at the marked places of a text; those of a safe text are escaped. Arguments
are taken by name from those that are given by name, or from a map that is the first argument. -/
def format (args : Arguments) : Except Halt Value :=
  positional (do
    let v ← value
    let text ← asText v
    let values ← rest
    let prepared : Value → Value := if v.isSafe then escapedArgument else id
    let named := match args.named, values.head? with
      | some entries, _ => .map entries .arguments
      | none, some first => first
      | none, none => .undefined
    return .string (← formattedFrom prepared named (text.length + 1) values text.toList) v.isSafe) args

end Filter

end Scaffold.Expr

/-!
## Text — filters on texts

Most of them take any value by the text that it is written as.
-/

namespace Scaffold.Expr.Filter

open Params

/-- The text that a value is written as. -/
def shownText : Value → String
  | .string s _ => s
  | v => v.print

/-- Applies a function to the text of a value; a safe text stays one. -/
def onText (f : String → String) : Arguments → Except Halt Value :=
  positional do
    let v ← label
    return .string (f (shownText v)) v.isSafe

/-- A sign of the ASCII punctuation. -/
def isPunctuation (c : Char) : Bool :=
  33 ≤ c.toNat && c.toNat < 127 && !c.isAlphanum

/-- Every word with a capital first letter and small letters behind it. -/
def title (text : String) : String :=
  let step (state : Bool × List Char) (c : Char) : Bool × List Char :=
    if isPunctuation c || Text.isBlank c then (true, c :: state.2)
    else if state.1 then (false, (Text.upperChar c).reverse ++ state.2)
    else (false, (Text.lowerChar c).reverse ++ state.2)
  String.ofList (text.toList.foldl step (true, [])).2.reverse

/-- Writes every word of a text with a capital first letter. -/
def asTitle : Arguments → Except Halt Value :=
  positional do
    return .text (title (← shown))

/-- A capital first letter and small letters behind it. -/
def capitalize (text : String) : String :=
  match text.toList with
  | [] => ""
  | c :: rest => String.ofList (Text.upperChar c) ++ Text.lower (String.ofList rest)

/-- A text with all occurrences of a part replaced; the empty part stands before every character
and at the end. -/
def replaced (text part new : String) : String :=
  if part.isEmpty then
    new ++ String.ofList (text.toList.flatMap fun c => c :: new.toList)
  else
    String.ofList (new.toList.intercalate (Occurrences.split part.toList text.toList))

/-- Replaces a part of a text. Where texts are escaped, safe texts among them are what marks up:
then the result is safe, and the text and what comes in are escaped unless they are safe. -/
def replace (e : Escaping) : Arguments → Except Halt Value :=
  positional do
    let text ← label
    let part ← label
    let new ← label
    let safe := e ≠ .none && (text.isSafe || part.isSafe || new.isSafe)
    let written (v : Value) : Except Halt String := if safe then e.write v else .ok (shownText v)
    return .string (replaced (← lift (written text)) (shownText part) (← lift (written new))) safe

/-- Drops characters at both ends: blanks, or those of a text; a safe text stays one. -/
def trim : Arguments → Except Halt Value :=
  positional do
    let v ← label
    let text := shownText v
    let drop : Char → Bool := match ← shown? with
      | some chars => chars.toList.contains
      | none => Text.isBlank
    let kept := Text.dropEndWhile drop (text.toList.dropWhile drop)
    return .string (String.ofList kept) v.isSafe

/-- Cuts a text at every empty place. -/
def characterPieces (text : String) : List (List Char) :=
  [[]] ++ text.toList.map (fun c => [c]) ++ [[]]

/-- The pieces of a text between the occurrences of a part. -/
def pieces (part text : String) : List (List Char) :=
  if part.isEmpty then characterPieces text else Occurrences.split part.toList text.toList

/-- The first pieces alone, the rest in one. -/
def limited (n : Nat) (joiner : List Char) (parts : List (List Char)) : List (List Char) :=
  if parts.length ≤ n then parts
  else parts.take (n - 1) ++ [joiner.intercalate (parts.drop (n - 1))]

/-- The words of a text as long as there are more to come than one piece, and what follows them as
one piece with the blanks in it; blanks in front of a word are dropped. -/
def wordsThen : Nat → Nat → List Char → List (List Char)
  | 0, _, _ => []
  | _, _, [] => []
  | fuel + 1, pieces, text =>
    match text.dropWhile Text.isBlank with
    | [] => [text]
    | rest =>
      let word := rest.takeWhile (!Text.isBlank ·)
      if pieces ≤ 1 || word.length = rest.length then [rest]
      else word :: wordsThen fuel (pieces - 1) (rest.drop word.length)

/-- The text that a value is, where bytes that spell none are replaced. -/
def asReadable (v : Value) : Params String :=
  match v with
  | .bytes b => return Utf8.toStringLossy b
  | v => asText v

/-- Splits a text at blanks or at a part of it; the pieces of a safe text are safe. -/
def split : Arguments → Except Halt Value :=
  positional do
    let v ← value
    let text ← asReadable v
    let part ← optional asText
    let most : Option Nat := (← optional asInt).bind fun n =>
      if 0 ≤ n then some n.toNat else none
    let parts : List String := match part, most with
      | none, none => Text.words text
      | none, some n => (wordsThen (text.length + 1) (n + 1) text.toList).map String.ofList
      | some part, none => (pieces part text).map String.ofList
      | some part, some n => (limited (n + 1) part.toList (pieces part text)).map String.ofList
    return .seq (parts.map fun s => .string s v.isSafe)

/-- The lines of a text without their ends; a line end at the end begins no line. -/
def linesOf (text : String) : List String :=
  let parts := Occurrences.split ['\n'] text.toList
  let parts := if parts.getLast? == some [] then parts.dropLast else parts
  let all := parts.length
  (parts.zip (List.range all)).map fun (part, n) =>
    -- a carriage return belongs to the line end that follows it
    let ended := n + 1 < all || text.endsWith "\n"
    String.ofList (if ended && part.getLast? == some '\r' then part.dropLast else part)

/-- Splits a text into lines; those of a safe text are safe. -/
def lines : Arguments → Except Halt Value :=
  positional do
    let v ← value
    return .seq ((linesOf (← asReadable v)).map fun s => .string s v.isSafe)

/-- The text without one line end at its end. -/
def withoutLineEnd (text : List Char) : List Char :=
  let text := if text.getLast? == some '\n' then text.dropLast else text
  if text.getLast? == some '\r' then text.dropLast else text

/-- The text with its lines indented: all but the first one unless that is asked for, and empty
ones only where that is asked for. -/
def indented (text : String) (width : Nat) (first blank : Bool) : String :=
  let indent := List.replicate width ' '
  let line (l : List Char) : List Char :=
    (if l.isEmpty && !blank then [] else indent ++ l) ++ ['\n']
  let parts := Occurrences.split ['\n'] (withoutLineEnd text.toList)
  let written : List Char := match parts, first with
    | l :: rest, false => l ++ '\n' :: rest.flatMap line
    | parts, _ => parts.flatMap line
  String.ofList (withoutLineEnd written)

/-- Indents a text; a safe text stays one. What is not given by its place may be given by name. -/
def indent : Arguments → Except Halt Value :=
  withNames do
    let v ← value
    let width ← optional asNat
    let first ← optional asBool
    let blank ← optional asBool
    noMore
    let named {α : Type} (given : Option α) (name : String) (form : Value → Params α) :
        Params (Option α) :=
      if given.isSome then return given else keyword name form
    let width := (← named width "width" asNat).getD 4
    let first := (← named first "first" asBool).getD false
    let blank := (← named blank "blank" asBool).getD false
    if Value.maxElements < width then fail .invalidOperation
    else return .string (indented (shownText v) width first blank) v.isSafe

/-- A byte that stands for itself in the path of an address. -/
def isPathByte (b : UInt8) : Bool :=
  let c := Char.ofNat b.toNat
  (b.toNat < 128 && c.isAlphanum) || c == '/' || c == '.' || c == '-' || c == '_'

/-- A byte as it stands in an address. -/
def urlByte (b : UInt8) : List Char :=
  if isPathByte b then [Char.ofNat b.toNat]
  else
    let digit (n : Nat) : Char := if n < 10 then Char.ofNat (48 + n) else Char.ofNat (55 + n)
    ['%', digit (b.toNat / 16), digit (b.toNat % 16)]

/-- Bytes as they stand in an address. -/
def urlEncoded (bytes : Bytes) : String :=
  String.ofList (bytes.flatMap urlByte)

/-- The entries of a map as they stand in a query, those without value left out. -/
def queryOf (entries : List (Value × Value)) : String :=
  let pairs := (entries.filter fun entry => !entry.2.isAbsent).map fun (key, value) =>
    urlEncoded (Utf8.ofString key.print) ++ "=" ++ urlEncoded (Utf8.ofString value.print)
  "&".intercalate pairs

/-- Writes a value as a part of an address. -/
def urlencode : Arguments → Except Halt Value :=
  positional do
    let v ← value
    match v.pairs?, v with
    | some entries, _ => return .text (queryOf entries)
    | none, .undefined | none, .none => return .text ""
    | none, .bytes b => return .text (urlEncoded b)
    | none, v => return .text (urlEncoded (Utf8.ofString v.print))

/-- Marks a text as one that is not escaped again. -/
def safe : Arguments → Except Halt Value :=
  positional do
    return .string (← shown) true

/-- Escapes a value unless it is safe. -/
def escape (e : Escaping) : Arguments → Except Halt Value :=
  positional do
    let v ← value
    noMore
    if v.isSafe then return v
    else return .string (← lift ((if e = .none then Escaping.html else e).write v)) true

/-- The text that a value is written as. -/
def string : Arguments → Except Halt Value :=
  positional do
    let v ← value
    match v with
    | .string .. => return v
    | v => return .text v.print

/-- A value spelled out over several lines. -/
def spelledTall : Arguments → Except Halt Value :=
  positional do
    return .text (← value).tall

/-- The filters on texts by name. -/
def textFilters (e : Escaping) : List (String × (Arguments → Except Halt Value)) := [
  ("lower", onText Text.lower), ("upper", onText Text.upper), ("title", asTitle),
  ("capitalize", onText capitalize), ("replace", replace e), ("trim", trim), ("split", split),
  ("lines", lines), ("indent", indent), ("format", format), ("urlencode", urlencode),
  ("safe", safe), ("escape", escape e), ("e", escape e), ("string", string), ("pprint", spelledTall)]

end Scaffold.Expr.Filter

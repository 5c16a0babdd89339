import Scaffold.Text.Utf8

/-!
# Quoting — raw texts, quotes and escapes
-/

set_option autoImplicit false

/-!
## Raw — texts of bytes

Scripts and the programs that they run know bytes, not characters of a standard. A raw text has one
character for each byte, the one with the number of the byte; so the length of a text, its parts and
its order are those of its bytes. Texts are made raw where a script begins, and are read as UTF-8
again where it has ended.
-/

namespace Scaffold.Script.Raw

/-- The raw text of bytes. -/
def text (b : Bytes) : String := String.ofList (b.map fun x => Char.ofNat x.toNat)

/-- The bytes of a raw text. -/
def bytes (text : String) : Bytes := text.toList.map fun c => c.toNat.toUInt8

/-- A text as a raw text. -/
def ofText (s : String) : String := text (Utf8.ofString s)

/-- A raw text as a text. -/
def toText (s : String) : String := Utf8.toStringLossy (bytes s)

end Scaffold.Script.Raw

/-!
## Quoting — how texts are shown between quotes

Shells show a text so that it can be read again as a word, and programs show paths in reports the
same way. A byte that cannot be printed is written behind a backslash, in a part that a dollar sign
and a quote open.
-/

namespace Scaffold.Script.Quoting

/-- The byte can be printed. -/
def isPrintable (c : Char) : Bool := ' ' ≤ c && c ≤ '~'

/-- Control characters and the letters that stand for them. -/
def letters : List (Char × Char) :=
  [('\x07', 'a'), ('\x08', 'b'), ('\x0c', 'f'), ('\n', 'n'), ('\r', 'r'), ('\t', 't'), ('\x0b', 'v')]

/-- A byte in base eight behind a backslash. -/
def octal (c : Char) : List Char :=
  let digit (n : Nat) : Char := Char.ofNat (48 + n % 8)
  ['\\', digit (c.toNat / 64), digit (c.toNat / 8), digit c.toNat]

/-- A text behind a dollar sign and between single quotes. -/
def escaped (text : String) : String :=
  let one (c : Char) : List Char :=
    if c == '\\' || c == '\'' then ['\\', c]
    else if c == '\x1b' then ['\\', 'E']
    else
      match letters.lookup c with
      | some letter => ['\\', letter]
      | none => if isPrintable c then [c] else octal c
  "$'" ++ String.ofList (text.toList.flatMap one) ++ "'"

/-- The text can be shown without escapes. -/
def isPlain (text : String) : Bool := text.toList.all isPrintable

/-- A part between single quotes, to its end: a quote is written behind a backslash, outside of
them. -/
def backslashing : List Char → List Char
  | [] => ['\'']
  | c :: rest => (if c == '\'' then ['\'', '\\', '\'', '\''] else [c]) ++ backslashing rest

/-- A text between single quotes. -/
def single (text : String) : String :=
  if text == "'" then "\\'" else String.ofList ('\'' :: backslashing text.toList)

/-- The kind of quotes that the plain shell puts a character between. -/
def around (c : Char) : Char := if c == '\'' then '"' else '\''

/-- A part between quotes of a kind, to its end: single quotes are put between double ones, and all
else between single ones. -/
def alternating (kind : Char) : List Char → List Char
  | [] => [kind]
  | c :: rest =>
    (if around c == kind then [c] else [kind, around c, c]) ++ alternating (around c) rest

/-- A text between quotes, as the plain shell lists values. -/
def listed (text : String) : String := String.ofList ('\'' :: alternating '\'' text.toList)

/-- A text as a quoted word of the extended shell. -/
def word (text : String) : String := if isPlain text then single text else escaped text

/-- A text between double quotes, where it can be printed. -/
def double (text : String) : String :=
  let one (c : Char) : List Char :=
    if ['"', '\\', '$', '\x60'].contains c then ['\\', c] else [c]
  if isPlain text then "\"" ++ String.ofList (text.toList.flatMap one) ++ "\"" else escaped text

/-- The text has a character that a shell would not read as itself; `before` is the character in
front of it. -/
def hasSigns (before : Option Char) : List Char → Bool
  | [] => false
  | c :: rest =>
    " \t\n'\"\\|&;()<>!\x7b\x7d*[?]^$\x60".toList.contains c
      || (c == '~' && (before.isNone || before == some '=' || before == some ':'))
      || (c == '#' && (before.isNone || before == some ' ' || before == some '\t'))
      || hasSigns (some c) rest

/-- A word as the extended shell shows it in front of a command that is run. -/
def shown (text : String) : String :=
  if text.isEmpty then "''"
  else if hasSigns none text.toList then single text
  else if !isPlain text then escaped text
  else text

/-- A text with a backslash in front of each sign. -/
def backslashed (text : String) : String :=
  let one (before : Option Char) (c : Char) : List Char :=
    if c == ',' || hasSigns before [c] then ['\\', c] else [c]
  let cs := text.toList
  if text.isEmpty then "''"
  else if !isPlain text then escaped text
  else String.ofList (((none :: cs.map some).zip cs).flatMap fun (before, c) => one before c)

/-! ## Paths in reports -/

/-- The character stands for itself in a path without quotes. -/
def isBare (c : Char) : Bool :=
  c.isAlphanum || ['%', '+', ',', '-', '.', '/', ':', '@', ']', '_', '\x7b', '\x7d', '#', '~'].contains c

/-- The inside of quotes around a path; `opened` tells that a part with escapes is open. -/
def inside (opened : Bool) : List Char → List Char
  | [] => []
  | c :: rest =>
    if isPrintable c then
      let lead := if opened then ['\'', '\''] else []
      let one := if c == '\'' then ['\'', '\\', '\'', '\''] else [c]
      lead ++ one ++ inside false rest
    else
      let lead := if opened then [] else ['\'', '$', '\'']
      let one := match letters.lookup c with
        | some letter => ['\\', letter]
        | none => octal c
      lead ++ one ++ inside true rest

/-- A path between quotes: double ones if it has single ones and no other signs. -/
def path (text : String) : String :=
  let cs := text.toList
  if cs.contains '\'' && cs.all fun c => isBare c || c == '\'' || c == ' ' then
    "\"" ++ text ++ "\""
  else "'" ++ String.ofList (inside false cs) ++ "'"

/-- A path, between quotes if it has signs that a shell reads. -/
def pathIfNeeded (text : String) : String :=
  let cs := text.toList
  let isLone := cs == ['\x7b'] || cs == ['\x7d'] || cs.head? == some '#' || cs.head? == some '~'
  if !text.isEmpty && cs.all isBare && !isLone then text else path text

end Scaffold.Script.Quoting

/-!
## Escapes — bytes spelled with a backslash

A backslash and what follows it spell a byte or a character. Commands differ in what they take for
an escape; what is none stands for itself. A character that is not ASCII is spelled by its number.
-/

namespace Scaffold.Script

/-- The value of digits in a base, at most so many of them, and what follows them. -/
def spelledNumber (base most : Nat) (text : List Char) : Option (Nat × List Char) :=
  let value (c : Char) : Nat :=
    if c.isDigit then c.toNat - 48
    else if 'a' ≤ c && c ≤ 'f' then c.toNat - 87
    else if 'A' ≤ c && c ≤ 'F' then c.toNat - 55
    else base
  let digits := (text.take most).takeWhile fun c => value c < base
  if digits.isEmpty then none
  else some (digits.foldl (fun n c => n * base + value c) 0, text.drop digits.length)

/-- What is taken for an escape. -/
structure Escapes where
  /-- Letters for more control characters, and numbers in base sixteen. -/
  isExtended : Bool := false
  /-- Three digits in base eight may follow a zero. -/
  zero : Bool := false
  /-- A number in base eight needs no zero in front. -/
  bare : Bool := false
  /-- The letter `c` ends all output. -/
  stops : Bool := false
  /-- Quotes and question marks need no backslash, but may have one. -/
  quotes : Bool := false
  /-- Braces may stand around digits, and the letter `c` and a sign spell a control character. -/
  isWord : Bool := false

namespace Escapes

/-- Letters and the control characters that they spell. -/
def letters : List (Char × UInt8) :=
  [('n', 10), ('t', 9), ('r', 13), ('a', 7), ('b', 8), ('f', 12), ('v', 11), ('\\', 92)]

/-- The bytes that stand for the character of a number where only ASCII is known. -/
def character (n : Nat) : Bytes :=
  let digits := (String.ofList (Nat.toDigits 16 n)).toUpper
  let padded (count : Nat) : String :=
    String.ofList (List.replicate (count - digits.length) '0') ++ digits
  if n < 128 then [UInt8.ofNat n]
  else Raw.bytes (if n < 65536 then "\\u" ++ padded 4 else "\\U" ++ padded 8)

/-- The bytes that a backslash and a character spell, and what follows. -/
def one (o : Escapes) (c : Char) (rest : List Char) : Option (Bytes × List Char) :=
  let byte (n : Nat) : Bytes := [UInt8.ofNat n]
  match letters.lookup c with
  | some b => some ([b], rest)
  | none =>
    match o.isExtended, c with
    | _, 'e' => some ([27], rest)
    | true, 'E' => some ([27], rest)
    | true, 'x' =>
      match o.isWord, rest with
      | true, '\x7b' :: inner =>
        let (n, behind) := (spelledNumber 16 inner.length inner).getD (0, inner)
        some (byte (n % 256), if behind.head? == some '\x7d' then behind.drop 1 else behind)
      | _, rest => (spelledNumber 16 2 rest).map fun (n, rest) => (byte n, rest)
    | true, 'u' => (spelledNumber 16 4 rest).map fun (n, rest) => (character n, rest)
    | true, 'U' => (spelledNumber 16 8 rest).map fun (n, rest) => (character n, rest)
    | _, c =>
      if o.zero && c == '0' then
        let (n, rest) := (spelledNumber 8 3 rest).getD (0, rest)
        some (byte n, rest)
      else if o.bare && '0' ≤ c && c ≤ '7' then
        (spelledNumber 8 3 (c :: rest)).map fun (n, rest) => (byte n, rest)
      else if o.quotes && ['"', '\'', '?'].contains c then some ([c.toNat.toUInt8], rest)
      else if o.isWord && c == 'c' then
        match rest with
        | '\\' :: '\\' :: rest => some (byte 28, rest)
        | '?' :: rest => some (byte 127, rest)
        | d :: rest => some (byte (d.toUpper.toNat % 32), rest)
        | [] => none
      else none

/-- The bytes that a text spells, and whether all output ends there. -/
def bytesWithin (o : Escapes) : Nat → List Char → Bytes × Bool
  | 0, _ | _, [] => ([], false)
  | fuel + 1, '\\' :: c :: rest =>
    if o.stops && c == 'c' then ([], true)
    else
      let (b, rest) := (o.one c rest).getD (92 :: [c.toNat.toUInt8], rest)
      let (more, stop) := bytesWithin o fuel rest
      (b ++ more, stop)
  | fuel + 1, c :: rest =>
    let (more, stop) := bytesWithin o fuel rest
    ([c.toNat.toUInt8] ++ more, stop)

/-- The bytes that a text spells, and whether all output ends there. -/
def bytes (o : Escapes) (text : List Char) : Bytes × Bool := o.bytesWithin (text.length + 1) text

/-- What the plain shell takes for escapes wherever it prints arguments. -/
def plain : Escapes := { zero := true, bare := true, stops := true }

/-- What the extended shell takes for escapes where it is asked for them. -/
def extended : Escapes := { isExtended := true, zero := true, stops := true }

/-- What stands for an escape in the format of one shell or the other. -/
def format (isBash : Bool) : Escapes := { isExtended := isBash, bare := true, quotes := isBash }

/-- What stands for an escape in sets of characters. -/
def sets : Escapes := { bare := true, quotes := true }

/-- What stands for an escape in an argument that is printed with its escapes read. -/
def argument (isBash : Bool) : Escapes := if isBash then { extended with bare := true } else plain

/-- What stands for an escape between single quotes behind a dollar sign. -/
def quoted : Escapes := { isExtended := true, bare := true, quotes := true, isWord := true }

/-- The text that stands between single quotes behind a dollar sign; a zero ends it. -/
def word (text : List Char) : String := Raw.text ((quoted.bytes text).1.takeWhile (· != 0))

end Escapes

end Scaffold.Script

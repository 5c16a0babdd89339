import Scaffold.Text.Utf8
import Scaffold.Json.Value
import Scaffold.Text.Quoted

/-!
# Reading — JSON from its text
-/

set_option autoImplicit false

/-!
## Cursor — places in a JSON text

The rest of a text with the place where it begins: lines count from one, columns are the bytes
before it on its line. A fault is reported either at the cursor or one byte behind it, when the
next character is what is wrong.
-/

namespace Scaffold.Json

/-- Why a text is no JSON, or not the JSON that is expected. -/
structure Fault where
  reason : String
  line : Nat
  column : Nat
  deriving DecidableEq, Repr

/-- The wording of a fault. -/
def Fault.message (fault : Fault) : String :=
  fault.reason ++ " at line " ++ toString fault.line ++ " column " ++ toString fault.column

/-- The rest of a text and where it begins. -/
structure Cursor where
  rest : List Char
  line : Nat := 1
  column : Nat := 0

namespace Cursor

/-- Passes one character. -/
def next (c : Cursor) : Cursor :=
  match c.rest with
  | [] => c
  | x :: rest =>
    if x == '\n' then ⟨rest, c.line + 1, 0⟩
    else ⟨rest, c.line, c.column + (Utf8.encodeChar x).length⟩

/-- Passes characters while they satisfy `p`. -/
def skipWhile (p : Char → Bool) : Nat → Cursor → Cursor
  | 0, c => c
  | fuel + 1, c =>
    match c.rest with
    | x :: _ => if p x then skipWhile p fuel c.next else c
    | [] => c

/-- White space between the parts of a text. -/
def isSpace (c : Char) : Bool :=
  c == ' ' || c == '\n' || c == '\t' || c == '\r'

/-- Passes white space. -/
def skipSpace (c : Cursor) : Cursor :=
  skipWhile isSpace c.rest.length c

/-- A fault at the cursor. -/
def fault {α : Type} (c : Cursor) (reason : String) : Except Fault α :=
  .error ⟨reason, c.line, c.column⟩

/-- The line and column `count` bytes behind the cursor, or at the end of the text. -/
def place (c : Cursor) (count : Nat) : Nat × Nat :=
  ((Utf8.encode c.rest).take count).foldl
    (fun (place : Nat × Nat) b => if b == 10 then (place.1 + 1, 0) else (place.1, place.2 + 1))
    (c.line, c.column)

/-- A fault some bytes behind the cursor. -/
def faultBehind {α : Type} (c : Cursor) (count : Nat) (reason : String) : Except Fault α :=
  let (line, column) := c.place count
  .error ⟨reason, line, column⟩

/-- A fault of the next character. -/
def faultNext {α : Type} (c : Cursor) (reason : String) : Except Fault α :=
  c.faultBehind 1 reason

end Cursor

end Scaffold.Json

/-!
## Reading — JSON by expectation

Readings of the parts of a text, in order. Besides generic values there are readings of texts,
lists, maps and records; a record may also be given as the list of its fields. Collections may
be nested up to a fixed depth.
-/

namespace Scaffold.Json

/-- A reading, which knows how many collections may still be opened. -/
abbrev Reading (α : Type) := ReaderT Nat (StateT Cursor (Except Fault)) α

namespace Reading

/-- Fails at the cursor. -/
def fail {α : Type} (reason : String) : Reading α := fun _ c => c.fault reason

/-- Fails because of the next character. -/
def failNext {α : Type} (reason : String) : Reading α := fun _ c => c.faultNext reason

/-- Fails some bytes behind the cursor. -/
def failBehind {α : Type} (count : Nat) (reason : String) : Reading α :=
  fun _ c => c.faultBehind count reason

/-- The next character, left in place. -/
def peek : Reading (Option Char) := do
  return (← get).rest.head?

/-- Passes the next character. -/
def skip : Reading Unit := modify Cursor.next

/-- Passes white space and returns the character behind it. -/
def peekPart : Reading (Option Char) := do
  modify Cursor.skipSpace
  peek

/-- Takes the next character. -/
def take : Reading (Option Char) := do
  let x ← peek
  skip
  return x

/-- Takes the rest of a word. -/
def word : List Char → Reading Unit
  | [] => return
  | x :: xs => do
    match ← take with
    | none => fail "EOF while parsing a value"
    | some y => if x == y then word xs else fail "expected ident"

/-- Passes decimal digits and returns them. -/
def digits : Reading (List Char) := do
  let c ← get
  let taken := c.rest.takeWhile Char.isDigit
  set (c.skipWhile Char.isDigit c.rest.length)
  return taken

/-! ## Numbers -/

/-- The power of ten nearest to `10 ^ n`. -/
def powerOfTen (n : Nat) : Float := Float.ofScientific 1 false n

/-- `significand * 10 ^ exponent`, computed on doubles: one multiplication or division, after
divisions by the largest power of ten while the exponent is below its range. `none` if the
result is too large. -/
def scale : Nat → Float → Int → Option Float
  | 0, x, _ => some x
  | fuel + 1, x, exponent =>
    if exponent.natAbs ≤ 308 then
      if 0 ≤ exponent then
        let y := x * powerOfTen exponent.toNat
        if y.isInf then none else some y
      else some (x / powerOfTen exponent.natAbs)
    else if x == 0.0 then some x
    else if 0 ≤ exponent then none
    else scale fuel (x / powerOfTen 308) (exponent + 308)

/-- The double for a sign, a significand and an exponent. -/
def double (negative : Bool) (significand : Nat) (exponent : Int) : Reading Json := do
  match scale 64 (Float.ofNat significand) exponent with
  | some x => return .float (if negative then -x else x)
  | none => fail "number out of range"

/-- Reads digits into a significand of at most 64 bits. Returns it with the number of digits
that were taken, and whether digits are left that no longer fit. -/
def fill : Nat → Nat → Nat → Reading (Nat × Nat × Bool)
  | 0, significand, count => return (significand, count, false)
  | fuel + 1, significand, count => do
    match ← peek with
    | some x =>
      if x.isDigit then
        let grown := significand * 10 + (x.toNat - 48)
        if Nat.pow 2 64 ≤ grown then return (significand, count, true)
        else
          skip
          fill fuel grown (count + 1)
      else return (significand, count, false)
    | none => return (significand, count, false)

/-- Reads an exponent behind its letter. -/
def exponent (negative : Bool) (significand : Nat) (start : Int) : Reading Json := do
  skip
  let negativeExponent ← match ← peek with
    | some '+' => do skip; pure false
    | some '-' => do skip; pure true
    | _ => pure false
  match ← take with
  | none => fail "EOF while parsing a value"
  | some x =>
    if !x.isDigit then fail "invalid number"
    else
      let rec grow (fuel n : Nat) : Reading (Option Nat) := do
        match fuel, ← peek with
        | fuel + 1, some y =>
          if y.isDigit then
            skip
            let grown := n * 10 + (y.toNat - 48)
            if Nat.pow 2 31 ≤ grown then return none else grow fuel grown
          else return some n
        | _, _ => return some n
      match ← grow (← get).rest.length (x.toNat - 48) with
      | some n => double negative significand (if negativeExponent then start - n else start + n)
      | none =>
        if significand != 0 && !negativeExponent then fail "number out of range"
        else
          discard digits
          return .float (if negative then -0.0 else 0.0)

/-- Reads an exponent if one follows. -/
def maybeExponent (negative : Bool) (significand : Nat) (start : Int) : Reading Json := do
  match ← peek with
  | some 'e' | some 'E' => exponent negative significand start
  | _ => double negative significand start

/-- Reads a fraction from its point on. -/
def fraction (negative : Bool) (significand : Nat) (start : Int) : Reading Json := do
  skip
  let (grown, count, full) ← fill ((← get).rest.length + 1) significand 0
  if full then
    discard digits
    maybeExponent negative grown (start - count)
  else if count == 0 then
    match ← peek with
    | some _ => failNext "invalid number"
    | none => failNext "EOF while parsing a value"
  else maybeExponent negative grown (start - count)

/-- Reads what follows the digits of a number in front of its point; they make up `n`. -/
def whole (negative : Bool) (n : Nat) : Reading Json := do
  match ← peek with
  | some '.' => fraction negative n 0
  | some 'e' | some 'E' => exponent negative n 0
  | _ =>
    if !negative then return .int n
    else if 0 < n && n ≤ Nat.pow 2 63 then return .int (-n)
    else return .float (-(Float.ofNat n))

/-- Reads a number behind its sign. -/
def number (negative : Bool) : Reading Json := do
  match ← take with
  | none => fail "EOF while parsing a value"
  | some '0' =>
    match ← peek with
    | some x => if x.isDigit then failNext "invalid number" else whole negative 0
    | none => whole negative 0
  | some x =>
    if !x.isDigit then fail "invalid number"
    else
      let (n, _, full) ← fill ((← get).rest.length + 1) (x.toNat - 48) 0
      if full then
        let dropped ← digits
        match ← peek with
        | some '.' => fraction negative n dropped.length
        | some 'e' | some 'E' => exponent negative n dropped.length
        | _ => double negative n dropped.length
      else whole negative n

/-! ## Texts -/

/-- The value of a hexadecimal digit. -/
def hexValue? (c : Char) : Option Nat :=
  if '0' ≤ c && c ≤ '9' then some (c.toNat - 48)
  else if 'a' ≤ c && c ≤ 'f' then some (c.toNat - 87)
  else if 'A' ≤ c && c ≤ 'F' then some (c.toNat - 55)
  else none

/-- Reads four hexadecimal digits. -/
def unit : Reading Nat := do
  let c ← get
  if (Utf8.encode (c.rest.take 4)).length < 4 then
    failBehind (Utf8.encode c.rest).length "EOF while parsing a string"
  else
    match (c.rest.take 4).foldlM (fun n x => (hexValue? x).map (n * 16 + ·)) 0 with
    | none => failBehind 4 "invalid escape"
    | some n =>
      set c.next.next.next.next
      return n

/-- Expects a character of the second half of a surrogate pair. -/
def half (x : Char) : Reading Unit := do
  match ← peek with
  | none => fail "EOF while parsing a string"
  | some y => if x == y then skip else failBehind 1 "unexpected end of hex escape"

/-- Reads the number of an escaped character, which may be given as a surrogate pair. Where the
text does not matter, half a pair will do. -/
def escapedNumber (matters : Bool) : Reading Char := do
  let n ← unit
  if !matters then return '?'
  if 0xDC00 ≤ n && n ≤ 0xDFFF then fail "lone leading surrogate in hex escape"
  else if n < 0xD800 || 0xDBFF < n then return Char.ofNat n
  else
    half '\\'
    half 'u'
    let m ← unit
    if m < 0xDC00 || 0xDFFF < m then fail "lone leading surrogate in hex escape"
    else return Char.ofNat ((n - 0xD800) * 1024 + (m - 0xDC00) + 0x10000)

/-- Reads an escape behind its backslash. -/
def escape (matters : Bool) : Reading Char := do
  match ← take with
  | none => fail "EOF while parsing a string"
  | some '"' => return '"'
  | some '\\' => return '\\'
  | some '/' => return '/'
  | some 'b' => return '\x08'
  | some 'f' => return '\x0c'
  | some 'n' => return '\n'
  | some 'r' => return '\r'
  | some 't' => return '\t'
  | some 'u' => escapedNumber matters
  | some _ => fail "invalid escape"

/-- Reads the characters of a text behind its opening quotation mark. -/
def characters (matters : Bool) : Nat → List Char → Reading (List Char)
  | 0, text => return text.reverse
  | fuel + 1, text => do
    match ← peek with
    | none => fail "EOF while parsing a string"
    | some '"' =>
      skip
      return text.reverse
    | some '\\' =>
      skip
      characters matters fuel ((← escape matters) :: text)
    | some x =>
      if x.toNat < 32 then
        failBehind 1 "control character (\\u0000-\\u001F) found while parsing a string"
      else
        skip
        characters matters fuel (x :: text)

/-- Reads a text behind its opening quotation mark. -/
def text : Reading String := do
  return String.ofList (← characters true ((← get).rest.length + 1) [])

/-! ## Collections -/

/-- Opens a collection. -/
def opened {α : Type} (r : Reading α) : Reading α := fun depth c =>
  match depth with
  | 0 => c.faultNext "recursion limit exceeded"
  | depth + 1 => r depth c.next

/-- Whether an item follows in a list. -/
def hasItem (first : Bool) : Reading Bool := do
  match ← peekPart with
  | none => failNext "EOF while parsing a list"
  | some ']' => return false
  | some x =>
    if first then return true
    else if x != ',' then failNext "expected \x60,\x60 or \x60]\x60"
    else
      skip
      match ← peekPart with
      | some ']' => failNext "trailing comma"
      | some _ => return true
      | none => failNext "EOF while parsing a value"

/-- Whether a member follows in an object. -/
def hasMember (first : Bool) : Reading Bool := do
  match ← peekPart with
  | none => failNext "EOF while parsing an object"
  | some '\x7d' => return false
  | some x =>
    if first then
      if x == '"' then return true else failNext "key must be a string"
    else if x != ',' then failNext "expected \x60,\x60 or \x60\x7d\x60"
    else
      skip
      match ← peekPart with
      | some '"' => return true
      | some '\x7d' => failNext "trailing comma"
      | some _ => failNext "key must be a string"
      | none => failNext "EOF while parsing a value"

/-- Reads the name of a member. -/
def memberName : Reading String := do
  skip
  text

/-- Takes the colon between a name and its value. -/
def colon : Reading Unit := do
  match ← peekPart with
  | some ':' => skip
  | some _ => failNext "expected \x60:\x60"
  | none => failNext "EOF while parsing an object"

/-- Takes the end of a list. -/
def endList : Reading Unit := do
  match ← peekPart with
  | some ']' => skip
  | some ',' =>
    skip
    match ← peekPart with
    | some ']' => failNext "trailing comma"
    | _ => failNext "trailing characters"
  | some _ => failNext "trailing characters"
  | none => failNext "EOF while parsing a list"

/-- Takes the end of an object. -/
def endObject : Reading Unit := do
  match ← peekPart with
  | some '\x7d' => skip
  | some ',' => failNext "trailing comma"
  | some _ => failNext "trailing characters"
  | none => failNext "EOF while parsing an object"

/-- Reads the items of a list. -/
def itemsWith {α : Type} (r : Reading α) : Nat → Bool → List α → Reading (List α)
  | 0, _, read => return read.reverse
  | fuel + 1, first, read => do
    if ← hasItem first then itemsWith r fuel false ((← r) :: read) else return read.reverse

/-- Reads the members of an object. -/
def membersWith {σ : Type} (r : σ → String → Reading σ) : Nat → Bool → σ → Reading σ
  | 0, _, state => return state
  | fuel + 1, first, state => do
    if ← hasMember first then
      let name ← memberName
      membersWith r fuel false (← r state name)
    else return state

/-- A bound on the parts of what is left. -/
def bound : Reading Nat := do
  return (← get).rest.length + 1

/-- Reads a list. -/
def listWith {α : Type} (r : Reading α) : Reading (List α) :=
  opened do
    let items ← itemsWith r (← bound) true []
    endList
    return items

/-- Reads an object. -/
def objectWith {σ : Type} (start : σ) (r : σ → String → Reading σ) : Reading σ :=
  opened do
    let state ← membersWith r (← bound) true start
    endObject
    return state

/-- A generic value, given how the parts of a collection are read. -/
def valueWith (part : Reading Json) : Reading Json := do
  match ← peekPart with
  | none => failNext "EOF while parsing a value"
  | some 'n' => do skip; word ['u', 'l', 'l']; return .null
  | some 't' => do skip; word ['r', 'u', 'e']; return .bool true
  | some 'f' => do skip; word ['a', 'l', 's', 'e']; return .bool false
  | some '-' => do skip; number true
  | some '"' => do skip; return .string (← text)
  | some '[' => return .array (← listWith part)
  | some '\x7b' =>
    return .object (← objectWith [] fun members name => do
      colon
      return insertMember name (← part) members)
  | some x => if x.isDigit then number false else failNext "expected value"

/-- A generic value within this many levels of collections. -/
def valueWithin : Nat → Reading Json
  | 0 => valueWith (failNext "recursion limit exceeded")
  | depth + 1 => valueWith (valueWithin depth)

/-- Reads a generic value. -/
def value : Reading Json := do
  valueWithin (← read)

/-! ## Expectations -/

/-- How a value is named where something else is expected. -/
def nameOf : Json → String
  | .null => "null"
  | .bool b => "boolean \x60" ++ toString b ++ "\x60"
  | .int n => "integer \x60" ++ toString n ++ "\x60"
  | .float x => "floating point \x60" ++ floatLayout.render x ++ "\x60"
  | .string s => "string " ++ Text.quoted s
  | .array _ => "sequence"
  | .object _ => "map"

/-- Refuses the value that comes next; a list or a map is refused at its beginning. -/
def mismatch {α : Type} (expected : String) : Reading α := do
  let refuse (j : Json) : Reading α :=
    fail ("invalid type: " ++ nameOf j ++ ", expected " ++ expected)
  match ← peek with
  | some '[' => refuse (.array [])
  | some '\x7b' => refuse (.object [])
  | _ => refuse (← valueWith (failNext "expected value"))

/-- The next part, which must be there. -/
def part : Reading Char := do
  match ← peekPart with
  | some x => return x
  | none => failNext "EOF while parsing a value"

/-- Reads a text. -/
def string : Reading String := do
  match ← part with
  | '"' => do skip; text
  | _ => mismatch "a string"

/-- Reads a list. -/
def list {α : Type} (r : Reading α) : Reading (List α) := do
  match ← part with
  | '[' => listWith r
  | _ => mismatch "a sequence"

/-- Reads a map; a name that comes again takes the new value. -/
def map {α : Type} (r : Reading α) : Reading (OrderedMap α) := do
  match ← part with
  | '\x7b' => objectWith .empty fun m name => do
    colon
    return m.set name (← r)
  | _ => mismatch "a map"

/-! ## Passing over values -/

/-- Passes a text behind its opening quotation mark. -/
def passText : Reading Unit := do
  discard (characters false ((← get).rest.length + 1) [])

/-- Passes a number behind its sign. -/
def passNumber : Reading Unit := do
  let passExponent : Reading Unit := do
    match ← peek with
    | some 'e' | some 'E' =>
      skip
      match ← peek with
      | some '+' | some '-' => skip
      | _ => pure ()
      match ← take with
      | some x => if x.isDigit then discard digits else fail "invalid number"
      | none => fail "invalid number"
    | _ => return
  match ← take with
  | some '0' =>
    match ← peek with
    | some x => if x.isDigit then failNext "invalid number"
    | none => pure ()
  | some x => if x.isDigit then discard digits else fail "invalid number"
  | none => fail "invalid number"
  match ← peek with
  | some '.' =>
    skip
    if (← digits).isEmpty then failNext "invalid number"
    passExponent
  | _ => passExponent

/-- Passes values and the ends of collections until the outermost one is complete; `frames` are
the open collections, an object as true. -/
def passFrom : Nat → List Bool → Reading Unit
  | 0, _ => return
  | fuel + 1, frames => do
    let opens ← match ← peekPart with
      | none => failNext "EOF while parsing a value"
      | some 'n' => do skip; word ['u', 'l', 'l']; pure none
      | some 't' => do skip; word ['r', 'u', 'e']; pure none
      | some 'f' => do skip; word ['a', 'l', 's', 'e']; pure none
      | some '-' => do skip; passNumber; pure none
      | some '"' => do skip; passText; pure none
      | some '[' => do skip; pure (some false)
      | some '\x7b' => do skip; pure (some true)
      | some x => if x.isDigit then do passNumber; pure none else failNext "expected value"
    let (frames, complete) := match opens with
      | some isObject => (isObject :: frames, false)
      | none => (frames, true)
    let frames ← close fuel frames complete
    match frames with
    | [] => return
    | isObject :: _ =>
      if isObject then
        match ← peekPart with
        | some '"' =>
          skip
          passText
          colon
        | some _ => failNext "key must be a string"
        | none => failNext "EOF while parsing an object"
      passFrom fuel frames
where
  /-- Takes the ends of the collections that end here, or the comma before the next part. -/
  close : Nat → List Bool → Bool → Reading (List Bool)
    | 0, frames, _ => return frames
    | _, [], _ => return []
    | fuel + 1, isObject :: frames, complete => do
      match ← peekPart with
      | none =>
        failNext (if isObject then "EOF while parsing an object" else "EOF while parsing a list")
      | some x =>
        if x == ',' && complete then
          skip
          return isObject :: frames
        else if x == (if isObject then '\x7d' else ']') then
          skip
          close fuel frames true
        else if complete then
          failNext (if isObject then "expected \x60,\x60 or \x60\x7d\x60"
            else "expected \x60,\x60 or \x60]\x60")
        else return isObject :: frames

/-- Passes a value of any kind. -/
def pass : Reading Unit := do
  passFrom (← bound) []

/-! ## Records -/

/-- A field of a record: its name, and how it is read into the record. -/
structure FieldReader (σ : Type) where
  name : String
  set : σ → Reading σ

/-- Reads the fields of a record in order from the items of a list; fields behind the end keep
their defaults. -/
def fieldsInOrder {σ : Type} : List (FieldReader σ) → Bool → σ → Reading σ
  | [], _, state => return state
  | field :: fields, first, state => do
    if ← hasItem first then fieldsInOrder fields false (← field.set state)
    else return state

/-- Reads a record: an object with known fields, of which none may come twice, or the list of its
fields. Unknown fields are passed over. -/
def record {σ : Type} (expected : String) (start : σ) (fields : List (FieldReader σ)) :
    Reading σ := do
  match ← part with
  | '[' => opened do
    let state ← fieldsInOrder fields true start
    endList
    return state
  | '\x7b' =>
    return (← objectWith (start, ([] : List String)) fun (state, seen) name => do
      match fields.find? (·.name == name) with
      | none =>
        colon
        pass
        return (state, seen)
      | some field =>
        if seen.contains name then
          -- the object is left before the fault is placed
          match ← peekPart with
          | some '\x7d' => skip
          | _ => pure ()
          fail ("duplicate field \x60" ++ name ++ "\x60")
        colon
        return (← field.set state, name :: seen)).1
  | _ => mismatch ("struct " ++ expected)

/-- Reads all of a text. -/
def run {α : Type} (r : Reading α) (text : String) : Except Fault α := do
  let (a, c) ← (r 127).run { rest := text.toList }
  let c := c.skipSpace
  if c.rest.isEmpty then return a else c.faultNext "trailing characters"

end Reading

/-- The value of a text. -/
def ofText (text : String) : Except Fault Json :=
  Reading.run Reading.value text

end Scaffold.Json

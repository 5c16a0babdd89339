import Scaffold.Text.Quoted
import Scaffold.Text.Utf8

/-!
# Digits — bytes as texts

Bytes are written with two digits of sixteen for each, or with four symbols of sixty-four for three.
In a query, those that cannot stand there for themselves are written with digits.
-/

set_option autoImplicit false

/-!
## Hex — two digits a byte

Bytes are written with lower-case digits; digits of either case are read.
-/

namespace Scaffold.Hex

/-- Why a text spells no bytes. -/
inductive Fault
  | oddLength
  | invalid (byte : UInt8) (index : Nat)
  deriving DecidableEq, Repr

/-- The wording of a fault. -/
def Fault.message : Fault → String
  | .oddLength => "Odd number of digits"
  | .invalid byte index =>
    "Invalid character " ++ Text.quotedSingle (Char.ofNat byte.toNat) ++ " at position "
      ++ toString index

/-- The digit of a number below sixteen. -/
def digit (n : Nat) : Char :=
  if n < 10 then Char.ofNat (48 + n) else Char.ofNat (87 + n)

/-- The digits of a byte. -/
def encodeByte (b : UInt8) : List Char :=
  [digit (b.toNat / 16), digit (b.toNat % 16)]

/-- The digits of bytes. -/
def encode (bytes : Bytes) : List Char :=
  bytes.flatMap encodeByte

/-- The value of a digit, given as a byte. -/
def value? (b : UInt8) : Option Nat :=
  let n := b.toNat
  if 48 ≤ n && n ≤ 57 then some (n - 48)
  else if 97 ≤ n && n ≤ 102 then some (n - 87)
  else if 65 ≤ n && n ≤ 70 then some (n - 55)
  else none

/-- Reads pairs of digits; `index` is the place of the first. -/
def decodePairs : Nat → Bytes → Except Fault Bytes
  | index, high :: low :: rest =>
    match value? high, value? low with
    | none, _ => .error (.invalid high index)
    | _, none => .error (.invalid low (index + 1))
    | some h, some l => do
      return (h * 16 + l).toUInt8 :: (← decodePairs (index + 2) rest)
  | _, _ => .ok []

/-- The bytes that a text, given as bytes itself, spells. -/
def decode (text : Bytes) : Except Fault Bytes :=
  if text.length % 2 = 1 then .error .oddLength else decodePairs 0 text

end Scaffold.Hex

/-!
## Base64 — four symbols for three bytes

Bytes are written in groups of three, the last group padded with `=` to four symbols. Reading
accepts exactly such texts: the padding must be complete, and the bits that padding leaves unused
must be zero.
-/

namespace Scaffold.Base64

/-- Why a text spells no bytes; symbols are given as bytes with their place. -/
inductive Fault
  | invalidSymbol (symbol : UInt8) (index : Nat)
  | invalidLength (length : Nat)
  | invalidLastSymbol (symbol : UInt8) (index : Nat)
  | invalidPadding
  deriving DecidableEq, Repr

/-- The wording of a fault. -/
def Fault.message : Fault → String
  | .invalidSymbol symbol index =>
    "Invalid symbol " ++ toString symbol.toNat ++ ", offset " ++ toString index ++ "."
  | .invalidLength length => "Invalid input length: " ++ toString length
  | .invalidLastSymbol symbol index =>
    "Invalid last symbol " ++ toString symbol.toNat ++ ", offset " ++ toString index ++ "."
  | .invalidPadding => "Invalid padding"

/-- The symbol of a number below 64. -/
def symbol (n : Nat) : Char :=
  if n < 26 then Char.ofNat (65 + n)
  else if n < 52 then Char.ofNat (71 + n)
  else if n < 62 then Char.ofNat (n - 4)
  else if n = 62 then '+'
  else '/'

/-- The number of a symbol, given as a byte. -/
def value? (b : UInt8) : Option Nat :=
  let n := b.toNat
  if 65 ≤ n && n ≤ 90 then some (n - 65)
  else if 97 ≤ n && n ≤ 122 then some (n - 71)
  else if 48 ≤ n && n ≤ 57 then some (n + 4)
  else if n == 43 then some 62
  else if n == 47 then some 63
  else none

/-- The padding symbol. -/
def pad : UInt8 := 61

/-- The symbols of bytes. -/
def encode : Bytes → List Char
  | a :: b :: c :: rest =>
    let n := a.toNat * 65536 + b.toNat * 256 + c.toNat
    symbol (n / 262144) :: symbol (n / 4096 % 64) :: symbol (n / 64 % 64) :: symbol (n % 64)
      :: encode rest
  | [a, b] =>
    let n := a.toNat * 1024 + b.toNat * 4
    [symbol (n / 4096), symbol (n / 64 % 64), symbol (n % 64), '=']
  | [a] =>
    let n := a.toNat * 16
    [symbol (n / 64), symbol (n % 64), '=', '=']
  | [] => []

/-- The bytes of four symbols. -/
def quad (a b c d : Nat) : Bytes :=
  let n := a * 262144 + b * 4096 + c * 64 + d
  [(n / 65536).toUInt8, (n / 256 % 256).toUInt8, (n % 256).toUInt8]

/-- The values of the symbols of the last group, the place of its first padding and the number
of them. Padding stands behind all symbols and behind at least two. -/
def tailValues (start : Nat) :
    Nat → Bytes → List Nat → Option Nat → Nat → Except Fault (List Nat × Nat)
  | _, [], values, _, pads => .ok (values.reverse, pads)
  | offset, b :: rest, values, firstPad, pads =>
    if b == pad then
      if offset < 2 then .error (.invalidSymbol b (start + offset))
      else tailValues start (offset + 1) rest values (some (firstPad.getD offset)) (pads + 1)
    else
      match firstPad with
      | some first => .error (.invalidSymbol pad (start + first))
      | none =>
        match value? b with
        | none => .error (.invalidSymbol b (start + offset))
        | some v => tailValues start (offset + 1) rest (v :: values) none pads

/-- The bytes of the last group. -/
def decodeTail (start : Nat) (text : Bytes) : Except Fault Bytes := do
  let (values, pads) ← tailValues start 0 text [] none 0
  if !text.isEmpty && values.length < 2 then throw (.invalidLength (start + values.length))
  if (values.length + pads) % 4 != 0 then throw .invalidPadding
  let last (used : Nat) (index : Nat) (bytes : Bytes) : Except Fault Bytes :=
    if used % 64 == 0 then .ok bytes
    else .error (.invalidLastSymbol (text.getD index 0) (start + index))
  match values with
  | [a, b] => last (b % 16 * 4) 1 ((quad a b 0 0).take 1)
  | [a, b, c] => last (c % 4 * 16) 2 ((quad a b c 0).take 2)
  | [a, b, c, d] => return quad a b c d
  | _ => return []

/-- The bytes of groups of symbols from the one at `start`; the last group may be padded. -/
def decodeFrom : Nat → Bytes → Except Fault Bytes
  | start, a :: b :: c :: d :: e :: rest =>
    match value? a, value? b, value? c, value? d with
    | none, _, _, _ => .error (.invalidSymbol a start)
    | _, none, _, _ => .error (.invalidSymbol b (start + 1))
    | _, _, none, _ => .error (.invalidSymbol c (start + 2))
    | _, _, _, none => .error (.invalidSymbol d (start + 3))
    | some v, some w, some x, some y => do
      return quad v w x y ++ (← decodeFrom (start + 4) (e :: rest))
  | start, text => decodeTail start text

/-- The bytes that a text, given as bytes itself, spells. A single symbol behind the last whole
group is looked at first. -/
def decode (text : Bytes) : Except Fault Bytes :=
  match text.getLast? with
  | some b =>
    if text.length % 4 == 1 && b != pad && (value? b).isNone then
      .error (.invalidSymbol b (text.length - 1))
    else decodeFrom 0 text
  | none => .ok []

end Scaffold.Base64

/-!
## FormUrl — pairs as a query

Pairs of texts are joined by `&`, key and value by `=`. Letters, digits and `*-._` stand for
themselves, a space is written as `+`, every other byte as `%` and two digits.
-/

namespace Scaffold.FormUrl

/-- The bytes that stand for themselves. -/
def isPlain (b : UInt8) : Bool :=
  let n := b.toNat
  (48 ≤ n && n ≤ 57) || (65 ≤ n && n ≤ 90) || (97 ≤ n && n ≤ 122)
    || n == 42 || n == 45 || n == 46 || n == 95

/-- An upper-case digit in base sixteen. -/
def upperDigit (n : Nat) : Char :=
  if n < 10 then Char.ofNat (48 + n) else Char.ofNat (55 + n)

/-- A byte in a query. -/
def encodeByte (b : UInt8) : List Char :=
  if isPlain b then [Char.ofNat b.toNat]
  else if b == 32 then ['+']
  else ['%', upperDigit (b.toNat / 16), upperDigit (b.toNat % 16)]

/-- A text in a query. -/
def encodeText (text : String) : List Char :=
  (Utf8.ofString text).flatMap encodeByte

/-- A pair in a query. -/
def encodePair (pair : String × String) : List Char :=
  encodeText pair.1 ++ '=' :: encodeText pair.2

/-- A list of pairs as a query. -/
def encode (pairs : List (String × String)) : String :=
  String.ofList (['&'].intercalate (pairs.map encodePair))

end Scaffold.FormUrl

/-!
# UTF-8 — characters as bytes

File contents, request bodies and queued blocks are plain byte lists, so that statements about
them are statements about lists. `encode` writes each character as one to four bytes. `decode?`
accepts exactly the well-formed byte strings (no overlong form, no surrogate, nothing above
U+10FFFF); `decodeLossy` replaces every maximal ill-formed part by U+FFFD.
-/

set_option autoImplicit false

namespace Scaffold

/-- A byte string. -/
abbrev Bytes := List UInt8

end Scaffold

namespace Scaffold.Utf8

/-- The bytes of one character. -/
def encodeChar (c : Char) : Bytes :=
  let n := c.toNat
  if n < 0x80 then
    [n.toUInt8]
  else if n < 0x800 then
    [(0xC0 + n / 64).toUInt8, (0x80 + n % 64).toUInt8]
  else if n < 0x10000 then
    [(0xE0 + n / 4096).toUInt8, (0x80 + n / 64 % 64).toUInt8, (0x80 + n % 64).toUInt8]
  else
    [(0xF0 + n / 262144).toUInt8, (0x80 + n / 4096 % 64).toUInt8,
      (0x80 + n / 64 % 64).toUInt8, (0x80 + n % 64).toUInt8]

/-- The bytes of a text. -/
def encode (text : List Char) : Bytes :=
  text.flatMap encodeChar

/-- The bytes of a string. -/
def ofString (text : String) : Bytes :=
  encode text.toList

theorem encode_nil : encode [] = [] := rfl

theorem encode_cons (c : Char) (text : List Char) :
    encode (c :: text) = encodeChar c ++ encode text := rfl

theorem encode_append (a b : List Char) : encode (a ++ b) = encode a ++ encode b := by
  simp [encode]

/-- A byte of the form `10xxxxxx`. -/
def isContinuation (b : UInt8) : Bool :=
  0x80 ≤ b && b ≤ 0xBF

/-- What a lead byte announces: how many bytes follow, and which values the first of them may
have. Lead bytes that start no character give `none`. -/
def announces (lead : UInt8) : Option (Nat × UInt8 × UInt8) :=
  if lead < 0x80 then some (0, 0, 0)
  else if lead < 0xC2 then none
  else if lead < 0xE0 then some (1, 0x80, 0xBF)
  else if lead == 0xE0 then some (2, 0xA0, 0xBF)
  else if lead == 0xED then some (2, 0x80, 0x9F)
  else if lead < 0xF0 then some (2, 0x80, 0xBF)
  else if lead == 0xF0 then some (3, 0x90, 0xBF)
  else if lead < 0xF4 then some (3, 0x80, 0xBF)
  else if lead == 0xF4 then some (3, 0x80, 0x8F)
  else none

/-- The six low bits of a continuation byte. -/
def payload (b : UInt8) : Nat :=
  b.toNat - 0x80

/-- One step of reading: the character that the bytes start with, or how many bytes form the
ill-formed part at their head; in both cases with the number of bytes taken, less one. -/
def step (lead : UInt8) (rest : Bytes) : Option Char × Nat :=
  match announces lead with
  | none => (none, 0)
  | some (0, _, _) => (some (Char.ofNat lead.toNat), 0)
  | some (following, low, high) =>
    match rest with
    | [] => (none, 0)
    | b :: rest =>
      if b < low || high < b then (none, 0)
      else match following, rest with
        | 1, _ => (some (Char.ofNat ((lead.toNat - 0xC0) * 64 + payload b)), 1)
        | _, [] => (none, 1)
        | 2, c :: _ =>
          if isContinuation c then
            (some (Char.ofNat ((lead.toNat - 0xE0) * 4096 + payload b * 64 + payload c)), 2)
          else (none, 1)
        | _, c :: rest =>
          if !isContinuation c then (none, 1)
          else match rest with
            | [] => (none, 2)
            | d :: _ =>
              if isContinuation d then
                (some (Char.ofNat ((lead.toNat - 0xF0) * 262144 + payload b * 4096
                  + payload c * 64 + payload d)), 3)
              else (none, 2)

/-- The text of a well-formed byte string. -/
def decode? : Bytes → Option (List Char)
  | [] => some []
  | lead :: rest =>
    match step lead rest with
    | (some c, taken) => (decode? (rest.drop taken)).map (c :: ·)
    | (none, _) => none
termination_by bytes => bytes.length
decreasing_by simp only [List.length_cons, List.length_drop]; omega

/-- The text of any byte string, each ill-formed part as one replacement character. -/
def decodeLossy : Bytes → List Char
  | [] => []
  | lead :: rest =>
    match step lead rest with
    | (some c, taken) => c :: decodeLossy (rest.drop taken)
    | (none, taken) => '\ufffd' :: decodeLossy (rest.drop taken)
termination_by bytes => bytes.length
decreasing_by all_goals (simp only [List.length_cons, List.length_drop]; omega)

/-- The string of a well-formed byte string. -/
def toString? (bytes : Bytes) : Option String :=
  (decode? bytes).map String.ofList

/-- The string of any byte string, ill-formed parts replaced. -/
def toStringLossy (bytes : Bytes) : String :=
  String.ofList (decodeLossy bytes)

/-- The number of bytes a string takes. -/
def size (text : String) : Nat :=
  (ofString text).length

end Scaffold.Utf8

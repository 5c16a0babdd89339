import Scaffold.Encoding.Digits
import Scaffold.Text.Blank
import Scaffold.Text.Utf8

/-!
# Digits — bytes that are written by digits are read again as they were

A byte is written by two digits of sixteen, and three bytes by four symbols of sixty-four, the last
of them filled up with padding. Every digit and every symbol is a single byte that has the value it
was written for, so that reading puts together what writing took apart: `Hex.decode_encode`, where
each digit may be written in either case, and `Base64.decode_encode`. No digit is a blank, so that
blanks can be put around what is written (`Hex.not_isBlank_of_mem`, `Base64.not_isBlank_of_mem`).
-/

set_option autoImplicit false

namespace Scaffold

theorem toUInt8_toNat (b : UInt8) : b.toNat.toUInt8 = b := UInt8.ofNat_toNat

namespace Hex

/-- The digits of bytes, those at some places as capitals. -/
def encodeCased (capital : Nat → Bool) (bytes : Bytes) : List Char :=
  (encode bytes).mapIdx fun place c => if capital place then c.toUpper else c

/-- A digit in one of its two cases. -/
def casedDigit (capital : Bool) (n : Nat) : Char :=
  if capital then (digit n).toUpper else digit n

theorem encodeCased_cons (capital : Nat → Bool) (b : UInt8) (bytes : Bytes) :
    encodeCased capital (b :: bytes) =
      casedDigit (capital 0) (b.toNat / 16) :: casedDigit (capital 1) (b.toNat % 16) ::
        encodeCased (fun place => capital (place + 2)) bytes := by
  simp [encodeCased, encode, encodeByte, casedDigit, List.mapIdx_cons]

/-- A digit is a single byte, which is read as the number that it was written for. -/
theorem map_value?_casedDigit (capital : Bool) {n : Nat} (h : n < 16) :
    (Utf8.encodeChar (casedDigit capital n)).map value? = [some n] := by
  have hall : ∀ n < 16, ∀ capital,
      (Utf8.encodeChar (casedDigit capital n)).map value? = [some n] := by decide
  exact hall n h capital

theorem exists_casedDigit (capital : Bool) {n : Nat} (h : n < 16) :
    ∃ byte, Utf8.encodeChar (casedDigit capital n) = [byte] ∧ value? byte = some n := by
  obtain ⟨byte, rest, hbytes, hvalue, hrest⟩ :=
    List.map_eq_cons_iff.1 (map_value?_casedDigit capital h)
  rw [List.map_eq_nil_iff.1 hrest] at hbytes
  exact ⟨byte, hbytes, hvalue⟩

/-- Pairs of digits are read one by one, from whatever place on. -/
theorem decodePairs_encodeCased (capital : Nat → Bool) (index : Nat) (bytes : Bytes) :
    decodePairs index (Utf8.encode (encodeCased capital bytes)) = .ok bytes := by
  induction bytes generalizing capital index with
  | nil => rfl
  | cons b bytes ih =>
    have hb : b.toNat < 256 := b.toNat_lt
    obtain ⟨high, hhigh, hhighValue⟩ :=
      exists_casedDigit (capital 0) (show b.toNat / 16 < 16 by omega)
    obtain ⟨low, hlow, hlowValue⟩ :=
      exists_casedDigit (capital 1) (show b.toNat % 16 < 16 by omega)
    have hbyte : (b.toNat / 16 * 16 + b.toNat % 16).toUInt8 = b := by
      rw [show b.toNat / 16 * 16 + b.toNat % 16 = b.toNat by omega, toUInt8_toNat]
    rw [encodeCased_cons, Utf8.encode_cons, Utf8.encode_cons, hhigh, hlow]
    simp only [List.cons_append, List.nil_append, decodePairs, hhighValue, hlowValue, ih, hbyte]
    rfl

theorem length_encode_encodeCased (capital : Nat → Bool) (bytes : Bytes) :
    (Utf8.encode (encodeCased capital bytes)).length = 2 * bytes.length := by
  induction bytes generalizing capital with
  | nil => rfl
  | cons b bytes ih =>
    have hb : b.toNat < 256 := b.toNat_lt
    obtain ⟨high, hhigh, -⟩ := exists_casedDigit (capital 0) (show b.toNat / 16 < 16 by omega)
    obtain ⟨low, hlow, -⟩ := exists_casedDigit (capital 1) (show b.toNat % 16 < 16 by omega)
    rw [encodeCased_cons, Utf8.encode_cons, Utf8.encode_cons, hhigh, hlow]
    simp only [List.cons_append, List.nil_append, List.length_cons, ih]
    omega

/-- Bytes are read as they were written, in whatever case each digit is. -/
theorem decode_encodeCased (capital : Nat → Bool) (bytes : Bytes) :
    decode (Utf8.encode (encodeCased capital bytes)) = .ok bytes := by
  rw [decode, length_encode_encodeCased, if_neg (by omega), decodePairs_encodeCased]

theorem encodeCased_lower (bytes : Bytes) : encodeCased (fun _ => false) bytes = encode bytes := by
  simp [encodeCased, List.mapIdx_eq_iff]

theorem decode_encode (bytes : Bytes) : decode (Utf8.encode (encode bytes)) = .ok bytes := by
  rw [← encodeCased_lower, decode_encodeCased]

/-- No digit is a blank. -/
theorem not_isBlank_of_mem {capital : Nat → Bool} {bytes : Bytes} {c : Char}
    (h : c ∈ encodeCased capital bytes) : Text.isBlank c = false := by
  have hdigit : ∀ n < 16, ∀ capital, Text.isBlank (casedDigit capital n) = false := by decide
  induction bytes generalizing capital with
  | nil => cases h
  | cons b bytes ih =>
    have hb : b.toNat < 256 := b.toNat_lt
    rw [encodeCased_cons, List.mem_cons, List.mem_cons] at h
    rcases h with rfl | rfl | h
    · exact hdigit _ (by omega) _
    · exact hdigit _ (by omega) _
    · exact ih h

end Hex

namespace Base64

/-- A symbol is a single byte that is not the padding, and it has the value that it was written
for. -/
theorem map_value?_symbol {n : Nat} (h : n < 64) :
    (Utf8.encodeChar (symbol n)).map (fun b => (value? b, b == pad)) = [(some n, false)] := by
  have hall : ∀ n < 64,
      (Utf8.encodeChar (symbol n)).map (fun b => (value? b, b == pad)) = [(some n, false)] := by
    decide
  exact hall n h

theorem exists_symbol {n : Nat} (h : n < 64) :
    ∃ byte, Utf8.encodeChar (symbol n) = [byte] ∧ value? byte = some n ∧
      (byte == pad) = false := by
  obtain ⟨byte, rest, hbytes, hfacts, hrest⟩ := List.map_eq_cons_iff.1 (map_value?_symbol h)
  rw [List.map_eq_nil_iff.1 hrest] at hbytes
  exact ⟨byte, hbytes, congrArg Prod.fst hfacts, congrArg Prod.snd hfacts⟩

theorem encodeChar_pad : Utf8.encodeChar '=' = [pad] := by decide

/-! ## The last group -/

/-- A symbol in the last group is taken for its value. -/
theorem tailValues_symbol {byte : UInt8} {v : Nat} (hvalue : value? byte = some v)
    (hpad : (byte == pad) = false) (start offset : Nat) (rest : Bytes) (values : List Nat)
    (pads : Nat) :
    tailValues start offset (byte :: rest) values none pads =
      tailValues start (offset + 1) rest (v :: values) none pads := by
  simp [tailValues, hpad, hvalue]

/-- Padding behind two symbols is counted. -/
theorem tailValues_pad {offset : Nat} (h : 2 ≤ offset) (start : Nat) (rest : Bytes)
    (values : List Nat) (firstPad : Option Nat) (pads : Nat) :
    tailValues start offset (pad :: rest) values firstPad pads =
      tailValues start (offset + 1) rest values (some (firstPad.getD offset)) (pads + 1) := by
  have hoffset : ¬offset < 2 := by omega
  cases firstPad <;> simp [tailValues, hoffset]

section LastGroup

variable {a b c d : UInt8} {v w x y : Nat}

/-- Four symbols are three bytes. -/
theorem decodeTail_four (ha : value? a = some v ∧ (a == pad) = false)
    (hb : value? b = some w ∧ (b == pad) = false) (hc : value? c = some x ∧ (c == pad) = false)
    (hd : value? d = some y ∧ (d == pad) = false) (start : Nat) :
    decodeTail start [a, b, c, d] = .ok (quad v w x y) := by
  have hvalues : tailValues start 0 [a, b, c, d] [] none 0 = .ok ([v, w, x, y], 0) := by
    rw [tailValues_symbol ha.1 ha.2, tailValues_symbol hb.1 hb.2, tailValues_symbol hc.1 hc.2,
      tailValues_symbol hd.1 hd.2]
    rfl
  simp [decodeTail, hvalues, bind, Except.bind, pure, Except.pure]

/-- Three symbols and one padding are two bytes, when no bits are left over. -/
theorem decodeTail_three (ha : value? a = some v ∧ (a == pad) = false)
    (hb : value? b = some w ∧ (b == pad) = false) (hc : value? c = some x ∧ (c == pad) = false)
    (hleft : x % 4 = 0) (start : Nat) :
    decodeTail start [a, b, c, pad] = .ok ((quad v w x 0).take 2) := by
  have hvalues : tailValues start 0 [a, b, c, pad] [] none 0 = .ok ([v, w, x], 1) := by
    rw [tailValues_symbol ha.1 ha.2, tailValues_symbol hb.1 hb.2, tailValues_symbol hc.1 hc.2,
      tailValues_pad (by omega)]
    rfl
  simp [decodeTail, hvalues, hleft, bind, Except.bind]

/-- Two symbols and two paddings are one byte, when no bits are left over. -/
theorem decodeTail_two (ha : value? a = some v ∧ (a == pad) = false)
    (hb : value? b = some w ∧ (b == pad) = false) (hleft : w % 16 = 0) (start : Nat) :
    decodeTail start [a, b, pad, pad] = .ok ((quad v w 0 0).take 1) := by
  have hvalues : tailValues start 0 [a, b, pad, pad] [] none 0 = .ok ([v, w], 2) := by
    rw [tailValues_symbol ha.1 ha.2, tailValues_symbol hb.1 hb.2, tailValues_pad (by omega),
      tailValues_pad (by omega)]
    rfl
  simp [decodeTail, hvalues, hleft, bind, Except.bind]

end LastGroup

/-! ## All groups -/

/-- A group of four symbols is three bytes, in front of those of the groups behind it. -/
theorem decodeFrom_group {a b c d : UInt8} {v w x y : Nat}
    (ha : value? a = some v ∧ (a == pad) = false) (hb : value? b = some w ∧ (b == pad) = false)
    (hc : value? c = some x ∧ (c == pad) = false) (hd : value? d = some y ∧ (d == pad) = false)
    (start : Nat) {rest behind : Bytes} (hrest : decodeFrom (start + 4) rest = .ok behind) :
    decodeFrom start (a :: b :: c :: d :: rest) = .ok (quad v w x y ++ behind) := by
  cases rest with
  | nil =>
    -- the group is the last one, which has its own reading
    obtain rfl : [] = behind := Except.ok.inj hrest
    rw [List.append_nil]
    exact decodeTail_four ha hb hc hd start
  | cons e rest => simp [decodeFrom, ha, hb, hc, hd, hrest, bind, Except.bind, pure, Except.pure]

/-- Four numbers of six bits are the three bytes of the number that they make up. -/
theorem quad_eq {a b c d n : Nat} (h : a * 262144 + b * 4096 + c * 64 + d = n) :
    quad a b c d = [(n / 65536).toUInt8, (n / 256 % 256).toUInt8, (n % 256).toUInt8] := by
  rw [quad, h]

/-- Three bytes come back from their four symbols. -/
theorem quad_of_three {a b c : UInt8} {n : Nat}
    (h : n = a.toNat * 65536 + b.toNat * 256 + c.toNat) :
    quad (n / 262144) (n / 4096 % 64) (n / 64 % 64) (n % 64) = [a, b, c] := by
  have ha : a.toNat < 256 := a.toNat_lt
  have hb : b.toNat < 256 := b.toNat_lt
  have hc : c.toNat < 256 := c.toNat_lt
  have hwhole : n / 262144 * 262144 + n / 4096 % 64 * 4096 + n / 64 % 64 * 64 + n % 64 = n := by
    omega
  rw [quad_eq hwhole, show n / 65536 = a.toNat by omega, show n / 256 % 256 = b.toNat by omega,
    show n % 256 = c.toNat by omega, toUInt8_toNat, toUInt8_toNat, toUInt8_toNat]

/-- Two bytes come back from their three symbols. -/
theorem quad_of_two {a b : UInt8} {n : Nat} (h : n = a.toNat * 1024 + b.toNat * 4) :
    (quad (n / 4096) (n / 64 % 64) (n % 64) 0).take 2 = [a, b] := by
  have ha : a.toNat < 256 := a.toNat_lt
  have hb : b.toNat < 256 := b.toNat_lt
  have hwhole : n / 4096 * 262144 + n / 64 % 64 * 4096 + n % 64 * 64 + 0 = n * 64 := by omega
  rw [quad_eq hwhole, show n * 64 / 65536 = a.toNat by omega,
    show n * 64 / 256 % 256 = b.toNat by omega, toUInt8_toNat, toUInt8_toNat]
  rfl

/-- One byte comes back from its two symbols. -/
theorem quad_of_one {a : UInt8} {n : Nat} (h : n = a.toNat * 16) :
    (quad (n / 64) (n % 64) 0 0).take 1 = [a] := by
  have ha : a.toNat < 256 := a.toNat_lt
  have hwhole : n / 64 * 262144 + n % 64 * 4096 + 0 * 64 + 0 = n * 4096 := by omega
  rw [quad_eq hwhole, show n * 4096 / 65536 = a.toNat by omega, toUInt8_toNat]
  rfl

/-- Groups are read one by one, from whatever place on. -/
theorem decodeFrom_encode (start : Nat) (bytes : Bytes) :
    decodeFrom start (Utf8.encode (encode bytes)) = .ok bytes := by
  induction bytes using encode.induct generalizing start with
  | case1 a b c rest ih =>
    have ha : a.toNat < 256 := a.toNat_lt
    have hb : b.toNat < 256 := b.toNat_lt
    have hc : c.toNat < 256 := c.toNat_lt
    obtain ⟨n, hn⟩ : ∃ n, n = a.toNat * 65536 + b.toNat * 256 + c.toNat := ⟨_, rfl⟩
    obtain ⟨s₁, h₁, hs₁⟩ := exists_symbol (show n / 262144 < 64 by omega)
    obtain ⟨s₂, h₂, hs₂⟩ := exists_symbol (show n / 4096 % 64 < 64 by omega)
    obtain ⟨s₃, h₃, hs₃⟩ := exists_symbol (show n / 64 % 64 < 64 by omega)
    obtain ⟨s₄, h₄, hs₄⟩ := exists_symbol (show n % 64 < 64 by omega)
    have hread := decodeFrom_group hs₁ hs₂ hs₃ hs₄ start (ih (start + 4))
    rw [quad_of_three hn] at hread
    simpa only [encode, ← hn, Utf8.encode_cons, h₁, h₂, h₃, h₄, List.cons_append,
      List.nil_append] using hread
  | case2 a b =>
    have ha : a.toNat < 256 := a.toNat_lt
    have hb : b.toNat < 256 := b.toNat_lt
    obtain ⟨n, hn⟩ : ∃ n, n = a.toNat * 1024 + b.toNat * 4 := ⟨_, rfl⟩
    obtain ⟨s₁, h₁, hs₁⟩ := exists_symbol (show n / 4096 < 64 by omega)
    obtain ⟨s₂, h₂, hs₂⟩ := exists_symbol (show n / 64 % 64 < 64 by omega)
    obtain ⟨s₃, h₃, hs₃⟩ := exists_symbol (show n % 64 < 64 by omega)
    have hread := decodeTail_three hs₁ hs₂ hs₃ (by omega) start
    rw [quad_of_two hn] at hread
    simpa only [encode, ← hn, Utf8.encode_cons, Utf8.encode_nil, h₁, h₂, h₃, encodeChar_pad,
      List.cons_append, List.nil_append, decodeFrom] using hread
  | case3 a =>
    have ha : a.toNat < 256 := a.toNat_lt
    obtain ⟨n, hn⟩ : ∃ n, n = a.toNat * 16 := ⟨_, rfl⟩
    obtain ⟨s₁, h₁, hs₁⟩ := exists_symbol (show n / 64 < 64 by omega)
    obtain ⟨s₂, h₂, hs₂⟩ := exists_symbol (show n % 64 < 64 by omega)
    have hread := decodeTail_two hs₁ hs₂ (by omega) start
    rw [quad_of_one hn] at hread
    simpa only [encode, ← hn, Utf8.encode_cons, Utf8.encode_nil, h₁, h₂, encodeChar_pad,
      List.cons_append, List.nil_append, decodeFrom] using hread
  | case4 => rfl

/-- Every symbol is one of the sixty-four or the padding. -/
theorem exists_of_mem {bytes : Bytes} {s : Char} (h : s ∈ encode bytes) :
    (∃ n < 64, s = symbol n) ∨ s = '=' := by
  induction bytes using encode.induct with
  | case1 a b c rest ih =>
    have ha : a.toNat < 256 := a.toNat_lt
    have hb : b.toNat < 256 := b.toNat_lt
    have hc : c.toNat < 256 := c.toNat_lt
    simp only [encode, List.mem_cons] at h
    rcases h with rfl | rfl | rfl | rfl | h
    · exact .inl ⟨_, by omega, rfl⟩
    · exact .inl ⟨_, by omega, rfl⟩
    · exact .inl ⟨_, by omega, rfl⟩
    · exact .inl ⟨_, by omega, rfl⟩
    · exact ih h
  | case2 a b =>
    have ha : a.toNat < 256 := a.toNat_lt
    have hb : b.toNat < 256 := b.toNat_lt
    simp only [encode, List.mem_cons, List.not_mem_nil, or_false] at h
    rcases h with rfl | rfl | rfl | rfl
    · exact .inl ⟨_, by omega, rfl⟩
    · exact .inl ⟨_, by omega, rfl⟩
    · exact .inl ⟨_, by omega, rfl⟩
    · exact .inr rfl
  | case3 a =>
    have ha : a.toNat < 256 := a.toNat_lt
    simp only [encode, List.mem_cons, List.not_mem_nil, or_false] at h
    rcases h with rfl | rfl | rfl | rfl
    · exact .inl ⟨_, by omega, rfl⟩
    · exact .inl ⟨_, by omega, rfl⟩
    · exact .inr rfl
    · exact .inr rfl
  | case4 => cases h

/-- No symbol is a blank. -/
theorem not_isBlank_of_mem {bytes : Bytes} {c : Char} (h : c ∈ encode bytes) :
    Text.isBlank c = false := by
  have hsymbol : ∀ n < 64, Text.isBlank (symbol n) = false := by decide
  rcases exists_of_mem h with ⟨n, hn, rfl⟩ | rfl
  · exact hsymbol n hn
  · decide

/-- Symbols come in groups of four. -/
theorem length_encode_mod (bytes : Bytes) : (encode bytes).length % 4 = 0 := by
  induction bytes using encode.induct with
  | case1 a b c rest ih =>
    simp only [encode, List.length_cons]
    omega
  | case2 a b => simp [encode]
  | case3 a => simp [encode]
  | case4 => rfl

/-- Every symbol is a single byte. -/
theorem length_encode_encode (bytes : Bytes) :
    (Utf8.encode (encode bytes)).length = (encode bytes).length := by
  have hbyte : ∀ s ∈ encode bytes, (Utf8.encodeChar s).length = 1 := by
    intro s hs
    rcases exists_of_mem hs with ⟨n, hn, rfl⟩ | rfl
    · obtain ⟨byte, hbytes, -⟩ := exists_symbol hn
      rw [hbytes]
      rfl
    · rfl
  rw [Utf8.encode, List.length_flatMap, List.map_congr_left hbyte, List.map_const',
    List.sum_replicate_nat, Nat.mul_one]

/-- Bytes are read as they were written. -/
theorem decode_encode (bytes : Bytes) : decode (Utf8.encode (encode bytes)) = .ok bytes := by
  rw [decode]
  split
  next b hlast =>
    rw [if_neg (by simp [length_encode_encode, length_encode_mod]), decodeFrom_encode]
  next hnone =>
    rw [← decodeFrom_encode 0 bytes, List.getLast?_eq_none_iff.1 hnone]
    rfl

end Base64

end Scaffold

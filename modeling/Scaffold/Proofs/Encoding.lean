import Scaffold.Encoding.Digits
import Scaffold.Proofs.Occurrences
import Scaffold.Text.Utf8

/-!
# Encoding — what is written is read again as it was

Every character is written so that reading takes exactly its bytes and gives it back: the lead byte
announces as many bytes as follow (`announces_two`, `announces_three`, `announces_four`), and the
range that it announces for the first of them is kept, because characters are written no longer than
they have to be and surrogates are none. So reading undoes writing, also the reading that replaces
what is ill-formed (`toStringLossy_ofString`).

A query is read in parts between `&`, each part up to its first `=` and behind it, and what stands
there by undoing the escapes of its bytes; empty parts are no pairs (`decode`). Any text can be read
like this. Written texts hold none of the characters that divide (`not_mem_dividers_of_mem`), so
that pairs are read again as they were (`decode_encode`), also behind another query
(`decode_append`).
-/

set_option autoImplicit false

/-! ## Characters -/

namespace Scaffold.Utf8

theorem toNat_toUInt8 {n : Nat} (h : n < 256) : n.toUInt8.toNat = n := by
  simp [Nat.toUInt8, Nat.mod_eq_of_lt h]

/-- What a lead byte announces, by its number. -/
theorem announces_eq (lead : UInt8) : announces lead =
    if lead.toNat < 0x80 then some (0, 0, 0)
    else if lead.toNat < 0xC2 then none
    else if lead.toNat < 0xE0 then some (1, 0x80, 0xBF)
    else if lead.toNat = 0xE0 then some (2, 0xA0, 0xBF)
    else if lead.toNat = 0xED then some (2, 0x80, 0x9F)
    else if lead.toNat < 0xF0 then some (2, 0x80, 0xBF)
    else if lead.toNat = 0xF0 then some (3, 0x90, 0xBF)
    else if lead.toNat < 0xF4 then some (3, 0x80, 0xBF)
    else if lead.toNat = 0xF4 then some (3, 0x80, 0x8F)
    else none := by
  simp only [announces, UInt8.lt_iff_toNat_lt, beq_iff_eq, ← UInt8.toNat_inj]
  rfl

/-! ## What is announced -/

theorem toUInt8_le {n : Nat} {b : UInt8} (hn : n < 256) (h : n ≤ b.toNat) : n.toUInt8 ≤ b := by
  rw [UInt8.le_iff_toNat_le, toNat_toUInt8 hn]
  exact h

theorem le_toUInt8 {n : Nat} {b : UInt8} (hn : n < 256) (h : b.toNat ≤ n) : b ≤ n.toUInt8 := by
  rw [UInt8.le_iff_toNat_le, toNat_toUInt8 hn]
  exact h

/-- A lead byte announces how many bytes follow, and a range for the first of them that holds a
byte. -/
def AnnouncesAround (lead : UInt8) (following : Nat) (b : UInt8) : Prop :=
  ∃ low high, announces lead = some (following, low, high) ∧ low ≤ b ∧ b ≤ high

theorem announcesAround_of {lead low high : UInt8} {following n : Nat}
    (h : announces lead = some (following, low, high)) (hn : n < 256) (hlow : low.toNat ≤ n)
    (hhigh : n ≤ high.toNat) : AnnouncesAround lead following n.toUInt8 :=
  ⟨low, high, h, le_toUInt8 hn hlow, toUInt8_le hn hhigh⟩

/-- Six bits behind a lead byte. -/
theorem isContinuation_six {n : Nat} (h : n < 64) : isContinuation (0x80 + n).toUInt8 := by
  have hlow : (0x80 : UInt8) ≤ (0x80 + n).toUInt8 :=
    le_toUInt8 (by omega) (show 0x80 ≤ 0x80 + n by omega)
  have hhigh : (0x80 + n).toUInt8 ≤ 0xBF :=
    toUInt8_le (by omega) (show 0x80 + n ≤ 0xBF by omega)
  exact Bool.and_eq_true_iff.2 ⟨decide_eq_true hlow, decide_eq_true hhigh⟩

theorem payload_six {n : Nat} (h : n < 64) : payload (0x80 + n).toUInt8 = n :=
  (congrArg (· - 0x80) (toNat_toUInt8 (n := 0x80 + n) (by omega))).trans
    (Nat.add_sub_cancel_left (n := 0x80) (m := n))

theorem announces_two {n : Nat} (hmin : 0x80 ≤ n) (hmax : n < 0x800) :
    AnnouncesAround (0xC0 + n / 64).toUInt8 1 (0x80 + n % 64).toUInt8 := by
  have hlead : announces (0xC0 + n / 64).toUInt8 = some (1, 0x80, 0xBF) := by
    rw [announces_eq, toNat_toUInt8 (by omega), if_neg (by omega), if_neg (by omega),
      if_pos (by omega)]
  exact announcesAround_of hlead (by omega) (show 0x80 ≤ _ by omega) (show _ ≤ 0xBF by omega)

theorem announces_three {n : Nat} (hmin : 0x800 ≤ n) (hmax : n < 0x10000)
    (hvalid : n < 0xD800 ∨ 0xDFFF < n) :
    AnnouncesAround (0xE0 + n / 4096).toUInt8 2 (0x80 + n / 64 % 64).toUInt8 := by
  have hlead := announces_eq (0xE0 + n / 4096).toUInt8
  rw [toNat_toUInt8 (by omega), if_neg (by omega), if_neg (by omega), if_neg (by omega)] at hlead
  by_cases hfirst : 0xE0 + n / 4096 = 0xE0
  · rw [if_pos hfirst] at hlead
    exact announcesAround_of hlead (by omega) (show 0xA0 ≤ _ by omega) (show _ ≤ 0xBF by omega)
  by_cases hsurrogates : 0xE0 + n / 4096 = 0xED
  · rw [if_neg hfirst, if_pos hsurrogates] at hlead
    exact announcesAround_of hlead (by omega) (show 0x80 ≤ _ by omega) (show _ ≤ 0x9F by omega)
  · rw [if_neg hfirst, if_neg hsurrogates, if_pos (by omega)] at hlead
    exact announcesAround_of hlead (by omega) (show 0x80 ≤ _ by omega) (show _ ≤ 0xBF by omega)

theorem announces_four {n : Nat} (hmin : 0x10000 ≤ n) (hmax : n < 0x110000) :
    AnnouncesAround (0xF0 + n / 262144).toUInt8 3 (0x80 + n / 4096 % 64).toUInt8 := by
  have hlead := announces_eq (0xF0 + n / 262144).toUInt8
  rw [toNat_toUInt8 (by omega), if_neg (by omega), if_neg (by omega), if_neg (by omega),
    if_neg (by omega), if_neg (by omega), if_neg (by omega)] at hlead
  by_cases hfirst : 0xF0 + n / 262144 = 0xF0
  · rw [if_pos hfirst] at hlead
    exact announcesAround_of hlead (by omega) (show 0x90 ≤ _ by omega) (show _ ≤ 0xBF by omega)
  by_cases hmiddle : 0xF0 + n / 262144 < 0xF4
  · rw [if_neg hfirst, if_pos hmiddle] at hlead
    exact announcesAround_of hlead (by omega) (show 0x80 ≤ _ by omega) (show _ ≤ 0xBF by omega)
  · rw [if_neg hfirst, if_neg hmiddle, if_pos (by omega)] at hlead
    exact announcesAround_of hlead (by omega) (show 0x80 ≤ _ by omega) (show _ ≤ 0x8F by omega)

/-! ## Reading one character -/

theorem step_two {lead b : UInt8} (rest : Bytes) (h : AnnouncesAround lead 1 b) :
    step lead (b :: rest) = (some (Char.ofNat ((lead.toNat - 0xC0) * 64 + payload b)), 1) := by
  obtain ⟨low, high, h, hlow, hhigh⟩ := h
  have hin : (b < low || high < b) = false := by simp [hlow, hhigh, UInt8.not_lt]
  simp [step, h, hin]

theorem step_three {lead b c : UInt8} (rest : Bytes) (h : AnnouncesAround lead 2 b)
    (hc : isContinuation c) :
    step lead (b :: c :: rest) =
      (some (Char.ofNat ((lead.toNat - 0xE0) * 4096 + payload b * 64 + payload c)), 2) := by
  obtain ⟨low, high, h, hlow, hhigh⟩ := h
  have hin : (b < low || high < b) = false := by simp [hlow, hhigh, UInt8.not_lt]
  simp [step, h, hin, hc]

theorem step_four {lead b c d : UInt8} (rest : Bytes) (h : AnnouncesAround lead 3 b)
    (hc : isContinuation c) (hd : isContinuation d) :
    step lead (b :: c :: d :: rest) =
      (some (Char.ofNat ((lead.toNat - 0xF0) * 262144 + payload b * 4096 + payload c * 64
        + payload d)), 3) := by
  obtain ⟨low, high, h, hlow, hhigh⟩ := h
  have hin : (b < low || high < b) = false := by simp [hlow, hhigh, UInt8.not_lt]
  simp [step, h, hin, hc, hd]

/-- Reading takes exactly the bytes that a character was written as, and gives that character. -/
theorem step_encodeChar (c : Char) (rest : Bytes) :
    ∃ lead behind, encodeChar c = lead :: behind ∧
      step lead (behind ++ rest) = (some c, behind.length) := by
  have hvalid : c.toNat < 0xD800 ∨ 0xDFFF < c.toNat ∧ c.toNat < 0x110000 := c.valid
  have hchar : Char.ofNat c.toNat = c := Char.ofNat_toNat c
  rw [encodeChar]
  generalize c.toNat = n at hvalid hchar ⊢
  subst hchar
  -- one case for each number of bytes; in each the number is put together again from the bits that
  -- the bytes hold
  by_cases hone : n < 0x80
  · have hlead : announces n.toUInt8 = some (0, 0, 0) := by
      rw [announces_eq, toNat_toUInt8 (by omega), if_pos hone]
    refine ⟨_, [], if_pos hone, ?_⟩
    rw [step, hlead, toNat_toUInt8 (by omega)]
    rfl
  by_cases htwo : n < 0x800
  · refine ⟨_, _, (if_neg hone).trans (if_pos htwo), ?_⟩
    have hbyte : n % 64 < 64 := by omega
    rw [List.cons_append, step_two _ (announces_two (by omega) htwo), payload_six hbyte,
      toNat_toUInt8 (by omega)]
    have hn : (0xC0 + n / 64 - 0xC0) * 64 + n % 64 = n := by omega
    rw [hn]
    rfl
  by_cases hthree : n < 0x10000
  · have hlead := announces_three (n := n) (by omega) hthree (hvalid.imp_right And.left)
    refine ⟨_, _, ((if_neg hone).trans (if_neg htwo)).trans (if_pos hthree), ?_⟩
    rw [List.cons_append, List.cons_append, step_three _ hlead (isContinuation_six (by omega)),
      payload_six (by omega), payload_six (by omega), toNat_toUInt8 (by omega)]
    have hn : (0xE0 + n / 4096 - 0xE0) * 4096 + n / 64 % 64 * 64 + n % 64 = n := by omega
    rw [hn]
    rfl
  · have hlead := announces_four (n := n) (by omega) (by omega)
    refine ⟨_, _, ((if_neg hone).trans (if_neg htwo)).trans (if_neg hthree), ?_⟩
    rw [List.cons_append, List.cons_append, List.cons_append,
      step_four _ hlead (isContinuation_six (by omega)) (isContinuation_six (by omega)),
      payload_six (by omega), payload_six (by omega), payload_six (by omega),
      toNat_toUInt8 (by omega)]
    have hn : (0xF0 + n / 262144 - 0xF0) * 262144 + n / 4096 % 64 * 4096 + n / 64 % 64 * 64
        + n % 64 = n := by omega
    rw [hn]
    rfl

/-- Bytes that were written as text are read as that text. -/
theorem decodeLossy_encode (text : List Char) : decodeLossy (encode text) = text := by
  induction text with
  | nil => rw [encode_nil, decodeLossy]
  | cons c text ih =>
    obtain ⟨lead, behind, hchar, hstep⟩ := step_encodeChar c (encode text)
    rw [encode_cons, hchar, List.cons_append, decodeLossy]
    split
    next c' taken htaken =>
      obtain ⟨hc, rfl⟩ := Prod.mk.inj (hstep.symm.trans htaken)
      obtain rfl := Option.some.inj hc
      rw [List.drop_left, ih]
    next taken htaken =>
      rw [hstep] at htaken
      cases htaken

theorem toStringLossy_ofString (text : String) : toStringLossy (ofString text) = text := by
  rw [toStringLossy, ofString, decodeLossy_encode, String.ofList_toList]

end Scaffold.Utf8

namespace Scaffold.FormUrl

/-! ## Reading queries -/

/-- The byte that a byte of a query stands for by itself: `+` stands for a space. -/
def literal (b : UInt8) : UInt8 :=
  if b = 43 then 32 else b

/-- The byte that two digits spell. -/
def spelled? (high low : UInt8) : Option UInt8 := do
  return ((← Hex.value? high) * 16 + (← Hex.value? low)).toUInt8

/-- The bytes that those of a query stand for. A `%` without two digits behind it stands for
itself. -/
def decodeBytes : Bytes → Bytes
  | [] => []
  | b :: high :: low :: rest =>
    match if b = 37 then spelled? high low else none with
    | some byte => byte :: decodeBytes rest
    | none => literal b :: decodeBytes (high :: low :: rest)
  | b :: rest => literal b :: decodeBytes rest

/-- The text that a part of a query stands for. -/
def decodeText (text : List Char) : String :=
  Utf8.toStringLossy (decodeBytes (Utf8.encode text))

/-- The pair that a part of a query stands for; in a part without `=` nothing stands behind it. -/
def decodePair (part : List Char) : String × String :=
  (decodeText (part.takeWhile (· != '=')), decodeText ((part.dropWhile (· != '=')).drop 1))

/-- The pairs of a query. -/
def decode (query : List Char) : List (String × String) :=
  ((Occurrences.split ['&'] query).filter (!·.isEmpty)).map decodePair

/-! ## Texts in queries -/

/-- Bytes spell a byte: it is a byte that stands for it, or `%` and two digits. -/
def spells (b : UInt8) : Bytes → Bool
  | [c] => c != 37 && literal c == b
  | [escape, high, low] => escape == 37 && spelled? high low == some b
  | _ => false

theorem decodeBytes_cons {b : UInt8} (h : b ≠ 37) (rest : Bytes) :
    decodeBytes (b :: rest) = literal b :: decodeBytes rest := by
  match rest with
  | [] | [_] => rfl
  | _ :: _ :: _ => rw [decodeBytes, if_neg h]

/-- What spells a byte is read as that byte, whatever stands behind it. -/
theorem decodeBytes_of_spells {b : UInt8} {bytes : Bytes} (h : spells b bytes = true)
    (rest : Bytes) : decodeBytes (bytes ++ rest) = b :: decodeBytes rest := by
  unfold spells at h
  split at h
  next c =>
    obtain ⟨hc, hb⟩ := Bool.and_eq_true_iff.1 h
    rw [List.singleton_append, decodeBytes_cons (bne_iff_ne.1 hc), beq_iff_eq.1 hb]
  next escape high low =>
    obtain ⟨hescape, hb⟩ := Bool.and_eq_true_iff.1 h
    obtain rfl : escape = 37 := beq_iff_eq.1 hescape
    rw [List.cons_append, List.cons_append, List.singleton_append, decodeBytes, if_pos rfl,
      beq_iff_eq.1 hb]
  next => cases h

/-- The characters that divide an address or a query. -/
def dividers : List Char := ['#', '?', '&', '=']

/-- A byte is spelled as it is written, and without any of the characters that divide. -/
theorem spells_encodeByte (b : UInt8) :
    spells b (Utf8.encode (encodeByte b)) = true ∧ ∀ c ∈ encodeByte b, c ∉ dividers := by
  have hall : ∀ n < 256, spells n.toUInt8 (Utf8.encode (encodeByte n.toUInt8)) = true ∧
      ((encodeByte n.toUInt8).all fun c => !dividers.contains c) = true := by
    decide +kernel
  have hb : b.toNat.toUInt8 = b := UInt8.ofNat_toNat
  obtain ⟨hspells, hfree⟩ := hall b.toNat b.toNat_lt
  rw [hb] at hspells hfree
  refine ⟨hspells, fun c hc hdivides => ?_⟩
  have hnot := List.all_eq_true.1 hfree c hc
  rw [List.contains_iff_mem.2 hdivides] at hnot
  cases hnot

theorem decodeText_encodeText (text : String) : decodeText (encodeText text) = text := by
  have hbytes (bytes : Bytes) :
      decodeBytes (Utf8.encode (bytes.flatMap encodeByte)) = bytes := by
    induction bytes with
    | nil => rfl
    | cons b bytes ih =>
      rw [List.flatMap_cons, Utf8.encode_append, decodeBytes_of_spells (spells_encodeByte b).1, ih]
  rw [decodeText, encodeText, hbytes, Utf8.toStringLossy_ofString]

/-- A written text holds none of the characters that divide. -/
theorem not_mem_dividers_of_mem {text : String} {c : Char} (h : c ∈ encodeText text) :
    c ∉ dividers := by
  obtain ⟨b, -, hc⟩ := List.mem_flatMap.1 h
  exact (spells_encodeByte b).2 c hc

/-! ## Pairs in queries -/

/-- The name of a pair ends in front of the first `=`. -/
theorem decodePair_encodePair (pair : String × String) : decodePair (encodePair pair) = pair := by
  have hname : ∀ c ∈ encodeText pair.1, (c != '=') = true := by
    intro c hc
    refine bne_iff_ne.2 ?_
    rintro rfl
    exact not_mem_dividers_of_mem hc (by decide)
  rw [decodePair, encodePair, List.takeWhile_append_of_pos hname,
    List.dropWhile_append_of_pos hname]
  simp [decodeText_encodeText]

/-- A written pair holds neither `&` nor `#`. -/
theorem not_mem_encodePair (pair : String × String) :
    '&' ∉ encodePair pair ∧ '#' ∉ encodePair pair := by
  have hnot (c : Char) (hc : c ∈ dividers) (hne : c ≠ '=') : c ∉ encodePair pair := by
    intro hmem
    rcases List.mem_append.1 hmem with hmem | hmem
    · exact not_mem_dividers_of_mem hmem hc
    · exact not_mem_dividers_of_mem ((List.mem_cons.1 hmem).resolve_left hne) hc
  exact ⟨hnot '&' (by decide) (by decide), hnot '#' (by decide) (by decide)⟩

/-- Behind a query, the pairs of another one follow. -/
theorem decode_append (query behind : List Char) :
    decode (query ++ '&' :: behind) = decode query ++ decode behind := by
  rw [decode, Occurrences.split_append_cons, List.filter_append, List.map_append]
  rfl

theorem decode_nil : decode [] = [] := by
  have hsplit : Occurrences.split ['&'] ([] : List Char) = [[]] :=
    Occurrences.split_of_cut_none rfl
  rw [decode, hsplit]
  rfl

/-- A single part is a single pair. -/
theorem decode_encodePair (pair : String × String) : decode (encodePair pair) = [pair] := by
  have hsplit : Occurrences.split ['&'] (encodePair pair) = [encodePair pair] := by
    refine Occurrences.split_of_cut_none
      ((Occurrences.cut_eq_none_iff (List.cons_ne_nil _ _)).2 fun hinfix => ?_)
    exact (not_mem_encodePair pair).1 ((List.singleton_infix_iff _ _).1 hinfix)
  have hne : (encodePair pair).isEmpty = false := by
    rw [encodePair, List.isEmpty_eq_false_iff]
    exact List.append_ne_nil_of_right_ne_nil _ (List.cons_ne_nil _ _)
  rw [decode, hsplit, List.filter_singleton, hne]
  exact congrArg ([·]) (decodePair_encodePair pair)

/-- Pairs are read as they were written. -/
theorem decode_encode (pairs : List (String × String)) : decode (encode pairs).toList = pairs := by
  rw [encode, String.toList_ofList]
  induction pairs with
  | nil => exact decode_nil
  | cons pair pairs ih =>
    cases pairs with
    | nil => simpa using decode_encodePair pair
    | cons next pairs =>
      rw [List.map_cons, List.map_cons, List.intercalate_cons_cons, List.append_assoc,
        List.singleton_append, decode_append, decode_encodePair]
      exact congrArg (pair :: ·) ih

/-- Written pairs hold no `#`. -/
theorem not_mem_encode (pairs : List (String × String)) : '#' ∉ (encode pairs).toList := by
  rw [encode, String.toList_ofList]
  induction pairs with
  | nil => simp
  | cons pair pairs ih =>
    cases pairs with
    | nil => simpa using (not_mem_encodePair pair).2
    | cons next pairs =>
      rw [List.map_cons, List.map_cons, List.intercalate_cons_cons]
      simp only [List.mem_append, List.mem_singleton, not_or]
      exact ⟨⟨(not_mem_encodePair pair).2, by decide⟩, ih⟩

end Scaffold.FormUrl

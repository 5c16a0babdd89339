import Mathlib.Data.List.Forall2
import Scaffold.Proofs.Json.Reading

/-!
# Printing — what is printed is read as it was

A reading recovers something from a value if it takes the compact text of the value for it, in front
of whatever can stand behind a value (`Recovers`). There is one rule for each way to build a reading
from others: a list is recovered from its items (`recovers_list`), a map from its members
(`recovers_map`), and a record from its fields (`recovers_record`), each of them within one level of
collections more. A generic value that can be read at all and holds no floating point number is
recovered as it is (`recovers_value`).
-/

set_option autoImplicit false

/-!
## Taking — what a reading takes from the front of a text

A reading takes something from a text if it goes through and leaves the rest (`Takes`); where in the
text it stood does not matter. What is put together from readings takes what they take one behind
the other (`Takes.bind`), so that it can be followed through a text character by character.

In this way texts and numbers are read as they were printed: the escaped characters of a text up to
the quotation mark behind them (`takes_text`), and the digits of an integer of 64 bits in front of
whatever cannot continue a number (`takes_number`).
-/

namespace Scaffold.Json

/-! ### Cursors -/

namespace Cursor

@[simp] theorem rest_next (c : Cursor) : c.next.rest = c.rest.tail := by
  obtain ⟨rest, line, column⟩ := c
  cases rest with
  | nil => rfl
  | cons x rest =>
    dsimp only [next]
    split <;> rfl

theorem rest_skipWhile (p : Char → Bool) {fuel : Nat} {c : Cursor} (h : c.rest.length ≤ fuel) :
    (c.skipWhile p fuel).rest = c.rest.dropWhile p := by
  induction fuel generalizing c with
  | zero =>
    rw [skipWhile, List.length_eq_zero_iff.1 (Nat.le_zero.1 h)]
    rfl
  | succ fuel ih =>
    obtain ⟨rest, line, column⟩ := c
    cases rest with
    | nil => rfl
    | cons x rest =>
      rw [skipWhile]
      by_cases hx : p x = true
      · have hnext : (Cursor.next ⟨x :: rest, line, column⟩).rest.length ≤ fuel := by
          simpa using h
        simp only [hx, if_true, ih hnext, rest_next, List.tail_cons, List.dropWhile_cons_of_pos]
      · simp [hx]

end Cursor

namespace Reading

variable {α β : Type} {depth : Nat} {a : α} {b : β} {text mid rest : List Char}

/-- In front of a text, with so many collections that may still be opened, a reading gives `a` and
leaves the rest. -/
def Takes (r : Reading α) (depth : Nat) (text : List Char) (a : α) (rest : List Char) : Prop :=
  ∀ c : Cursor, c.rest = text → ∃ c', r depth c = .ok (a, c') ∧ c'.rest = rest

theorem takes_pure (a : α) (text : List Char) : Takes (pure a) depth text a text :=
  fun c h => ⟨c, rfl, h⟩

theorem Takes.bind {x : Reading α} {f : α → Reading β} (hx : Takes x depth text a mid)
    (hf : Takes (f a) depth mid b rest) : Takes (x >>= f) depth text b rest := by
  intro c hc
  obtain ⟨c₁, hfirst, hmid⟩ := hx c hc
  obtain ⟨c₂, hsecond, hrest⟩ := hf c₁ hmid
  refine ⟨c₂, ?_, hrest⟩
  change (x depth c >>= fun r => f r.1 depth r.2) = _
  rw [hfirst]
  exact hsecond

/-! ### Characters -/

theorem takes_peek (text : List Char) : Takes peek depth text text.head? text := by
  rintro c rfl
  exact ⟨c, rfl, rfl⟩

theorem takes_skip (text : List Char) : Takes skip depth text () text.tail := by
  rintro c rfl
  exact ⟨c.next, rfl, c.rest_next⟩

theorem takes_take (x : Char) (text : List Char) : Takes take depth (x :: text) (some x) text :=
  (takes_peek _).bind ((takes_skip _).bind (takes_pure _ _))

/-- In front of a part there is nothing to pass. -/
theorem takes_peekPart {x : Char} (hx : Cursor.isSpace x = false) (text : List Char) :
    Takes peekPart depth (x :: text) (some x) (x :: text) := by
  intro c hc
  have hskip : c.skipSpace.rest = x :: text := by
    rw [Cursor.skipSpace, Cursor.rest_skipWhile _ (Nat.le_refl _), hc]
    simp [hx]
  refine ⟨c.skipSpace, ?_, hskip⟩
  change Except.ok (c.skipSpace.rest.head?, c.skipSpace) = _
  rw [hskip]
  rfl

theorem takes_word (xs text : List Char) : Takes (word xs) depth (xs ++ text) () text := by
  induction xs with
  | nil => exact takes_pure () text
  | cons x xs ih =>
    refine (takes_take x (xs ++ text)).bind ?_
    simpa using ih

/-- What looks at the cursor learns nothing of it but the text behind it. -/
theorem takes_get {f : Cursor → Reading α}
    (h : ∀ c : Cursor, c.rest = text → Takes (f c) depth text a rest) :
    Takes (get >>= f) depth text a rest :=
  fun c hc => h c hc c hc

/-! ### Texts -/

/-- The two last of four hexadecimal digits are those of a control character. -/
theorem takes_unit {high low : Nat} (hhigh : high < 2) (hlow : low < 16) (text : List Char) :
    Takes unit depth ('0' :: '0' :: hexDigit high :: hexDigit low :: text) (high * 16 + low)
      text := by
  have hall : ∀ high < 2, ∀ low < 16,
      ¬ (Utf8.encode ['0', '0', hexDigit high, hexDigit low]).length < 4 ∧
        ['0', '0', hexDigit high, hexDigit low].foldlM
          (fun n x => (hexValue? x).map (n * 16 + ·)) 0 = some (high * 16 + low) := by
    decide
  obtain ⟨hlength, hvalue⟩ := hall high hhigh low hlow
  intro c hc
  refine ⟨c.next.next.next.next, ?_, by simp [hc]⟩
  have htake : c.rest.take 4 = ['0', '0', hexDigit high, hexDigit low] := by
    rw [hc]
    rfl
  change (if (Utf8.encode (c.rest.take 4)).length < 4 then _ else _ : Reading Nat) depth c = _
  rw [htake, if_neg hlength, hvalue]
  rfl

/-- A character is escaped, and then the escape is read as the character; or it stands as it is. -/
theorem escapeChar_cases (depth : Nat) (c : Char) :
    (∃ behind, escapeChar c = '\\' :: behind ∧
      ∀ text, Takes (escape true) depth (behind ++ text) c text) ∨
    (escapeChar c = [c] ∧ c ≠ '"' ∧ c ≠ '\\' ∧ 32 ≤ c.toNat) := by
  unfold escapeChar
  -- seven characters have an escape of their own
  iterate 7
    split
    next hc =>
      subst hc
      exact .inl ⟨_, rfl, fun text => (takes_take _ _).bind (takes_pure _ _)⟩
  split
  next hcontrol =>
    have hvalue : c.toNat / 16 * 16 + c.toNat % 16 = c.toNat := by omega
    have hhigh : c.toNat / 16 < 2 := by omega
    refine .inl ⟨_, rfl, fun text => (takes_take _ _).bind ?_⟩
    refine (takes_unit hhigh (Nat.mod_lt _ (by omega)) text).bind ?_
    have hlow : ¬ (decide (0xDC00 ≤ c.toNat) && decide (c.toNat ≤ 0xDFFF)) = true := by
      simp only [Bool.and_eq_true, decide_eq_true_eq]
      omega
    have hplain : (decide (c.toNat < 0xD800) || decide (0xDBFF < c.toNat)) = true := by
      simp only [Bool.or_eq_true, decide_eq_true_eq]
      omega
    rw [hvalue, if_neg (by simp), if_neg hlow, if_pos hplain, Char.ofNat_toNat]
    exact takes_pure c text
  next hquote hbackslash _ _ _ _ _ hcontrol =>
    exact .inr ⟨rfl, hquote, hbackslash, Nat.le_of_not_lt hcontrol⟩

/-- Escaped characters are read up to the quotation mark, behind those that were read before. -/
theorem takes_characters (cs : List Char) {fuel : Nat} (h : cs.length < fuel)
    (seen rest : List Char) :
    Takes (characters true fuel seen) depth (cs.flatMap escapeChar ++ '"' :: rest)
      (seen.reverse ++ cs) rest := by
  induction cs generalizing fuel seen with
  | nil =>
    obtain ⟨fuel, rfl⟩ := Nat.exists_eq_add_one_of_ne_zero (Nat.ne_zero_of_lt h)
    rw [List.append_nil]
    exact (takes_peek _).bind ((takes_skip _).bind (takes_pure _ _))
  | cons c cs ih =>
    obtain ⟨fuel, rfl⟩ := Nat.exists_eq_add_one_of_ne_zero (Nat.ne_zero_of_lt h)
    have hrest := ih (Nat.lt_of_succ_lt_succ h) (c :: seen)
    rw [List.reverse_cons, List.append_assoc, List.singleton_append] at hrest
    rw [List.flatMap_cons, List.append_assoc]
    rcases escapeChar_cases depth c with ⟨behind, hchar, hescape⟩ | ⟨hchar, hquote, hslash, hlow⟩
    · rw [hchar]
      exact (takes_peek _).bind ((takes_skip _).bind ((hescape _).bind hrest))
    · rw [hchar]
      refine (takes_peek _).bind ?_
      dsimp only [List.singleton_append, List.head?_cons]
      split
      next heq => cases heq
      next heq => exact absurd (Option.some.inj heq) hquote
      next heq => exact absurd (Option.some.inj heq) hslash
      next x _ _ heq =>
        obtain rfl : c = x := Option.some.inj heq
        rw [if_neg (Nat.not_lt.2 hlow)]
        exact (takes_skip _).bind hrest

theorem escapeChar_ne_nil (c : Char) : escapeChar c ≠ [] := by
  rcases escapeChar_cases 0 c with ⟨behind, hchar, -⟩ | ⟨hchar, -⟩ <;> simp [hchar]

/-- What is printed of the parts of something is no shorter than there are parts. -/
theorem length_le_length_flatMap {f : α → List Char} (h : ∀ a, f a ≠ []) (as : List α) :
    as.length ≤ (as.flatMap f).length := by
  induction as with
  | nil => exact Nat.le_refl 0
  | cons a as ih =>
    have hone : 0 < (f a).length := List.length_pos_iff.2 (h a)
    rw [List.flatMap_cons, List.length_append, List.length_cons]
    omega

/-- A text is read as it was printed, behind its opening quotation mark. -/
theorem takes_text (s : String) (rest : List Char) :
    Takes Reading.text depth (s.toList.flatMap escapeChar ++ '"' :: rest) s rest := by
  have hlength := length_le_length_flatMap escapeChar_ne_nil s.toList
  have hfuel : s.toList.length < (s.toList.flatMap escapeChar ++ '"' :: rest).length + 1 := by
    rw [List.length_append, List.length_cons]
    omega
  refine takes_get fun c hc => ?_
  rw [hc]
  refine (takes_characters s.toList hfuel [] rest).bind ?_
  rw [List.reverse_nil, List.nil_append, String.ofList_toList]
  exact takes_pure s rest

/-! ### Numbers -/

/-- What can stand behind a value: nothing, or what divides a collection or ends it. -/
def CanFollow (rest : List Char) : Prop :=
  ∀ x, rest.head? = some x → x = ',' ∨ x = ']' ∨ x = '\x7d'

theorem canFollow_nil : CanFollow [] := nofun

theorem canFollow_cons {x : Char} (h : x = ',' ∨ x = ']' ∨ x = '\x7d') (text : List Char) :
    CanFollow (x :: text) := by
  rintro y hy
  exact Option.some.inj hy ▸ h

/-- No number goes on with what can stand behind a value. -/
theorem CanFollow.not_number (h : CanFollow rest) {x : Char} (hx : rest.head? = some x) :
    x.isDigit = false ∧ x ≠ '.' ∧ x ≠ 'e' ∧ x ≠ 'E' := by
  rcases h x hx with rfl | rfl | rfl <;> decide

/-- More digits make no smaller number. -/
theorem le_ofDigitChars (ds : List Char) (n : Nat) : n ≤ Nat.ofDigitChars 10 ds n := by
  induction ds generalizing n with
  | nil => exact Nat.le_refl n
  | cons d ds ih =>
    rw [Nat.ofDigitChars_cons]
    exact Nat.le_trans (by omega) (ih _)

/-- Digits are taken as long as the number that they make up has 64 bits. -/
theorem takes_fill {ds : List Char} (hdigits : ∀ d ∈ ds, d.isDigit = true) {fuel n : Nat}
    (hfuel : ds.length < fuel) (hvalue : Nat.ofDigitChars 10 ds n < Nat.pow 2 64)
    (hrest : CanFollow rest) (count : Nat) :
    Takes (fill fuel n count) depth (ds ++ rest)
      (Nat.ofDigitChars 10 ds n, count + ds.length, false) rest := by
  induction ds generalizing fuel n count with
  | nil =>
    obtain ⟨fuel, rfl⟩ := Nat.exists_eq_add_one_of_ne_zero (Nat.ne_zero_of_lt hfuel)
    refine (takes_peek rest).bind ?_
    split
    next x hx =>
      rw [if_neg (by simp [(hrest.not_number hx).1])]
      exact takes_pure _ rest
    next => exact takes_pure _ rest
  | cons d ds ih =>
    obtain ⟨fuel, rfl⟩ := Nat.exists_eq_add_one_of_ne_zero (Nat.ne_zero_of_lt hfuel)
    have hgrown : n * 10 + (d.toNat - 48) = 10 * n + (d.toNat - '0'.toNat) := by
      rw [Nat.mul_comm]
      rfl
    rw [Nat.ofDigitChars_cons, ← hgrown] at hvalue ⊢
    refine (takes_peek _).bind ?_
    change Takes (if d.isDigit = true then _ else _) _ _ _ _
    rw [if_pos (hdigits d List.mem_cons_self),
      if_neg (Nat.not_le.2 (Nat.lt_of_le_of_lt (le_ofDigitChars ds _) hvalue))]
    refine (takes_skip _).bind ?_
    have hnext := ih (fun d hd => hdigits d (List.mem_cons_of_mem _ hd))
      (Nat.lt_of_succ_lt_succ hfuel) hvalue (count + 1)
    rwa [Nat.add_assoc, Nat.add_comm 1, ← List.length_cons] at hnext

/-- The digits of a number other than zero begin with another digit than zero. -/
theorem head?_toDigits_ne {n : Nat} (h : n ≠ 0) : (Nat.toDigits 10 n).head? ≠ some '0' := by
  induction n using Nat.strongRecOn with
  | _ n ih =>
    by_cases hlt : n < 10
    · rw [Nat.toDigits_of_lt_base hlt]
      have hall : ∀ n < 10, n ≠ 0 → [n.digitChar].head? ≠ some '0' := by decide
      exact hall n hlt h
    · rw [Nat.toDigits_of_base_le (by decide) (by omega), List.head?_append,
        List.head?_eq_some_head Nat.toDigits_ne_nil, Option.some_or,
        ← List.head?_eq_some_head Nat.toDigits_ne_nil]
      exact ih (n / 10) (by omega) (by omega)

/-- Digits behind which nothing of a number follows are an integer, if it has 64 bits. -/
theorem takes_whole {negative : Bool} {n : Nat}
    (hsign : negative = true → 0 < n ∧ n ≤ Nat.pow 2 63) (hrest : CanFollow rest) :
    Takes (whole negative n) depth rest (.int (if negative then -n else n)) rest := by
  refine (takes_peek rest).bind ?_
  split
  next hx => exact absurd rfl (hrest.not_number hx).2.1
  next hx => exact absurd rfl (hrest.not_number hx).2.2.1
  next hx => exact absurd rfl (hrest.not_number hx).2.2.2
  next =>
    cases negative with
    | false => exact takes_pure _ rest
    | true =>
      rw [if_neg (by decide), if_pos (by simpa using hsign rfl)]
      exact takes_pure _ rest

/-- The digits of an integer of 64 bits are read as it, behind its sign. -/
theorem takes_number {negative : Bool} {n : Nat} (hn : n < Nat.pow 2 64)
    (hsign : negative = true → 0 < n ∧ n ≤ Nat.pow 2 63) (hrest : CanFollow rest) :
    Takes (number negative) depth (Nat.toDigits 10 n ++ rest)
      (.int (if negative then -n else n)) rest := by
  by_cases hzero : n = 0
  · subst hzero
    refine (takes_take '0' rest).bind ((takes_peek rest).bind ?_)
    split
    next x hx =>
      rw [if_neg (by simp [(hrest.not_number hx).1])]
      exact takes_whole hsign hrest
    next => exact takes_whole hsign hrest
  · have hdigits : ∀ d ∈ Nat.toDigits 10 n, d.isDigit = true :=
      fun d => Nat.isDigit_of_mem_toDigits (by decide) (Nat.le_refl 10)
    have hvalue : Nat.ofDigitChars 10 (Nat.toDigits 10 n) 0 = n := Nat.ofDigitChars_ten_toDigits
    have hfirst := head?_toDigits_ne hzero
    cases hall : Nat.toDigits 10 n with
    | nil => exact absurd hall Nat.toDigits_ne_nil
    | cons d ds =>
      rw [hall] at hdigits hvalue hfirst
      have hd : d.isDigit = true := hdigits d List.mem_cons_self
      have hvalue : Nat.ofDigitChars 10 ds (d.toNat - 48) = n := by
        rwa [Nat.ofDigitChars_cons, Nat.mul_zero, Nat.zero_add] at hvalue
      refine (takes_take d _).bind ?_
      split
      next heq => cases heq
      next heq => exact absurd heq hfirst
      next x _ heq =>
        obtain rfl : d = x := Option.some.inj heq
        rw [if_neg (by simp [hd])]
        refine takes_get fun c hc => ?_
        have hleft : c.rest = ds ++ rest := hc
        have hfuel : ds.length < c.rest.length + 1 := by
          rw [hleft, List.length_append]
          omega
        rw [← hvalue] at hn
        have hfill : Takes _ depth _ _ rest :=
          takes_fill (fun d hd => hdigits d (List.mem_cons_of_mem _ hd)) hfuel hn hrest 0
        rw [hvalue] at hfill
        exact hfill.bind (takes_whole hsign hrest)

end Reading

end Scaffold.Json

/-! ## Recovering -/

namespace Scaffold.Json

namespace Reading

variable {α β σ : Type} {depth : Nat} {r : Reading α} {j : Json} {a : α}

/-! ### Values and what stands behind them -/

/-- The text of a value begins neither with white space nor with the end of a list. -/
def Begins (j : Json) : Prop :=
  ∃ x text, j.printChars = x :: text ∧ Cursor.isSpace x = false ∧ x ≠ ']'

/-- Whatever can stand behind a value, a reading takes the text of the value for `a`. -/
structure Recovers (r : Reading α) (depth : Nat) (j : Json) (a : α) : Prop where
  begins : Begins j
  takes : ∀ rest, CanFollow rest → Takes r depth (j.printChars ++ rest) a rest

theorem begins_string (s : String) : Begins (.string s) :=
  ⟨'"', _, rfl, by decide, by decide⟩

theorem begins_array (items : List Json) : Begins (.array items) :=
  ⟨'[', _, rfl, by decide, by decide⟩

theorem begins_object (members : List (String × Json)) : Begins (.object members) :=
  ⟨'\x7b', _, rfl, by decide, by decide⟩

theorem takes_part {x : Char} (hx : Cursor.isSpace x = false) (text : List Char) :
    Takes part depth (x :: text) x (x :: text) :=
  (takes_peekPart hx text).bind (takes_pure _ _)

theorem Takes.opened {text rest : List Char} (h : Takes r depth text a rest) (x : Char) :
    Takes (opened r) (depth + 1) (x :: text) a rest := by
  intro c hc
  exact h c.next (by simp [hc])

theorem takes_bound (text : List Char) : Takes bound depth text (text.length + 1) text :=
  takes_get fun _ hc => hc ▸ takes_pure _ _

theorem takes_memberName (s : String) (rest : List Char) :
    Takes memberName depth (printString s ++ rest) s rest := by
  refine (takes_skip _).bind ?_
  have htext : (printString s ++ rest).tail = s.toList.flatMap escapeChar ++ '"' :: rest := by
    simp [printString]
  rw [htext]
  exact takes_text s rest

/-! ### Lists -/

/-- The items behind another one, each behind a comma. -/
def printFollowing (js : List Json) : List Char :=
  js.flatMap fun j => ',' :: j.printChars

theorem printItems_cons (j : Json) (js : List Json) :
    printItems (j :: js) = j.printChars ++ printFollowing js := by
  induction js generalizing j with
  | nil => simp [printItems, printFollowing]
  | cons k js ih => simp [printItems, printFollowing, ih k]

theorem canFollow_printFollowing (js : List Json) (rest : List Char) :
    CanFollow (printFollowing js ++ ']' :: rest) := by
  cases js with
  | nil => exact canFollow_cons (.inr (.inl rfl)) rest
  | cons j js => exact canFollow_cons (.inl rfl) _

theorem length_le_length_printFollowing (js : List Json) :
    js.length ≤ (printFollowing js).length :=
  length_le_length_flatMap (fun _ => List.cons_ne_nil _ _) js

theorem takes_hasItem_end (first : Bool) (rest : List Char) :
    Takes (hasItem first) depth (']' :: rest) false (']' :: rest) :=
  (takes_peekPart (by decide) rest).bind (takes_pure _ _)

theorem takes_endList (rest : List Char) : Takes endList depth (']' :: rest) () rest :=
  (takes_peekPart (by decide) rest).bind (takes_skip _)

theorem Begins.takes_hasItem_first (h : Begins j) (rest : List Char) :
    Takes (hasItem true) depth (j.printChars ++ rest) true (j.printChars ++ rest) := by
  obtain ⟨x, text, htext, hspace, hend⟩ := h
  rw [htext]
  refine (takes_peekPart hspace _).bind ?_
  split
  next heq => cases heq
  next heq => exact absurd (Option.some.inj heq) hend
  next => exact takes_pure _ _

theorem Begins.takes_hasItem_next (h : Begins j) (rest : List Char) :
    Takes (hasItem false) depth (',' :: (j.printChars ++ rest)) true (j.printChars ++ rest) := by
  obtain ⟨x, text, htext, hspace, hend⟩ := h
  rw [htext]
  refine (takes_peekPart (by decide) _).bind ((takes_skip _).bind ?_)
  refine (takes_peekPart hspace _).bind ?_
  split
  next heq => exact absurd (Option.some.inj heq) hend
  next => exact takes_pure _ _
  next heq => cases heq

theorem takes_itemsWith_following {js : List Json} {as : List α}
    (h : List.Forall₂ (Recovers r depth) js as) {fuel : Nat} (hfuel : js.length < fuel)
    (read : List α) (rest : List Char) :
    Takes (itemsWith r fuel false read) depth (printFollowing js ++ ']' :: rest)
      (read.reverse ++ as) (']' :: rest) := by
  induction h generalizing fuel read with
  | nil =>
    rw [List.append_nil]
    obtain ⟨fuel, rfl⟩ := Nat.exists_eq_add_one_of_ne_zero (Nat.ne_zero_of_lt hfuel)
    exact (takes_hasItem_end false rest).bind (takes_pure _ _)
  | @cons j a js as hj _ ih =>
    obtain ⟨fuel, rfl⟩ := Nat.exists_eq_add_one_of_ne_zero (Nat.ne_zero_of_lt hfuel)
    have hnext := ih (Nat.lt_of_succ_lt_succ hfuel) (a :: read)
    rw [List.reverse_cons, List.append_assoc, List.singleton_append] at hnext
    have htext : printFollowing (j :: js) ++ ']' :: rest =
        ',' :: (j.printChars ++ (printFollowing js ++ ']' :: rest)) := by
      simp [printFollowing]
    rw [htext]
    refine (hj.begins.takes_hasItem_next _).bind ?_
    exact (hj.takes _ (canFollow_printFollowing js rest)).bind hnext

theorem takes_itemsWith {js : List Json} {as : List α} (h : List.Forall₂ (Recovers r depth) js as)
    {fuel : Nat} (hfuel : js.length < fuel) (rest : List Char) :
    Takes (itemsWith r fuel true []) depth (printItems js ++ ']' :: rest) as (']' :: rest) := by
  cases h with
  | nil =>
    obtain ⟨fuel, rfl⟩ := Nat.exists_eq_add_one_of_ne_zero (Nat.ne_zero_of_lt hfuel)
    exact (takes_hasItem_end true rest).bind (takes_pure _ _)
  | @cons j a js as hj hjs =>
    obtain ⟨fuel, rfl⟩ := Nat.exists_eq_add_one_of_ne_zero (Nat.ne_zero_of_lt hfuel)
    rw [printItems_cons, List.append_assoc]
    refine (hj.begins.takes_hasItem_first _).bind ?_
    refine (hj.takes _ (canFollow_printFollowing js rest)).bind ?_
    exact takes_itemsWith_following hjs (Nat.lt_of_succ_lt_succ hfuel) [a] rest

theorem takes_listWith {js : List Json} {as : List α} (h : List.Forall₂ (Recovers r depth) js as)
    (rest : List Char) :
    Takes (listWith r) (depth + 1) ((Json.array js).printChars ++ rest) as rest := by
  have htext : (Json.array js).printChars ++ rest = '[' :: (printItems js ++ ']' :: rest) := by
    simp [printChars]
  have hlength : js.length < (printItems js ++ ']' :: rest).length + 1 := by
    rw [List.length_append, List.length_cons]
    cases js with
    | nil => exact Nat.zero_lt_succ _
    | cons j js =>
      have hfollowing := length_le_length_printFollowing js
      rw [printItems_cons, List.length_append, List.length_cons]
      omega
  rw [htext]
  refine Takes.opened ?_ '['
  refine (takes_bound _).bind ((takes_itemsWith h hlength rest).bind ?_)
  exact (takes_endList rest).bind (takes_pure as rest)

/-- A list is recovered from its items. -/
theorem recovers_list {js : List Json} {as : List α} (h : List.Forall₂ (Recovers r depth) js as) :
    Recovers (list r) (depth + 1) (.array js) as where
  begins := begins_array js
  takes rest _ := (takes_part (by decide) _).bind (takes_listWith h rest)

/-! ### Objects -/

/-- The members behind another one, each behind a comma. -/
def printFollowingMembers (members : List (String × Json)) : List Char :=
  members.flatMap fun (name, j) => ',' :: (printString name ++ ':' :: j.printChars)

theorem printMembers_cons (name : String) (j : Json) (members : List (String × Json)) :
    printMembers ((name, j) :: members) =
      printString name ++ ':' :: (j.printChars ++ printFollowingMembers members) := by
  induction members generalizing name j with
  | nil => simp [printMembers, printFollowingMembers]
  | cons member members ih =>
    obtain ⟨name', j'⟩ := member
    simp [printMembers, printFollowingMembers, ih name' j']

theorem canFollow_printFollowingMembers (members : List (String × Json)) (rest : List Char) :
    CanFollow (printFollowingMembers members ++ '\x7d' :: rest) := by
  cases members with
  | nil => exact canFollow_cons (.inr (.inr rfl)) rest
  | cons member members => exact canFollow_cons (.inl rfl) _

theorem length_le_length_printFollowingMembers (members : List (String × Json)) :
    members.length ≤ (printFollowingMembers members).length :=
  length_le_length_flatMap (fun _ => List.cons_ne_nil _ _) members

/-- The members of an object, read one by one behind their names, lead from one state to another. -/
inductive Gathers (r : σ → String → Reading σ) (depth : Nat) :
    σ → List (String × Json) → σ → Prop
  | nil {s : σ} : Gathers r depth s [] s
  | cons {s s' s'' : σ} {name : String} {j : Json} {members : List (String × Json)}
      (h : ∀ rest, CanFollow rest →
        Takes (r s name) depth (':' :: (j.printChars ++ rest)) s' rest) :
      Gathers r depth s' members s'' → Gathers r depth s ((name, j) :: members) s''

theorem takes_colon (text : List Char) : Takes colon depth (':' :: text) () text :=
  (takes_peekPart (by decide) text).bind (takes_skip _)

theorem takes_hasMember_end (first : Bool) (rest : List Char) :
    Takes (hasMember first) depth ('\x7d' :: rest) false ('\x7d' :: rest) :=
  (takes_peekPart (by decide) rest).bind (takes_pure _ _)

theorem takes_hasMember_first (text : List Char) :
    Takes (hasMember true) depth ('"' :: text) true ('"' :: text) :=
  (takes_peekPart (by decide) _).bind (takes_pure _ _)

theorem takes_hasMember_next (text : List Char) :
    Takes (hasMember false) depth (',' :: '"' :: text) true ('"' :: text) := by
  refine (takes_peekPart (by decide) _).bind ((takes_skip _).bind ?_)
  exact (takes_peekPart (by decide) _).bind (takes_pure _ _)

theorem takes_endObject (rest : List Char) : Takes endObject depth ('\x7d' :: rest) () rest :=
  (takes_peekPart (by decide) rest).bind (takes_skip _)

section Gathering

variable {step : σ → String → Reading σ} {s s' : σ} {members : List (String × Json)}

theorem Gathers.takes_following (h : Gathers step depth s members s') {fuel : Nat}
    (hfuel : members.length < fuel) (rest : List Char) :
    Takes (membersWith step fuel false s) depth (printFollowingMembers members ++ '\x7d' :: rest)
      s' ('\x7d' :: rest) := by
  induction h generalizing fuel with
  | nil =>
    obtain ⟨fuel, rfl⟩ := Nat.exists_eq_add_one_of_ne_zero (Nat.ne_zero_of_lt hfuel)
    exact (takes_hasMember_end false rest).bind (takes_pure _ _)
  | @cons s s' s'' name j members hfirst _ ih =>
    obtain ⟨fuel, rfl⟩ := Nat.exists_eq_add_one_of_ne_zero (Nat.ne_zero_of_lt hfuel)
    have htext : printFollowingMembers ((name, j) :: members) ++ '\x7d' :: rest =
        ',' :: (printString name ++ ':' ::
          (j.printChars ++ (printFollowingMembers members ++ '\x7d' :: rest))) := by
      simp [printFollowingMembers]
    rw [htext]
    refine (takes_hasMember_next _).bind ((takes_memberName name _).bind ?_)
    refine (hfirst _ (canFollow_printFollowingMembers members rest)).bind ?_
    exact ih (Nat.lt_of_succ_lt_succ hfuel)

theorem Gathers.takes_membersWith (h : Gathers step depth s members s') {fuel : Nat}
    (hfuel : members.length < fuel) (rest : List Char) :
    Takes (membersWith step fuel true s) depth (printMembers members ++ '\x7d' :: rest)
      s' ('\x7d' :: rest) := by
  cases h with
  | nil =>
    obtain ⟨fuel, rfl⟩ := Nat.exists_eq_add_one_of_ne_zero (Nat.ne_zero_of_lt hfuel)
    exact (takes_hasMember_end true rest).bind (takes_pure _ _)
  | @cons _ s' _ name j members hfirst hmembers =>
    obtain ⟨fuel, rfl⟩ := Nat.exists_eq_add_one_of_ne_zero (Nat.ne_zero_of_lt hfuel)
    have htext : printMembers ((name, j) :: members) ++ '\x7d' :: rest =
        printString name ++ ':' ::
          (j.printChars ++ (printFollowingMembers members ++ '\x7d' :: rest)) := by
      simp [printMembers_cons]
    rw [htext]
    refine (takes_hasMember_first _).bind ((takes_memberName name _).bind ?_)
    refine (hfirst _ (canFollow_printFollowingMembers members rest)).bind ?_
    exact hmembers.takes_following (Nat.lt_of_succ_lt_succ hfuel) rest

theorem Gathers.takes_objectWith (h : Gathers step depth s members s') (rest : List Char) :
    Takes (objectWith s step) (depth + 1) ((Json.object members).printChars ++ rest) s' rest := by
  have htext : (Json.object members).printChars ++ rest =
      '\x7b' :: (printMembers members ++ '\x7d' :: rest) := by
    simp [printChars]
  have hlength : members.length < (printMembers members ++ '\x7d' :: rest).length + 1 := by
    rw [List.length_append, List.length_cons]
    cases members with
    | nil => exact Nat.zero_lt_succ _
    | cons member members =>
      have hfollowing := length_le_length_printFollowingMembers members
      rw [printMembers_cons, List.length_append, List.length_cons, List.length_cons,
        List.length_append]
      omega
  rw [htext]
  refine Takes.opened ?_ '\x7b'
  refine (takes_bound _).bind ((h.takes_membersWith hlength rest).bind ?_)
  exact (takes_endObject rest).bind (takes_pure s' rest)

end Gathering

/-- What is read behind a colon. -/
theorem Recovers.takes_behind_colon (h : Recovers r depth j a) (f : α → β) {rest : List Char}
    (hrest : CanFollow rest) :
    Takes (do colon; return f (← r)) depth (':' :: (j.printChars ++ rest)) (f a) rest :=
  (takes_colon _).bind ((h.takes rest hrest).bind (takes_pure _ _))

/-- Writing entries in order is reading a map. -/
theorem gathers_set {f : α → Json} {entries : List (String × α)}
    (h : ∀ entry ∈ entries, Recovers r depth (f entry.2) entry.2) (m : OrderedMap α) :
    Gathers (fun m name => do colon; return m.set name (← r)) depth m
      (entries.map fun (name, a) => (name, f a)) (m.setAll entries) := by
  induction entries generalizing m with
  | nil => exact .nil
  | cons entry entries ih =>
    obtain ⟨name, a⟩ := entry
    have hfirst := h (name, a) List.mem_cons_self
    exact .cons (fun rest hrest => hfirst.takes_behind_colon (m.set name) hrest)
      (ih (fun entry hmem => h entry (List.mem_cons_of_mem _ hmem)) (m.set name a))

/-- A map is recovered from the values of its entries. -/
theorem recovers_map {f : α → Json} {m : OrderedMap α}
    (h : ∀ entry ∈ m.entries, Recovers r depth (f entry.2) entry.2) :
    Recovers (map r) (depth + 1) (.object (m.entries.map fun (name, a) => (name, f a))) m where
  begins := begins_object _
  takes rest _ := by
    have hgathers := gathers_set h .empty
    rw [show OrderedMap.empty.setAll m.entries = m from OrderedMap.ofList_entries m] at hgathers
    exact (takes_part (by decide) _).bind (hgathers.takes_objectWith rest)

/-! ### Records -/

/-- The members of an object fill the fields of a record, each read by the reader of its name. -/
inductive Fills (fields : List (FieldReader σ)) (depth : Nat) :
    σ → List (String × Json) → σ → Prop
  | nil {s : σ} : Fills fields depth s [] s
  | cons {s s' s'' : σ} {name : String} {j : Json} {members : List (String × Json)}
      {field : FieldReader σ} (hfield : fields.find? (·.name == name) = some field)
      (hset : ∀ rest, CanFollow rest → Takes (field.set s) depth (j.printChars ++ rest) s' rest) :
      Fills fields depth s' members s'' → Fills fields depth s ((name, j) :: members) s''

/-- A field that is set to what is recovered. -/
theorem Recovers.set (h : Recovers r depth j a) {f : α → β} (rest : List Char)
    (hrest : CanFollow rest) :
    Takes (do return f (← r)) depth (j.printChars ++ rest) (f a) rest :=
  (h.takes rest hrest).bind (takes_pure _ _)

/-- What sets the field of each member, and keeps the names that were met to refuse them when they
come again, gathers members that fill a record and of which none comes again. -/
theorem Fills.gathers {fields : List (FieldReader σ)}
    {step : σ × List String → String → Reading (σ × List String)}
    (hstep : ∀ {s s' : σ} {seen : List String} {field : FieldReader σ} {name : String}
      {text rest : List Char}, fields.find? (·.name == name) = some field → name ∉ seen →
        Takes (field.set s) depth text s' rest →
        Takes (step (s, seen) name) depth (':' :: text) (s', name :: seen) rest)
    {s s' : σ} {members : List (String × Json)} (h : Fills fields depth s members s')
    {seen : List String} (hnodup : (members.map Prod.fst).Nodup)
    (hseen : ∀ name ∈ members.map Prod.fst, name ∉ seen) :
    Gathers step depth (s, seen) members (s', (members.map Prod.fst).reverse ++ seen) := by
  induction h generalizing seen with
  | nil => exact .nil
  | @cons s s' s'' name j members field hfield hset _ ih =>
    rw [List.map_cons, List.nodup_cons] at hnodup
    have hfresh : ∀ other ∈ members.map Prod.fst, other ∉ name :: seen := by
      intro other hmem hother
      rcases List.mem_cons.1 hother with rfl | hother
      · exact hnodup.1 hmem
      · exact hseen other (List.mem_cons_of_mem _ hmem) hother
    have hmembers := ih hnodup.2 hfresh
    rw [List.map_cons, List.reverse_cons, List.append_assoc, List.singleton_append]
    refine .cons (fun rest hrest => ?_) hmembers
    exact hstep hfield (hseen name List.mem_cons_self) (hset rest hrest)

/-- A record is recovered from its fields, of which none comes twice. -/
theorem recovers_record {expected : String} {fields : List (FieldReader σ)} {s s' : σ}
    {members : List (String × Json)} (h : Fills fields depth s members s')
    (hnodup : (members.map Prod.fst).Nodup) :
    Recovers (record expected s fields) (depth + 1) (.object members) s' where
  begins := begins_object members
  takes rest _ := by
    refine (takes_part (by decide) _).bind ?_
    refine Takes.bind (a := (s', (members.map Prod.fst).reverse ++ []))
      (Gathers.takes_objectWith ?_ rest) (takes_pure s' rest)
    refine h.gathers ?_ hnodup fun _ _ => List.not_mem_nil
    intro s s' seen field name text rest hfield hfresh hset
    have hnew : ¬ seen.contains name = true := by simpa using hfresh
    simp only [hfield, if_neg hnew]
    exact (takes_colon _).bind (hset.bind (takes_pure _ _))

/-! ### Generic values -/

theorem ne_of_isDigit {x y : Char} (hx : x.isDigit = true) (hy : y.isDigit = false) : x ≠ y := by
  rintro rfl
  rw [hx] at hy
  cases hy

theorem isSpace_of_isDigit {x : Char} (hx : x.isDigit = true) : Cursor.isSpace x = false := by
  simp [Cursor.isSpace, ne_of_isDigit hx]

/-- Of all values only numbers begin with a digit. -/
theorem takes_valueWith_digit {part : Reading Json} {x : Char} (hx : x.isDigit = true)
    {text rest : List Char} (h : Takes (number false) depth (x :: text) j rest) :
    Takes (valueWith part) depth (x :: text) j rest := by
  refine (takes_peekPart (isSpace_of_isDigit hx) text).bind ?_
  split
  case h_1 heq => cases heq
  -- the last case is that of a digit; in all others the character is one that is no digit
  case h_9 heq =>
    obtain rfl := Option.some.inj heq
    rwa [if_pos hx]
  all_goals
    rename_i heq
    exact absurd (Option.some.inj heq) (ne_of_isDigit hx (by decide))

section Scalars

variable (part : Reading Json)

theorem recovers_null : Recovers (valueWith part) depth .null .null where
  begins := ⟨'n', _, rfl, by decide, by decide⟩
  takes rest _ := by
    refine (takes_peekPart (by decide) _).bind ((takes_skip _).bind ?_)
    exact (takes_word _ rest).bind (takes_pure _ _)

theorem recovers_bool (b : Bool) : Recovers (valueWith part) depth (.bool b) (.bool b) := by
  cases b with
  | false | true =>
    refine ⟨⟨_, _, rfl, by decide, by decide⟩, fun rest _ => ?_⟩
    refine (takes_peekPart (by decide) _).bind ((takes_skip _).bind ?_)
    exact (takes_word _ rest).bind (takes_pure _ _)

theorem printChars_string (s : String) (rest : List Char) :
    (Json.string s).printChars ++ rest = '"' :: (s.toList.flatMap escapeChar ++ '"' :: rest) := by
  simp [printChars, printString]

theorem recovers_valueWith_string (s : String) :
    Recovers (valueWith part) depth (.string s) (.string s) where
  begins := begins_string s
  takes rest _ := by
    rw [printChars_string]
    refine (takes_peekPart (by decide) _).bind ((takes_skip _).bind ?_)
    exact (takes_text s rest).bind (takes_pure _ _)

theorem printChars_int (n : Int) :
    (Json.int n).printChars =
      if 0 ≤ n then Nat.toDigits 10 n.toNat else '-' :: Nat.toDigits 10 (-n).toNat := by
  rw [printChars, Int.toString_eq_repr, Int.repr_eq_if]
  split
  · rw [Nat.repr_eq_ofList_toDigits, String.toList_ofList]
  · rw [Nat.repr_eq_ofList_toDigits, String.toList_append, String.toList_ofList,
      String.toList_ofList]
    rfl

theorem recovers_int {n : Int} (h : hasWord n = true) :
    Recovers (valueWith part) depth (.int n) (.int n) := by
  simp only [hasWord, Bool.and_eq_true, decide_eq_true_eq] at h
  have htext := printChars_int n
  split at htext
  next hsign =>
    have hsmall : n.toNat < Nat.pow 2 64 := by omega
    have hnumber (rest : List Char) (hrest : CanFollow rest) :
        Takes (number false) depth (Nat.toDigits 10 n.toNat ++ rest) (.int n) rest := by
      have hread : Takes (number false) depth _ _ rest :=
        takes_number hsmall (fun hsign => absurd hsign Bool.false_ne_true) hrest
      rwa [if_neg (by decide), Int.toNat_of_nonneg hsign] at hread
    cases hall : Nat.toDigits 10 n.toNat with
    | nil => exact absurd hall Nat.toDigits_ne_nil
    | cons x text =>
      have hx : x.isDigit = true :=
        Nat.isDigit_of_mem_toDigits (by decide) (Nat.le_refl 10) (hall ▸ List.mem_cons_self)
      rw [hall] at htext hnumber
      refine ⟨⟨x, text, htext, isSpace_of_isDigit hx, ne_of_isDigit hx (by decide)⟩, ?_⟩
      intro rest hrest
      rw [htext]
      exact takes_valueWith_digit hx (hnumber rest hrest)
  next hsign =>
    have hsmall : (-n).toNat < Nat.pow 2 64 := by
      have hpow : Nat.pow 2 63 < Nat.pow 2 64 := by decide
      omega
    have hnegative : 0 < (-n).toNat ∧ (-n).toNat ≤ Nat.pow 2 63 := by omega
    refine ⟨⟨'-', _, htext, by decide, by decide⟩, fun rest hrest => ?_⟩
    have hread : Takes (number true) depth _ _ rest :=
      takes_number hsmall (fun _ => hnegative) hrest
    rw [if_pos rfl, Int.toNat_of_nonneg (by omega), Int.neg_neg] at hread
    rw [htext]
    exact (takes_peekPart (by decide) _).bind ((takes_skip _).bind hread)

end Scalars

/-- Members whose names increase are gathered in the order in which they stand. -/
theorem gathers_insertMember {members read : List (String × Json)} {part : Reading Json}
    (h : ∀ member ∈ members, Recovers part depth member.2 member.2)
    (hincreasing : ((read ++ members).map Prod.fst).Pairwise (· < ·)) :
    Gathers (fun members name => do colon; return insertMember name (← part) members) depth
      read members (read ++ members) := by
  induction members generalizing read with
  | nil =>
    rw [List.append_nil]
    exact .nil
  | cons member members ih =>
    obtain ⟨name, j⟩ := member
    have hlarger : ∀ member ∈ read, member.1 < name := by
      rw [List.map_append, List.pairwise_append] at hincreasing
      intro member hmem
      exact hincreasing.2.2 member.1 (List.mem_map_of_mem hmem) name List.mem_cons_self
    have happend : read ++ (name, j) :: members = insertMember name j read ++ members := by
      rw [insertMember_of_lt j hlarger, List.append_assoc, List.singleton_append]
    rw [happend] at hincreasing ⊢
    refine .cons (fun rest hrest => ?_) (ih ?_ hincreasing)
    · exact (h (name, j) List.mem_cons_self).takes_behind_colon
        (fun value => insertMember name value read) hrest
    · intro member hmem
      exact h member (List.mem_cons_of_mem _ hmem)

theorem valueWithin_eq (depth : Nat) : ∃ part, valueWithin depth = valueWith part := by
  cases depth with
  | zero => exact ⟨_, rfl⟩
  | succ depth => exact ⟨valueWithin depth, rfl⟩

/-- A value without floating point numbers is recovered as it is. -/
theorem recovers_valueWithin (h : j.IsWithin depth) (hfloatless : j.isFloatless = true) :
    Recovers (valueWithin depth) depth j j := by
  -- the parts of a collection are read within one level less
  induction depth using Nat.strongRecOn generalizing j with | _ depth ih =>
  obtain ⟨part, hpart⟩ := valueWithin_eq depth
  cases j with
  | null => exact hpart ▸ recovers_null part
  | bool b => exact hpart ▸ recovers_bool part b
  | int n => exact hpart ▸ recovers_int part h.fits
  | float x => cases hfloatless
  | string s => exact hpart ▸ recovers_valueWith_string part s
  | array items =>
    obtain ⟨depth, rfl⟩ := Nat.exists_eq_add_one_of_ne_zero (Nat.ne_zero_of_lt h.levels)
    have hitems : ∀ item ∈ items, Recovers (valueWithin depth) depth item item := by
      intro item hmem
      exact ih depth (Nat.lt_succ_self depth) (isWithin_array.1 h item hmem)
        (everyItem_iff.1 hfloatless item hmem)
    refine ⟨begins_array items, fun rest _ => (takes_peekPart (by decide) _).bind ?_⟩
    exact (takes_listWith (List.forall₂_same.2 hitems) rest).bind (takes_pure _ _)
  | object members =>
    obtain ⟨depth, rfl⟩ := Nat.exists_eq_add_one_of_ne_zero (Nat.ne_zero_of_lt h.levels)
    obtain ⟨hpairs, hwithin⟩ := isWithin_object.1 h
    have hmembers : ∀ member ∈ members,
        Recovers (valueWithin depth) depth member.2 member.2 := by
      intro member hmem
      exact ih depth (Nat.lt_succ_self depth) (hwithin member hmem)
        (everyMember_iff.1 hfloatless member hmem)
    have hgathers : Gathers _ depth [] members members := gathers_insertMember hmembers hpairs
    refine ⟨begins_object members, fun rest _ => (takes_peekPart (by decide) _).bind ?_⟩
    exact (hgathers.takes_objectWith rest).bind (takes_pure _ _)

/-- A value without floating point numbers is recovered as it is where any value is expected. -/
theorem recovers_value (h : j.IsWithin depth) (hfloatless : j.isFloatless = true) :
    Recovers value depth j j := by
  have hvalue := recovers_valueWithin h hfloatless
  exact ⟨hvalue.begins, fun rest hrest => hvalue.takes rest hrest⟩

/-- A text is recovered where a text is expected. -/
theorem recovers_string (s : String) : Recovers string depth (.string s) s where
  begins := begins_string s
  takes rest _ := by
    rw [printChars_string]
    exact (takes_part (by decide) _).bind ((takes_skip _).bind (takes_text s rest))

/-- All of the text of a value is read as what is recovered from it. -/
theorem Recovers.run (h : Recovers r 127 j a) : run r j.print = .ok a := by
  obtain ⟨c, hread, hrest⟩ := h.takes [] canFollow_nil ⟨j.print.toList, 1, 0⟩ (by simp [print])
  have hspace : c.skipSpace.rest.isEmpty = true := by
    rw [Cursor.skipSpace, Cursor.rest_skipWhile _ (Nat.le_refl _), hrest]
    rfl
  rw [Reading.run]
  change (r 127 ⟨j.print.toList, 1, 0⟩ >>= fun x => _) = _
  rw [hread]
  exact if_pos hspace

end Reading

end Scaffold.Json

/-!
# Blank — the white space of texts

A character is blank when it has the Unicode property White_Space. A text is blank when all its
characters are; `trim` drops the blank characters at both ends.

A text that is not blank has a word (`words_ne_nil`). What is left of a text without the blanks at
both ends is empty if the text is blank (`isEmpty_trim`), and otherwise it is not blank
(`isBlankText_trim`); blanks that are put around a text are dropped again (`trimChars_pad`).
Trimming comes to the one text of which the whole is made by blanks around it (`trims_trimChars`,
`Trims.trimChars_eq`).
-/

set_option autoImplicit false

namespace Scaffold.Text

/-- The Unicode property White_Space. -/
def isBlank (c : Char) : Bool :=
  let n := c.toNat
  (0x9 ≤ n && n ≤ 0xD) || n == 0x20 || n == 0x85 || n == 0xA0 || n == 0x1680
    || (0x2000 ≤ n && n ≤ 0x200A) || n == 0x2028 || n == 0x2029 || n == 0x202F
    || n == 0x205F || n == 0x3000

/-- Drops the blank characters in front. -/
def trimStart (text : List Char) : List Char :=
  text.dropWhile isBlank

/-- Drops the last characters that satisfy `p`. -/
def dropEndWhile (p : Char → Bool) (text : List Char) : List Char :=
  (text.reverse.dropWhile p).reverse

/-- Drops the blank characters at the end. -/
def trimEnd (text : List Char) : List Char :=
  dropEndWhile isBlank text

/-- Drops the blank characters at both ends. -/
def trimChars (text : List Char) : List Char :=
  trimEnd (trimStart text)

/-- Drops the blank characters at both ends of a string. -/
def trim (text : String) : String :=
  String.ofList (trimChars text.toList)

/-- Nothing but blank characters. -/
def isBlankText (text : String) : Bool :=
  text.toList.all isBlank

/-- The maximal runs of characters that are not blank, in order. -/
def words (text : String) : List String :=
  let ended (state : List (List Char) × List Char) : List (List Char) :=
    if state.2.isEmpty then state.1 else state.2.reverse :: state.1
  let step (state : List (List Char) × List Char) (c : Char) : List (List Char) × List Char :=
    if isBlank c then (ended state, []) else (state.1, c :: state.2)
  (ended (text.toList.foldl step ([], []))).reverse.map String.ofList

/-! ## Words -/

/-- The words so far, the last one first, when the one at the end is complete. -/
def endWord (state : List (List Char) × List Char) : List (List Char) :=
  if state.2.isEmpty then state.1 else state.2.reverse :: state.1

/-- One more character: a blank one ends a word, any other belongs to it. -/
def wordStep (state : List (List Char) × List Char) (c : Char) : List (List Char) × List Char :=
  if isBlank c then (endWord state, []) else (state.1, c :: state.2)

theorem words_eq (text : String) :
    words text = (endWord (text.toList.foldl wordStep ([], []))).reverse.map String.ofList := rfl

theorem endWord_ne_nil {state : List (List Char) × List Char} (h : state ≠ ([], [])) :
    endWord state ≠ [] := by
  obtain ⟨done, current⟩ := state
  cases current with
  | nil =>
    rintro rfl
    exact h rfl
  | cons c current => exact List.cons_ne_nil _ _

/-- What has begun is not lost, and a character that is not blank begins something. -/
theorem foldl_wordStep_ne {cs : List Char} {state : List (List Char) × List Char}
    (h : state ≠ ([], []) ∨ ∃ c ∈ cs, isBlank c = false) : cs.foldl wordStep state ≠ ([], []) := by
  induction cs generalizing state with
  | nil => exact h.resolve_right (by simp)
  | cons c cs ih =>
    refine ih ?_
    rw [wordStep]
    split
    next hblank =>
      rcases h with hstate | ⟨c', hmem, hc'⟩
      · exact .inl fun heq => endWord_ne_nil hstate (congrArg Prod.fst heq)
      · rcases List.mem_cons.1 hmem with rfl | hmem
        · rw [hblank] at hc'
          cases hc'
        · exact .inr ⟨c', hmem, hc'⟩
    next => exact .inl fun heq => List.cons_ne_nil _ _ (congrArg Prod.snd heq)

/-- A text that is not blank has a word. -/
theorem words_ne_nil {text : String} (h : isBlankText text = false) : words text ≠ [] := by
  obtain ⟨c, hmem, hc⟩ := List.all_eq_false.1 h
  have hstate : text.toList.foldl wordStep ([], []) ≠ ([], []) :=
    foldl_wordStep_ne (.inr ⟨c, hmem, Bool.eq_false_iff.2 hc⟩)
  rw [words_eq]
  intro hnil
  exact endWord_ne_nil hstate (List.reverse_eq_nil_iff.1 (List.map_eq_nil_iff.1 hnil))

/-! ## Trimmed texts -/

/-- Nothing but blank characters. -/
def Blanks (cs : List Char) : Prop := ∀ c ∈ cs, isBlank c = true

instance (cs : List Char) : Decidable (Blanks cs) := List.decidableBAll _ cs

theorem trimStart_eq_nil_iff {text : List Char} : trimStart text = [] ↔ Blanks text := by
  constructor
  · intro hgone c hc
    have hall : text.takeWhile isBlank ++ text.dropWhile isBlank = text :=
      List.takeWhile_append_dropWhile
    rw [trimStart] at hgone
    rw [hgone, List.append_nil] at hall
    rw [← hall] at hc
    exact List.all_eq_true.1 List.all_takeWhile c hc
  · intro hblank
    rw [trimStart, ← List.append_nil text, List.dropWhile_append_of_pos hblank]
    rfl

theorem trimEnd_eq_nil_iff {text : List Char} : trimEnd text = [] ↔ Blanks text := by
  rw [trimEnd, dropEndWhile, List.reverse_eq_nil_iff]
  refine trimStart_eq_nil_iff.trans ⟨fun h c hc => ?_, fun h c hc => ?_⟩
  · exact h c (List.mem_reverse.2 hc)
  · exact h c (List.mem_reverse.1 hc)

/-- Without the blanks at both ends nothing is left of a blank text, and of no other one. -/
theorem trimChars_eq_nil_iff {text : List Char} : trimChars text = [] ↔ Blanks text := by
  rw [trimChars, trimEnd_eq_nil_iff]
  constructor
  · intro hblank
    -- what is left in front would begin with a character that is not blank
    refine trimStart_eq_nil_iff.1 (Classical.byContradiction fun hne => ?_)
    have hfirst : isBlank ((trimStart text).head hne) = false := List.head_dropWhile_not isBlank hne
    rw [hblank _ (List.head_mem hne)] at hfirst
    cases hfirst
  · intro hblank
    rw [trimStart_eq_nil_iff.2 hblank]
    exact nofun

theorem isEmpty_trim (text : String) : (trim text).isEmpty = isBlankText text := by
  have hempty : (trim text).isEmpty = true ↔ trimChars text.toList = [] := by
    rw [String.isEmpty_iff, ← String.toList_eq_nil_iff, trim, String.toList_ofList]
  rw [Bool.eq_iff_iff, hempty, trimChars_eq_nil_iff, isBlankText, List.all_eq_true, Blanks]

/-- Blanks around a text are dropped with those of the text. -/
theorem trimChars_pad {front behind : List Char} (hfront : Blanks front) (hbehind : Blanks behind)
    (text : List Char) : trimChars (front ++ text ++ behind) = trimChars text := by
  have hstart : trimStart (front ++ text ++ behind) = trimStart (text ++ behind) := by
    rw [trimStart, List.append_assoc, List.dropWhile_append_of_pos hfront, trimStart]
  rw [trimChars, hstart, trimChars, trimStart, List.dropWhile_append]
  split
  next hblank =>
    have hgone : behind.dropWhile isBlank = [] := trimStart_eq_nil_iff.2 hbehind
    rw [hgone, trimStart, List.isEmpty_iff.1 hblank]
  next =>
    rw [trimEnd, dropEndWhile, List.reverse_append, List.dropWhile_append_of_pos]
    · rfl
    · exact fun c hc => hbehind c (List.mem_reverse.1 hc)

/-- A text that neither begins nor ends with a blank character. -/
def Bare (text : List Char) : Prop :=
  (∀ c ∈ text.head?, isBlank c = false) ∧ ∀ c ∈ text.getLast?, isBlank c = false

-- The instance is named so that deciding looks at the two ends and never tries every character.
instance (text : List Char) : Decidable (Bare text) :=
  @instDecidableAnd _ _ (Option.decidableForallMem text.head?)
    (Option.decidableForallMem text.getLast?)

theorem dropWhile_isBlank_of_head {text : List Char} (h : ∀ c ∈ text.head?, isBlank c = false) :
    text.dropWhile isBlank = text := by
  cases text with
  | nil => rfl
  | cons c cs => rw [List.dropWhile_cons_of_neg (by simp [h c rfl])]

/-- A text without blanks at its ends keeps all its characters. -/
theorem trimChars_of_bare {text : List Char} (h : Bare text) : trimChars text = text := by
  rw [trimChars, trimStart, dropWhile_isBlank_of_head h.1, trimEnd, dropEndWhile,
    dropWhile_isBlank_of_head (by rw [List.head?_reverse]; exact h.2), List.reverse_reverse]

/-- A text without blanks has none at its ends. -/
theorem trimChars_of_not_isBlank {text : List Char} (h : ∀ c ∈ text, isBlank c = false) :
    trimChars text = text :=
  trimChars_of_bare ⟨fun c hc => h c (List.mem_of_mem_head? hc),
    fun c hc => h c (List.mem_of_mem_getLast? hc)⟩

/-- A text is another one with blanks around it, and the other one has none at its ends. -/
def Trims (text inner : List Char) : Prop :=
  ∃ front behind, text = front ++ inner ++ behind ∧ Blanks front ∧ Blanks behind ∧ Bare inner

theorem blanks_takeWhile (text : List Char) : Blanks (text.takeWhile isBlank) :=
  fun c hc => List.all_eq_true.1 List.all_takeWhile c hc

theorem not_isBlank_of_head_dropWhile (text : List Char) :
    ∀ c ∈ (text.dropWhile isBlank).head?, isBlank c = false := by
  intro c hc
  have hfirst := List.head?_dropWhile_not isBlank text
  rw [Option.mem_def.1 hc] at hfirst
  exact hfirst

theorem trims_trimChars (text : List Char) : Trims text (trimChars text) := by
  have hstart : text.takeWhile isBlank ++ trimStart text = text := List.takeWhile_append_dropWhile
  have hend : trimEnd (trimStart text) ++ ((trimStart text).reverse.takeWhile isBlank).reverse =
      trimStart text := by
    rw [trimEnd, dropEndWhile, ← List.reverse_append, List.takeWhile_append_dropWhile,
      List.reverse_reverse]
  refine ⟨_, ((trimStart text).reverse.takeWhile isBlank).reverse, ?_, blanks_takeWhile text,
    fun c hc => blanks_takeWhile _ c (List.mem_reverse.1 hc), fun c hc => ?_, fun c hc => ?_⟩
  · rw [List.append_assoc, trimChars, hend, hstart]
  · -- what is left at the front is the front of what is left without the blanks there
    refine not_isBlank_of_head_dropWhile text c ?_
    change c ∈ (trimEnd (trimStart text)).head? at hc
    change c ∈ (trimStart text).head?
    rw [← hend, List.head?_append, Option.mem_def.1 hc]
    rfl
  · rw [trimChars, trimEnd, dropEndWhile, List.getLast?_reverse] at hc
    exact not_isBlank_of_head_dropWhile _ c hc

theorem Trims.trimChars_eq {text inner : List Char} (h : Trims text inner) :
    trimChars text = inner := by
  obtain ⟨front, behind, rfl, hfront, hbehind, hbare⟩ := h
  rw [trimChars_pad hfront hbehind, trimChars_of_bare hbare]

/-- What a trimmed text ends in is not blank. -/
theorem isBlankText_trim {text : String} (h : (trim text).isEmpty = false) :
    isBlankText (trim text) = false := by
  have hne : (trimStart text.toList).reverse.dropWhile isBlank ≠ [] := by
    intro hnil
    have hempty : trim text = "" := by
      rw [trim, trimChars, trimEnd, dropEndWhile, hnil]
      rfl
    rw [hempty] at h
    cases h
  rw [isBlankText, trim, String.toList_ofList]
  refine List.all_eq_false.2 ⟨_, List.mem_reverse.2 (List.head_mem hne), ?_⟩
  exact Bool.eq_false_iff.1 (List.head_dropWhile_not isBlank hne)

end Scaffold.Text

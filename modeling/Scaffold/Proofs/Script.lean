import Mathlib.Data.List.Forall2
import Scaffold.Script.Run

/-!
# Script — texts that are read back from quotes

Shells list values between quotes so that they can be read again. The reading of words undoes both
ways to do it (`spells_quoting_single`, `spells_listed`): what stands between two quotes is read as
quoted pieces, and what stands side by side as one word (`Spells.append`). A word of quoted pieces
stands for one argument: whatever the state of the shell, nothing of it is looked up, cut or taken
for a pattern (`expandWords_of_quotes`). So texts that were listed come back as they were
(`expandWords_wordOf`), even if they look like expansions, have blanks or quotes of their own, or are
empty.
-/

set_option autoImplicit false

namespace Scaffold.Script

open Quoting (single listed around backslashing alternating)

/-! ## Quoted pieces -/

/-- The word that is made of quoted texts. -/
def quoted (parts : List String) : Word := parts.map (.text · true)

/-- A word that stands for a text and nothing else: it has pieces, all of them are quoted texts, and
together they are that text. -/
def Quotes (text : List Char) (w : Word) : Prop :=
  ∃ parts, parts ≠ [] ∧ w = quoted parts ∧ parts.flatMap String.toList = text

/-- Wherever the characters stand in a word, they are read as quoted pieces that make up the text,
with at most one step for each of them. -/
def Spells (isBash : Bool) (place : Surroundings) (source text : List Char) : Prop :=
  ∃ front steps, Quotes text front ∧ steps ≤ source.length ∧
    ∀ fuel behind, readWord isBash place (fuel + steps) (source ++ behind) =
      (readWord isBash place fuel behind).map fun r => (front ++ r.1, r.2)

section Reading

variable {isBash : Bool} {place : Surroundings} {source source' text text' : List Char}

theorem Quotes.append {w w' : Word} (h : Quotes text w) (h' : Quotes text' w') :
    Quotes (text ++ text') (w ++ w') := by
  obtain ⟨parts, hparts, rfl, rfl⟩ := h
  obtain ⟨parts', -, rfl, rfl⟩ := h'
  exact ⟨parts ++ parts', List.append_ne_nil_of_left_ne_nil hparts parts',
    List.map_append.symm, List.flatMap_append⟩

theorem Quotes.single (part : List Char) : Quotes part [.text (String.ofList part) true] :=
  ⟨[String.ofList part], List.cons_ne_nil _ _, rfl, by simp⟩

/-- Parts that stand side by side make one word. -/
theorem Spells.append (h : Spells isBash place source text)
    (h' : Spells isBash place source' text') :
    Spells isBash place (source ++ source') (text ++ text') := by
  obtain ⟨front, steps, hfront, hsteps, hread⟩ := h
  obtain ⟨front', steps', hfront', hsteps', hread'⟩ := h'
  refine ⟨front ++ front', steps' + steps, hfront.append hfront', ?_, fun fuel behind => ?_⟩
  · rw [List.length_append]
    omega
  · rw [List.append_assoc, ← Nat.add_assoc, hread, hread']
    cases readWord isBash place fuel behind with
    | error sign => rfl
    | ok r => simp [Except.map]

/-- What is read in one step. -/
theorem Spells.of_readPiece {c : Char} {rest : List Char} {front : Word}
    (hplace : place.ends c = false) (hfront : Quotes text front)
    (h : ∀ behind, readPiece isBash place c (rest ++ behind)
      (readQuoted isBash ((rest ++ behind).length + 1)) = .ok (front, behind)) :
    Spells isBash place (c :: rest) text := by
  refine ⟨front, 1, hfront, by simp, fun fuel behind => ?_⟩
  rw [List.cons_append, readWord, hplace, if_neg Bool.false_ne_true, h]
  change (readWord isBash place fuel behind).bind _ = _
  cases readWord isBash place fuel behind with
  | error sign => rfl
  | ok r => rfl

/-- Quotes and backslashes end no word that is not between quotes itself. -/
theorem ends_eq_false (hplace : place.isQuoted = false) {c : Char}
    (hc : c ∈ ['\'', '"', '\\']) : place.ends c = false := by
  simp only [List.mem_cons, List.not_mem_nil, or_false] at hc
  cases place with
  | bare | expression | braces => rcases hc with rfl | rfl | rfl <;> rfl
  | quotes | quotedBraces | lines => cases hplace

theorem cutAt_append {stop : Char} {part : List Char} (h : stop ∉ part) (behind : List Char) :
    cutAt stop (part ++ stop :: behind) = some (part, behind) := by
  induction part with
  | nil => rw [List.nil_append, cutAt, if_pos rfl]
  | cons c part ih =>
    rw [List.mem_cons, not_or] at h
    rw [List.cons_append, cutAt, if_neg (Ne.symm h.1), ih h.2]
    rfl

/-- Between single quotes, every character but a single quote stands for itself. -/
theorem spells_single (hplace : place.isQuoted = false) {part : List Char} (h : '\'' ∉ part) :
    Spells isBash place ('\'' :: (part ++ ['\''])) part := by
  refine .of_readPiece (ends_eq_false hplace (by decide)) (.single part) fun behind => ?_
  rw [List.append_assoc, List.singleton_append]
  simp [readPiece, hplace, cutAt_append h]

/-- Behind a backslash, a single quote stands for itself. -/
theorem spells_backslash (hplace : place.isQuoted = false) :
    Spells isBash place ['\\', '\''] ['\''] := by
  refine .of_readPiece (ends_eq_false hplace (by decide)) (.single ['\'']) fun behind => ?_
  simp [readPiece, hplace]

theorem readQuoted_append {part : List Char} (h : ∀ c ∈ part, c = '\'') (behind : List Char)
    {fuel : Nat} (hfuel : part.length < fuel) :
    readQuoted isBash fuel (part ++ '"' :: behind) =
      .ok (quoted (part.map String.singleton), '"' :: behind) := by
  induction part generalizing fuel with
  | nil =>
    obtain ⟨fuel, rfl⟩ := Nat.exists_eq_add_of_lt hfuel
    rfl
  | cons c part ih =>
    obtain ⟨rfl, hpart⟩ := List.forall_mem_cons.1 h
    cases fuel with
    | zero => cases hfuel
    | succ fuel =>
      have hrest := ih hpart (Nat.lt_of_succ_lt_succ hfuel)
      rw [List.cons_append, readQuoted, if_neg (by decide)]
      change (readQuoted isBash fuel (part ++ '"' :: behind)).bind _ = _
      rw [hrest]
      rfl

/-- Between double quotes, single quotes stand for themselves. -/
theorem spells_double (hplace : place.isQuoted = false) {part : List Char}
    (h : ∀ c ∈ part, c = '\'') (hne : part ≠ []) :
    Spells isBash place ('"' :: (part ++ ['"'])) part := by
  refine .of_readPiece (ends_eq_false hplace (by decide))
    ⟨part.map String.singleton, by simpa using hne, rfl, by simp [List.flatMap_map]⟩ fun behind => ?_
  rw [List.append_assoc, List.singleton_append]
  have hroom : part.length < (part ++ '"' :: behind).length + 1 := by
    rw [List.length_append]
    omega
  have hread : readQuoted isBash ((part ++ '"' :: behind).length + 1) (part ++ '"' :: behind) =
      .ok (quoted (part.map String.singleton), '"' :: behind) := readQuoted_append h behind hroom
  have hlines : (place == .lines) = false := by cases place <;> first | rfl | cases hplace
  simp only [readPiece, hplace, hlines, hread, Bool.false_eq_true, if_false]
  change Except.ok (if (quoted (part.map String.singleton)).isEmpty then _ else _, behind) = _
  rw [if_neg (by simpa [quoted] using hne)]

/-- Between the quotes that a character is put between, all characters of its kind stand for
themselves. -/
theorem spells_around (hplace : place.isQuoted = false) {kind : Char} {part : List Char}
    (hpart : ∀ c ∈ part, around c = kind) (h : part ≠ [] ∨ kind = '\'') :
    Spells isBash place (kind :: (part ++ [kind])) part := by
  by_cases hkind : kind = '\''
  · subst hkind
    exact spells_single hplace fun hmem => nomatch hpart '\'' hmem
  · have hne := h.resolve_right hkind
    have hquote : ∀ c ∈ part, c = '\'' ∧ kind = '"' := by
      intro c hc
      have hc := hpart c hc
      by_cases hsingle : c = '\''
      · rw [hsingle] at hc
        exact ⟨hsingle, hc.symm⟩
      · rw [around, if_neg (by simpa using hsingle)] at hc
        exact absurd hc.symm hkind
    obtain ⟨c, hc⟩ := List.exists_mem_of_ne_nil part hne
    rw [(hquote c hc).2]
    exact spells_double hplace (fun c hc => (hquote c hc).1) hne

/-! ## Listed texts -/

/-- The quotes are closed and opened again at each quote of the text. -/
theorem spells_backslashing (hplace : place.isQuoted = false) {part : List Char}
    (hpart : '\'' ∉ part) (text : List Char) :
    Spells isBash place ('\'' :: (part ++ backslashing text)) (part ++ text) := by
  induction text generalizing part with
  | nil =>
    rw [backslashing, List.append_nil]
    exact spells_single hplace hpart
  | cons c text ih =>
    rw [backslashing]
    split
    next hc =>
      obtain rfl : c = '\'' := by simpa using hc
      have hclosed : Spells isBash place ('\'' :: (part ++ ['\''])) part :=
        spells_single hplace hpart
      have hall := (hclosed.append (spells_backslash hplace)).append (ih List.not_mem_nil)
      simpa using hall
    next hc =>
      have hlonger : '\'' ∉ part ++ [c] := by simp [hpart, Ne.symm (by simpa using hc)]
      simpa using ih hlonger

/-- The quotes are closed and others are opened at each character that those cannot hold. -/
theorem spells_alternating (hplace : place.isQuoted = false) {kind : Char} {part : List Char}
    (hpart : ∀ c ∈ part, around c = kind) (h : part ≠ [] ∨ kind = '\'') (text : List Char) :
    Spells isBash place (kind :: (part ++ alternating kind text)) (part ++ text) := by
  induction text generalizing kind part with
  | nil =>
    rw [alternating, List.append_nil]
    exact spells_around hplace hpart h
  | cons c text ih =>
    rw [alternating]
    split
    next hc =>
      obtain rfl : around c = kind := by simpa using hc
      have hlonger : ∀ c' ∈ part ++ [c], around c' = around c := by
        simpa [or_imp, forall_and] using hpart
      simpa using ih hlonger (.inl (by simp))
    next =>
      have hclosed : Spells isBash place (kind :: (part ++ [kind])) part :=
        spells_around hplace hpart h
      have hopened : ∀ c' ∈ [c], around c' = around c := by simp
      simpa using hclosed.append (ih hopened (.inl (by simp)))

/-- Whatever text the plain shell lists, it is spelled by that. -/
theorem spells_listed (hplace : place.isQuoted = false) (text : String) :
    Spells isBash place (listed text).toList text.toList := by
  rw [listed, String.toList_ofList]
  exact spells_alternating hplace (List.forall_mem_nil _) (.inr rfl) text.toList

/-- Whatever text is put between single quotes, it is spelled by that. -/
theorem spells_quoting_single (hplace : place.isQuoted = false) (text : String) :
    Spells isBash place (single text).toList text.toList := by
  rw [single]
  split
  next hquote =>
    obtain rfl : text = "'" := by simpa using hquote
    exact spells_backslash hplace
  next =>
    rw [String.toList_ofList]
    exact spells_backslashing hplace List.not_mem_nil text.toList

/-- What is spelled in front of the end of a word is that word. -/
theorem Spells.readWord (h : Spells isBash place source text) {behind : List Char}
    (hbehind : ∀ c ∈ behind.head?, place.ends c = true) {fuel : Nat}
    (hfuel : source.length < fuel) :
    ∃ w, readWord isBash place fuel (source ++ behind) = .ok (w, behind) ∧ Quotes text w := by
  obtain ⟨front, steps, hfront, hsteps, hread⟩ := h
  obtain ⟨more, rfl⟩ : ∃ more, fuel = more + 1 + steps := ⟨fuel - 1 - steps, by omega⟩
  have hend : Script.readWord isBash place (more + 1) behind = .ok ([], behind) := by
    cases behind with
    | nil => rfl
    | cons c behind => rw [Script.readWord, if_pos (hbehind c rfl)]
  refine ⟨front, ?_, hfront⟩
  rw [hread, hend]
  simp [Except.map]

theorem Spells.wordOf {listing text : String}
    (h : Spells isBash place listing.toList text.toList) :
    Quotes text.toList (wordOf isBash place listing) := by
  have hend : ∀ c ∈ ([] : List Char).head?, place.ends c = true := nofun
  obtain ⟨w, hread, hquotes⟩ :=
    h.readWord hend (Nat.lt_succ_of_le (Nat.le_of_eq String.length_toList))
  rw [List.append_nil] at hread
  rw [Script.wordOf, hread]
  exact hquotes

end Reading

/-! ## Expansion -/

section Expansion

variable {text : List Char} {w : Word} {s : Session}

theorem Quotes.untilded (h : Quotes text w) (s : Session) : untilded s w = w := by
  obtain ⟨parts, hparts, rfl, -⟩ := h
  cases parts with
  | nil => exact absurd rfl hparts
  | cons part parts =>
    rw [quoted, List.map_cons, Script.untilded]
    all_goals simp

theorem Quotes.braces_expand (h : Quotes text w) : Braces.expand w = [w] := by
  obtain ⟨parts, -, rfl, -⟩ := h
  have hwithin : ∀ fuel, Braces.expandWithin fuel (quoted parts) = [quoted parts] := by
    intro fuel
    induction parts generalizing fuel with
    | nil => cases fuel <;> rfl
    | cons part parts ih =>
      cases fuel with
      | zero => rfl
      | succ fuel =>
        have hrest := ih fuel
        simp only [quoted, List.map_cons] at hrest ⊢
        rw [Braces.expandWithin, hrest]
        · rfl
        · simp
  exact hwithin _

theorem expandPieces_quoted (hs : s.ended = false) {parts : List String} {fuel : Nat}
    (hfuel : parts.length < fuel) :
    expandPieces fuel (quoted parts) s = (parts.map (⟨·, true, false, false⟩), [], s) := by
  induction parts generalizing fuel with
  | nil => cases fuel <;> rfl
  | cons part parts ih =>
    cases fuel with
    | zero => cases hfuel
    | succ fuel =>
      have hrest := ih (Nat.lt_of_succ_lt_succ hfuel)
      simp only [quoted, List.map_cons] at hrest ⊢
      rw [expandPieces, hs, if_neg Bool.false_ne_true]
      cases fuel with
      | zero => cases Nat.lt_of_succ_lt_succ hfuel
      | succ fuel =>
        have hpiece : expandPiece (fuel + 1) (.text part true) s =
            ([⟨part, true, false, false⟩], [], s) := rfl
        rw [hpiece]
        dsimp only
        rw [hrest]
        rfl

/-- The characters of a quoted text. -/
def marked (text : List Char) : List Marked := text.map (·, true)

theorem add_add (c : Expansion.Cutting) (field behind : List Marked) :
    (c.add field).add behind = c.add (field ++ behind) := by
  simp [Expansion.Cutting.add]

/-- Quoted segments go on in one field. -/
theorem foldl_addSegment (separators : List Char) {parts : List String} (hparts : parts ≠ [])
    (c : Expansion.Cutting) :
    (parts.map (⟨·, true, false, false⟩)).foldl (Expansion.Cutting.addSegment separators) c =
      c.add (marked (parts.flatMap String.toList)) := by
  induction parts generalizing c with
  | nil => exact absurd rfl hparts
  | cons part parts ih =>
    have hfirst : c.addSegment separators ⟨part, true, false, false⟩ =
        c.add (marked part.toList) := by
      simp [Expansion.Cutting.addSegment, Segment.marked, marked]
    rw [List.map_cons, List.foldl_cons, hfirst]
    by_cases hlast : parts = []
    · simp [hlast]
    · rw [ih hlast, add_add, List.flatMap_cons, marked, marked, ← List.map_append, ← marked]

/-- A quoted field is no pattern. -/
theorem fieldTexts_marked (s : Session) (text : List Char) :
    Expansion.fieldTexts s (marked text) = [String.ofList text] := by
  have hpattern : Pattern.isPattern (marked text) = false := by
    simp [Pattern.isPattern, marked]
  have hplain : Pattern.plain (marked text) = String.ofList text := by
    simp [Pattern.plain, marked, Function.comp_def]
  rw [Expansion.fieldTexts, hpattern, hplain]
  rfl

theorem Quotes.expandEach (h : Quotes text w) (hs : s.ended = false) {fuel : Nat}
    (hfuel : w.length + 1 < fuel) : expandEach fuel [w] s = ([String.ofList text], [], s) := by
  cases fuel with
  | zero => cases hfuel
  | succ fuel =>
    rw [Script.expandEach, h.untilded]
    obtain ⟨parts, hparts, rfl, rfl⟩ := h
    rw [expandPieces_quoted hs (by simpa [quoted] using hfuel)]
    have hcut : Expansion.cut s.separators (parts.map (⟨·, true, false, false⟩)) =
        [marked (parts.flatMap String.toList)] := by
      rw [Expansion.cut, foldl_addSegment _ hparts]
      rfl
    have hnone : Script.expandEach fuel [] s = ([], [], s) := by cases fuel <;> rfl
    simp [hcut, fieldTexts_marked, hnone]

/-- Words that quote texts are expanded to these texts, whatever the state of the shell, and leave
it as it is. -/
theorem expandWords_of_quotes (hs : s.ended = false) {texts : List (List Char)} {words : List Word}
    (h : List.Forall₂ Quotes texts words) {fuel : Nat}
    (hfuel : ∀ w ∈ words, w.length + words.length + 2 ≤ fuel) :
    expandWords fuel words s = (texts.map String.ofList, [], s) := by
  induction h generalizing fuel with
  | nil => cases fuel <;> rfl
  | @cons text w texts words hw _ ih =>
    obtain ⟨hfirst, hrest⟩ := List.forall_mem_cons.1 hfuel
    cases fuel with
    | zero => omega
    | succ fuel =>
      rw [List.length_cons] at hfirst
      have hbound : ∀ w ∈ words, w.length + words.length + 2 ≤ fuel := by
        intro w hw
        have hlonger := hrest w hw
        rw [List.length_cons] at hlonger
        omega
      have hone : (if s.isBash then Braces.expand w else [w]) = [w] := by
        split
        · exact hw.braces_expand
        · rfl
      rw [expandWords, hs, if_neg Bool.false_ne_true, hone, hw.expandEach hs (by omega)]
      dsimp only
      rw [ih hbound]
      rfl

/-- Listed texts come back as they were: each one is read as a word, and the words are expanded to
the texts. -/
theorem expandWords_wordOf {write : String → String}
    (hwrite : ∀ text, Spells s.isBash .bare (write text).toList text.toList)
    (hs : s.ended = false) (texts : List String) {fuel : Nat}
    (hfuel : ∀ text ∈ texts,
      (wordOf s.isBash .bare (write text)).length + texts.length + 2 ≤ fuel) :
    expandWords fuel (texts.map fun text => wordOf s.isBash .bare (write text)) s =
      (texts, [], s) := by
  have hquotes : List.Forall₂ Quotes (texts.map String.toList)
      (texts.map fun text => wordOf s.isBash .bare (write text)) := by
    rw [List.forall₂_map_left_iff, List.forall₂_map_right_iff, List.forall₂_same]
    exact fun text _ => (hwrite text).wordOf
  rw [expandWords_of_quotes hs hquotes (by simpa using hfuel), List.map_map]
  simp [Function.comp_def]

end Expansion

end Scaffold.Script

import Mathlib.Data.List.Infix
import Scaffold.Occurrences

/-!
# Occurrences — where the leftmost one is

A cut finds something exactly where the pattern stands in the list (`cut_eq_none_iff`), and it finds
the first place where it does (`cut_eq_some_iff`). Whether that is the place where a pattern was put
depends on how the pattern overlaps itself. `cut_append_append` is about patterns of
which no end but the last element is a beginning: such a pattern, put behind a list, is found where
it was put, unless the list and the first element of the pattern contain it already. The pieces
between separators follow from cuts (`split_append_cons`), and so do the pieces around the leftmost
occurrences that do not overlap. These are also stated by places and not by the search (`Pieces`), so
that a search that misses an occurrence or finds one too late would not meet the statement; a list has
exactly one such division (`exists_pieces`).
-/

set_option autoImplicit false

namespace Scaffold.Occurrences

variable {α : Type} {pattern xs before after : List α}

/-- No end of the pattern is a beginning of it, but for the whole and for its last element. -/
def OverlapsAtMostByOne (pattern : List α) : Prop :=
  ∀ k, 0 < k → k + 1 < pattern.length → ¬ pattern.drop k <+: pattern

/-- A list that does not contain the pattern together with its first element does not begin with it
either, when the pattern stands behind. -/
theorem not_prefix_append_append (hoverlap : OverlapsAtMostByOne pattern) (hbefore : before ≠ [])
    (hfree : ¬ pattern <:+: before ++ pattern.take 1) :
    ¬ pattern <+: before ++ pattern ++ after := by
  intro hstarts
  rcases Nat.lt_or_ge (before.length + 1) pattern.length with hlong | hshort
  · -- the pattern covers the whole list and overlaps with the one that is behind it
    have hhead : before <+: pattern :=
      List.prefix_of_prefix_length_le (List.append_assoc _ _ _ ▸ List.prefix_append _ _) hstarts
        (by omega)
    obtain ⟨rest, rfl⟩ := hhead
    have hrest : rest <+: (before ++ rest) ++ after := by
      rw [List.append_assoc before, List.prefix_append_right_inj] at hstarts
      exact hstarts
    refine hoverlap before.length (List.length_pos_iff.2 hbefore) hlong ?_
    rw [List.drop_left]
    exact List.prefix_of_prefix_length_le hrest (List.prefix_append _ _)
      (by rw [List.length_append]; omega)
  · have hpattern : pattern.take 1 <+: pattern ++ after :=
      (List.take_prefix 1 pattern).trans (List.prefix_append _ _)
    have hahead : before ++ pattern.take 1 <+: before ++ pattern ++ after := by
      rw [List.append_assoc]
      exact (List.prefix_append_right_inj before).2 hpattern
    refine hfree (List.IsPrefix.isInfix (List.prefix_of_prefix_length_le hstarts hahead ?_))
    rw [List.length_append, List.length_take]
    omega

/-! ## Pieces around the leftmost occurrences -/

/-- The pieces of a list around the leftmost occurrences of a pattern that do not overlap: those in
front of an occurrence, and the last one. -/
inductive Pieces (pattern : List α) : List α → List (List α) → List α → Prop
  /-- Without an occurrence the list is the last piece. -/
  | last {xs : List α} (hfree : ¬ pattern <:+: xs) : Pieces pattern xs [] xs
  /-- The first piece ends where the pattern stands first; the next ones lie behind it. -/
  | next {front rest last : List α} {fronts : List (List α)}
      (hfirst : ∀ k < front.length, ¬ pattern <+: (front ++ pattern ++ rest).drop k)
      (hrest : Pieces pattern rest fronts last) :
      Pieces pattern (front ++ pattern ++ rest) (front :: fronts) last

/-- A piece in front of the first occurrence does not contain the pattern. -/
theorem not_infix_front {pattern front rest : List α} (hpattern : pattern ≠ [])
    (hfirst : ∀ k < front.length, ¬ pattern <+: (front ++ pattern ++ rest).drop k) :
    ¬ pattern <:+: front := by
  rintro ⟨before, after, rfl⟩
  refine hfirst before.length ?_ ⟨after ++ pattern ++ rest, ?_⟩
  · have := List.length_pos_iff.2 hpattern
    simp only [List.length_append]
    omega
  · simp only [List.append_assoc, List.drop_left]

theorem Pieces.free {pattern xs last : List α} {fronts : List (List α)} (hpattern : pattern ≠ [])
    (h : Pieces pattern xs fronts last) :
    (∀ front ∈ fronts, ¬ pattern <:+: front) ∧ ¬ pattern <:+: last := by
  induction h with
  | last hfree => exact ⟨fun _ hmem => absurd hmem List.not_mem_nil, hfree⟩
  | next hfirst _ ih =>
    refine ⟨fun piece hmem => ?_, ih.2⟩
    rcases List.mem_cons.1 hmem with rfl | hbehind
    · exact not_infix_front hpattern hfirst
    · exact ih.1 piece hbehind

/-- Pieces put together again, with something between neighbours. -/
def rejoined (between : List α) (fronts : List (List α)) (last : List α) : List α :=
  fronts.flatMap (· ++ between) ++ last

@[simp] theorem rejoined_cons (between front last : List α) (fronts : List (List α)) :
    rejoined between (front :: fronts) last = front ++ between ++ rejoined between fronts last := by
  simp only [rejoined, List.flatMap_cons, List.append_assoc]

/-- The pieces with the pattern between them are the list. -/
theorem Pieces.rejoined_eq {pattern xs last : List α} {fronts : List (List α)}
    (h : Pieces pattern xs fronts last) : rejoined pattern fronts last = xs := by
  induction h with
  | last => rfl
  | next _ _ ih => rw [rejoined_cons, ih]

/-! ## Cuts -/

variable [BEq α] [LawfulBEq α]

theorem isPrefixOf?_append (pattern after : List α) :
    pattern.isPrefixOf? (pattern ++ after) = some after := by
  induction pattern with
  | nil => rfl
  | cons p ps ih =>
    rw [List.cons_append, List.isPrefixOf?, beq_self_eq_true, if_pos rfl]
    exact ih

theorem isPrefixOf?_eq_none (h : ¬ pattern <+: xs) : pattern.isPrefixOf? xs = none := by
  cases hcut : pattern.isPrefixOf? xs with
  | none => rfl
  | some after => exact absurd ⟨after, (eq_append_of_isPrefixOf? hcut).symm⟩ h

/-- There is nothing to cut exactly where the pattern does not stand in the list. -/
theorem cut_eq_none_iff (hpattern : pattern ≠ []) : cut pattern xs = none ↔ ¬ pattern <:+: xs := by
  constructor
  · rintro hcut ⟨before, after, rfl⟩
    induction before with
    | nil =>
      cases pattern with
      | nil => exact hpattern rfl
      | cons p ps =>
        rw [List.nil_append, List.cons_append, cut, ← List.cons_append, isPrefixOf?_append] at hcut
        cases hcut
    | cons x before ih =>
      rw [List.cons_append, List.cons_append, cut] at hcut
      split at hcut
      · cases hcut
      · exact ih (Option.map_eq_none_iff.1 hcut)
  · intro hfree
    cases hcut : cut pattern xs with
    | none => rfl
    | some parts =>
      obtain ⟨before, after⟩ := parts
      exact absurd ⟨before, after, (eq_append_of_cut hcut).symm⟩ hfree

/-- The pattern is found where it was put. -/
theorem cut_append_append (hpattern : pattern ≠ []) (hoverlap : OverlapsAtMostByOne pattern)
    (hfree : ¬ pattern <:+: before ++ pattern.take 1) :
    cut pattern (before ++ pattern ++ after) = some (before, after) := by
  induction before with
  | nil =>
    cases pattern with
    | nil => exact absurd rfl hpattern
    | cons p ps =>
      rw [List.nil_append, List.cons_append, cut, ← List.cons_append, isPrefixOf?_append]
  | cons x before ih =>
    have hrest : ¬ pattern <:+: before ++ pattern.take 1 := fun hcontains =>
      hfree (hcontains.trans (List.suffix_cons x _).isInfix)
    have hnone : pattern.isPrefixOf? (x :: before ++ pattern ++ after) = none := isPrefixOf?_eq_none
      (not_prefix_append_append hoverlap (List.cons_ne_nil x before) hfree)
    rw [List.cons_append, List.cons_append] at hnone ⊢
    rw [cut, hnone, ih hrest]
    rfl

/-- A cut is made at the first place at which the pattern stands. -/
theorem cut_eq_some_iff : cut pattern xs = some (before, after) ↔
    xs = before ++ pattern ++ after ∧ ∀ k < before.length, ¬ pattern <+: xs.drop k := by
  constructor
  · intro hcut
    refine ⟨eq_append_of_cut hcut, ?_⟩
    induction xs generalizing before with
    | nil =>
      rw [cut] at hcut
      split at hcut
      · cases hcut
        exact fun k hk => absurd hk (Nat.not_lt_zero k)
      · cases hcut
    | cons x xs ih =>
      rw [cut] at hcut
      split at hcut
      · cases hcut
        exact fun k hk => absurd hk (Nat.not_lt_zero k)
      next hhead =>
        obtain ⟨⟨before', after'⟩, hrest, heq⟩ := Option.map_eq_some_iff.1 hcut
        cases heq
        intro k hk
        cases k with
        | zero =>
          rintro ⟨behind, hstarts⟩
          rw [List.drop_zero] at hstarts
          rw [← hstarts, isPrefixOf?_append] at hhead
          cases hhead
        | succ k => exact ih hrest k (Nat.lt_of_succ_lt_succ hk)
  · rintro ⟨rfl, hfirst⟩
    induction before with
    | nil =>
      cases pattern with
      | nil => cases after <;> rfl
      | cons p ps =>
        rw [List.nil_append, List.cons_append, cut, ← List.cons_append, isPrefixOf?_append]
    | cons x before ih =>
      have hhead : pattern.isPrefixOf? (x :: before ++ pattern ++ after) = none :=
        isPrefixOf?_eq_none (hfirst 0 (Nat.succ_pos _))
      have hrest := ih fun k hk => hfirst (k + 1) (Nat.succ_lt_succ hk)
      rw [List.cons_append, List.cons_append] at hhead ⊢
      rw [cut, hhead, hrest]
      rfl

/-! ## Pieces between separators -/

theorem split_of_cut_none (hcut : cut pattern xs = none) : split pattern xs = [xs] := by
  rw [split]
  split
  · rfl
  · split
    next => rfl
    next hsome => rw [hcut] at hsome; cases hsome

theorem split_of_cut_some (hpattern : pattern ≠ []) (hcut : cut pattern xs = some (before, after)) :
    split pattern xs = before :: split pattern after := by
  rw [split, dif_neg hpattern]
  split
  next hnone => rw [hcut] at hnone; cases hnone
  next hsome =>
    rw [hcut] at hsome
    cases hsome
    rfl

theorem split_ne_nil (pattern xs : List α) : split pattern xs ≠ [] := by
  rw [split]
  split
  · exact List.cons_ne_nil _ _
  · split <;> exact List.cons_ne_nil _ _

variable {separator : α}

/-- A separator ends a piece. -/
theorem split_cons_self (xs : List α) :
    split [separator] (separator :: xs) = [] :: split [separator] xs := by
  have hstart : [separator].isPrefixOf? (separator :: xs) = some xs :=
    isPrefixOf?_append [separator] xs
  exact split_of_cut_some (List.cons_ne_nil _ _) (by rw [cut, hstart])

/-- What is no separator belongs to the first piece. -/
theorem split_cons_of_ne {x : α} (hx : separator ≠ x) (xs : List α) :
    split [separator] (x :: xs) = (split [separator] xs).modifyHead (x :: ·) := by
  have hcut : cut [separator] (x :: xs) =
      (cut [separator] xs).map (Prod.map (x :: ·) id) := by
    rw [cut, isPrefixOf?_eq_none fun h => hx (List.cons_prefix_cons.1 h).1]
    rfl
  cases hrest : cut [separator] xs with
  | none =>
    rw [hrest] at hcut
    rw [split_of_cut_none hcut, split_of_cut_none hrest]
    rfl
  | some parts =>
    obtain ⟨before, after⟩ := parts
    rw [hrest] at hcut
    rw [split_of_cut_some (List.cons_ne_nil _ _) hcut,
      split_of_cut_some (List.cons_ne_nil _ _) hrest]
    rfl

/-- The pieces on both sides of a separator are found apart from each other. -/
theorem split_append_cons (xs ys : List α) :
    split [separator] (xs ++ separator :: ys) =
      split [separator] xs ++ split [separator] ys := by
  induction xs with
  | nil =>
    have hnil : split [separator] [] = [[]] := split_of_cut_none rfl
    rw [List.nil_append, split_cons_self, hnil]
    rfl
  | cons x xs ih =>
    rw [List.cons_append]
    by_cases hx : separator = x
    · subst hx
      rw [split_cons_self, split_cons_self, ih]
      rfl
    · rw [split_cons_of_ne hx, split_cons_of_ne hx, ih]
      cases hpieces : split [separator] xs with
      | nil => exact absurd hpieces (split_ne_nil _ xs)
      | cons piece pieces => rfl

/-! ## Division into pieces -/

/-- A list is divided in one way, and in no other. -/
theorem exists_pieces {pattern : List α} (hpattern : pattern ≠ []) (xs : List α) :
    ∃ fronts last, ∀ fronts' last',
      Pieces pattern xs fronts' last' ↔ fronts' = fronts ∧ last' = last := by
  cases hcut : cut pattern xs with
  | none =>
    have hfree := (cut_eq_none_iff hpattern).1 hcut
    refine ⟨[], xs, fun fronts' last' => ⟨fun h => ?_, ?_⟩⟩
    · cases h with
      | last => exact ⟨rfl, rfl⟩
      | next => exact absurd ⟨_, _, rfl⟩ hfree
    · rintro ⟨rfl, rfl⟩
      exact .last hfree
  | some parts =>
    obtain ⟨front, rest⟩ := parts
    obtain ⟨rfl, hfirst⟩ := cut_eq_some_iff.1 hcut
    have : rest.length < (front ++ pattern ++ rest).length := by
      have := List.length_pos_iff.2 hpattern
      simp only [List.length_append]
      omega
    obtain ⟨fronts, last, hpieces⟩ := exists_pieces hpattern rest
    refine ⟨front :: fronts, last, fun fronts' last' => ⟨fun h => ?_, ?_⟩⟩
    · -- another division cuts at the same place, because both cut at the first
      generalize hxs : front ++ pattern ++ rest = xs at h hcut
      cases h with
      | last hfree => exact absurd ⟨_, _, hxs⟩ hfree
      | next hfirst' hrest' =>
        have hsame := hcut.symm.trans (cut_eq_some_iff.2 ⟨rfl, hfirst'⟩)
        cases hsame
        obtain ⟨rfl, rfl⟩ := (hpieces _ _).1 hrest'
        exact ⟨rfl, rfl⟩
    · rintro ⟨rfl, rfl⟩
      exact .next hfirst ((hpieces _ _).2 ⟨rfl, rfl⟩)
termination_by xs.length

/-- A list is split into its pieces. -/
theorem split_of_pieces {pattern xs last : List α} {fronts : List (List α)}
    (hpattern : pattern ≠ []) (h : Pieces pattern xs fronts last) :
    split pattern xs = fronts ++ [last] := by
  induction h with
  | last hfree => exact split_of_cut_none ((cut_eq_none_iff hpattern).2 hfree)
  | next hfirst _ ih =>
    rw [split_of_cut_some hpattern (cut_eq_some_iff.2 ⟨rfl, hfirst⟩), ih, List.cons_append]

/-- The first place from which on the list begins with the pattern. -/
def place? (pattern xs : List α) : Option Nat :=
  xs.tails.findIdx? fun tail => tail.take pattern.length == pattern

/-- Cutting and looking for the first place find the same. -/
theorem place?_eq_cut {pattern : List α} (hpattern : pattern ≠ []) (xs : List α) :
    place? pattern xs = (cut pattern xs).map fun parts => parts.1.length := by
  cases hcut : cut pattern xs with
  | none =>
    have hfree := (cut_eq_none_iff hpattern).1 hcut
    refine List.findIdx?_eq_none_iff.2 fun tail htail => beq_eq_false_iff_ne.2 fun hstands => ?_
    have hbegins : pattern <+: tail := List.prefix_iff_eq_take.2 hstands.symm
    exact hfree (hbegins.isInfix.trans ((List.mem_tails _ _).1 htail).isInfix)
  | some parts =>
    obtain ⟨front, rest⟩ := parts
    obtain ⟨hxs, hfirst⟩ := cut_eq_some_iff.1 hcut
    have hplace : front.length < xs.tails.length := by
      rw [List.length_tails, hxs]
      simp only [List.length_append]
      omega
    refine List.findIdx?_eq_some_iff_getElem.2 ⟨hplace, ?_, fun k hk hstands => ?_⟩
    · rw [List.getElem_tails, hxs, List.append_assoc, List.drop_left, List.take_left]
      exact beq_self_eq_true pattern
    · rw [List.getElem_tails, beq_iff_eq] at hstands
      exact hfirst k hk (List.prefix_iff_eq_take.2 hstands.symm)

end Scaffold.Occurrences

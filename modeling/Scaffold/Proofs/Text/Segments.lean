import Scaffold.Expr.Library
import Scaffold.Proofs.Occurrences
import Scaffold.Text.Segments

/-!
# Segments — what is selected from the front and from the end

A separator divides a text into the pieces around its leftmost occurrences that do not overlap. A
position counts pieces from the front, or from the end if it is negative. So a position and the one
that is smaller by the number of pieces select what lies on the two sides of one separator:
together, with a dot between them, they are the text with a dot for every separator
(`select_complements`). This also holds where the separator overlaps itself and where pieces are
empty, because both sides are taken from one division.
-/

set_option autoImplicit false

namespace Scaffold.Text

open Scaffold.Expr (Params)
open Occurrences (Pieces rejoined rejoined_cons exists_pieces split_of_pieces)

/-! ## Dotted pieces -/

@[simp] theorem dotted_singleton (part : List Char) : dotted [part] = part :=
  List.intercalate_singleton

theorem dotted_cons (part : List Char) {parts : List (List Char)} (h : parts ≠ []) :
    dotted (part :: parts) = part ++ '.' :: dotted parts := by
  rw [dotted, List.intercalate_cons_of_ne_nil h, List.append_assoc, List.singleton_append, dotted]

/-- Pieces that are dotted in two parts have one more dot between the parts. -/
theorem dotted_append {front behind : List (List Char)} (hfront : front ≠ [])
    (hbehind : behind ≠ []) : dotted (front ++ behind) = dotted front ++ '.' :: dotted behind := by
  induction front with
  | nil => exact absurd rfl hfront
  | cons part front ih =>
    rw [List.cons_append, dotted_cons part (List.append_ne_nil_of_right_ne_nil front hbehind)]
    by_cases hrest : front = []
    · subst hrest
      rw [List.nil_append, dotted_singleton]
    · rw [ih hrest, dotted_cons part hrest, List.append_assoc, List.cons_append]

theorem dotted_concat (fronts : List (List Char)) (last : List Char) :
    dotted (fronts ++ [last]) = rejoined ['.'] fronts last := by
  induction fronts with
  | nil => exact dotted_singleton last
  | cons front fronts ih =>
    have hrest : fronts ++ [last] ≠ [] := List.concat_ne_nil last fronts
    rw [List.cons_append, dotted_cons front hrest, ih, rejoined_cons, List.append_assoc,
      List.singleton_append]

/-! ## Selected pieces -/

section Selecting

variable {flag value : String} {parts : List (List Char)}

/-- As many pieces as there are, or more, select nothing. -/
theorem select_of_length_le (hparts : segments flag value = parts) {position : Int}
    (h : parts.length ≤ position.natAbs) : select position flag value = "" := by
  rw [select]
  split
  · rfl
  · dsimp only
    rw [hparts, if_pos (by omega)]

/-- A position among the pieces selects those in front of it. -/
theorem select_front (hflag : flag ≠ "") (hparts : segments flag value = parts) {p : Nat}
    (hpos : 1 ≤ p) (hlt : p < parts.length) :
    select p flag value = String.ofList (dotted (parts.take p)) := by
  have hcount : max (p : Int).natAbs 1 = p := by omega
  rw [select, if_neg (mt String.isEmpty_iff.1 hflag)]
  dsimp only
  rw [hparts, hcount, if_neg (by omega), if_pos (by omega)]

/-- The position that is smaller by the number of pieces selects those behind it. -/
theorem select_behind (hflag : flag ≠ "") (hparts : segments flag value = parts) {p : Nat}
    (hpos : 1 ≤ p) (hlt : p < parts.length) :
    select ((p : Int) - parts.length) flag value = String.ofList (dotted (parts.drop p)) := by
  have hcount : max ((p : Int) - parts.length).natAbs 1 = parts.length - p := by omega
  have hdrop : parts.length - (parts.length - p) = p := by omega
  rw [select, if_neg (mt String.isEmpty_iff.1 hflag)]
  dsimp only
  rw [hparts, hcount, if_neg (by omega), if_neg (by omega), hdrop]

/-- What lies on the two sides of a place between pieces are all pieces. -/
theorem select_front_append_behind (hflag : flag ≠ "") (hparts : segments flag value = parts)
    {p : Nat} (hpos : 1 ≤ p) (hlt : p < parts.length) :
    select p flag value ++ "." ++ select ((p : Int) - parts.length) flag value =
      String.ofList (dotted parts) := by
  have htake : parts.take p ≠ [] := List.ne_nil_of_length_pos (by rw [List.length_take]; omega)
  have hdrop : parts.drop p ≠ [] := List.ne_nil_of_length_pos (by rw [List.length_drop]; omega)
  have hdotted := dotted_append htake hdrop
  rw [List.take_append_drop] at hdotted
  rw [select_front hflag hparts hpos hlt, select_behind hflag hparts hpos hlt, hdotted,
    String.ofList_append, String.append_assoc, ← List.singleton_append, String.ofList_append]

end Selecting

/-- The function of expressions hands every position of 64 bits on. -/
theorem substrByFlag_eq {position : Int} (hposition : Expr.fits 64 position = true) (signed : Bool)
    (flag value : String) :
    Expr.Library.substrByFlag ⟨[.int position signed, .text flag, .text value], none⟩ =
      .ok (.text (select position flag value)) := by
  refine Params.positional_of_run ?_
  simp only [StateT.run_bind, Params.run_takeAs, Params.asInt_int hposition, Params.asText_text,
    StateT.run_pure, pure_bind]

/-- A text is divided by a separator in one way. A position with pieces on both sides selects those
in front of it, and the position that is smaller by the number of pieces selects those behind it, so
that both with a dot between them are the text with a dot for every separator. Position zero counts
as one, and a position that leaves out no piece selects nothing, from either end and however far
beyond it. -/
theorem select_complements {flag : String} (hflag : flag ≠ "") (value : String) :
    ∃ fronts last,
      (∀ fronts' last', Pieces flag.toList value.toList fronts' last' ↔
        fronts' = fronts ∧ last' = last) ∧
      value = String.ofList (rejoined flag.toList fronts last) ∧
      (∀ p : Nat, 1 ≤ p → p < fronts.length + 1 →
        select p flag value ++ "." ++ select ((p : Int) - (fronts.length + 1 : Nat)) flag value =
          String.ofList (rejoined ['.'] fronts last)) ∧
      select 0 flag value = select 1 flag value ∧
      (∀ position : Int, fronts.length + 1 ≤ position.natAbs → select position flag value = "") ∧
      ∀ (position : Int) (signed : Bool), Expr.fits 64 position = true →
        Expr.Library.substrByFlag ⟨[.int position signed, .text flag, .text value], none⟩ =
          .ok (.text (select position flag value)) := by
  have hpattern : flag.toList ≠ [] := mt String.toList_eq_nil_iff.1 hflag
  obtain ⟨fronts, last, hpieces⟩ := exists_pieces hpattern value.toList
  have hdivided := (hpieces fronts last).2 ⟨rfl, rfl⟩
  have hparts : segments flag value = fronts ++ [last] := split_of_pieces hpattern hdivided
  have hlength : (fronts ++ [last]).length = fronts.length + 1 := List.length_append
  refine ⟨fronts, last, hpieces, ?_, fun p hpos hlt => ?_, rfl, fun position h => ?_,
    fun position signed hposition => substrByFlag_eq hposition signed flag value⟩
  · rw [hdivided.rejoined_eq, String.ofList_toList]
  · rw [← hlength, select_front_append_behind hflag hparts hpos (hlength ▸ hlt), dotted_concat]
  · exact select_of_length_le hparts (hlength ▸ h)

/-- A separator that overlaps itself and stands first divides three pieces, of which the first is
empty. -/
theorem select_complements_overlapping :
    "aa" ≠ "" ∧ select 2 "aa" "aaabaaac" = ".ab" ∧ select (-1) "aa" "aaabaaac" = "ac" ∧
      select 2 "aa" "aaabaaac" ++ "." ++ select (-1) "aa" "aaabaaac" = ".ab.ac" ∧
      select (-9223372036854775808) "aa" "aaabaaac" = "" := by
  have hflag : "aa" ≠ "" := by decide
  obtain ⟨fronts, last, hpieces, -, hcomplement, -, hbeyond, -⟩ :=
    select_complements hflag "aaabaaac"
  have hfirst : ∀ k < ([] : List Char).length, ¬ "aa".toList <+:
      ([] ++ "aa".toList ++ (['a', 'b'] ++ "aa".toList ++ ['a', 'c'])).drop k := by decide
  have hsecond : ∀ k < ['a', 'b'].length, ¬ "aa".toList <+:
      (['a', 'b'] ++ "aa".toList ++ ['a', 'c']).drop k := by decide
  have hdivided : Pieces "aa".toList "aaabaaac".toList [[], ['a', 'b']] ['a', 'c'] :=
    .next hfirst (.next hsecond (.last (by decide)))
  obtain ⟨rfl, rfl⟩ := (hpieces _ _).1 hdivided
  exact ⟨hflag, by decide +kernel, by decide +kernel, hcomplement 2 (by decide) (by decide),
    hbeyond _ (by decide)⟩

end Scaffold.Text

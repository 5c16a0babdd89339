/-!
# Occurrences — where a pattern stands in a list

`cut` finds the leftmost occurrence of a pattern, `split` the pieces between all leftmost
non-overlapping ones. Both lose nothing: putting the pattern back gives the list again.
-/

set_option autoImplicit false

namespace Scaffold.Occurrences

variable {α : Type} [BEq α]

/-- What stands before and after the leftmost occurrence of `pattern`. -/
def cut (pattern : List α) : List α → Option (List α × List α)
  | [] => if pattern.isEmpty then some ([], []) else none
  | x :: xs =>
    match pattern.isPrefixOf? (x :: xs) with
    | some after => some ([], after)
    | none => (cut pattern xs).map fun (before, after) => (x :: before, after)

/-- The pattern stands somewhere in the list. -/
def occurs (pattern xs : List α) : Bool :=
  (cut pattern xs).isSome

theorem eq_append_of_isPrefixOf? [LawfulBEq α] {pattern xs after : List α}
    (h : pattern.isPrefixOf? xs = some after) : xs = pattern ++ after := by
  induction pattern generalizing xs with
  | nil => exact Option.some.inj h
  | cons p ps ih =>
    cases xs with
    | nil => exact nomatch (show none = some after from h)
    | cons y ys =>
      change (if p == y then ps.isPrefixOf? ys else none) = some after at h
      split at h
      next hp => simp [ih h, eq_of_beq hp]
      next => simp at h

/-- A cut loses nothing. -/
theorem eq_append_of_cut [LawfulBEq α] {pattern xs before after : List α}
    (h : cut pattern xs = some (before, after)) : xs = before ++ pattern ++ after := by
  induction xs generalizing before with
  | nil =>
    simp only [cut] at h
    split at h
    next hp => simp_all
    next => simp at h
  | cons x xs ih =>
    simp only [cut] at h
    split at h
    next after' hp =>
      simp only [Option.some.injEq, Prod.mk.injEq] at h
      simp [← h.1, ← h.2, eq_append_of_isPrefixOf? hp]
    next =>
      simp only [Option.map_eq_some_iff, Prod.mk.injEq, Prod.exists] at h
      obtain ⟨b, a, hba, rfl, rfl⟩ := h
      simp [ih hba]

/-- The pieces between the leftmost non-overlapping occurrences of `pattern`; an empty pattern
divides nothing. -/
def split [LawfulBEq α] (pattern : List α) (xs : List α) : List (List α) :=
  if _hp : pattern = [] then [xs]
  else
    match _h : cut pattern xs with
    | none => [xs]
    | some (before, after) => before :: split pattern after
termination_by xs.length
decreasing_by
  have hlen := congrArg List.length (eq_append_of_cut _h)
  have : 0 < pattern.length := List.length_pos_iff.2 _hp
  simp only [List.length_append] at hlen
  omega

end Scaffold.Occurrences

import Scaffold.Proofs.OrderedMap
import Scaffold.Range

/-!
# Range — the combinations of a range

A walk binds names for the levels that it opens and removes them again. It acts on the combinations
in turn (`seen`), and at the end the names of those levels are gone and all others are as they were,
whatever came of the walk (`walk_of_full`); where a source has no elements, it does not act at all
(`walk_of_empty`). If none of these names was bound before (`IsFree`), each combination sees nothing
but its own elements (`rows`), and the names are afterwards what they were before (`walk_eq`).
-/

set_option autoImplicit false

namespace Scaffold

open Scaffold.Expr (Value)

namespace Range

/-! ## The names of levels -/

theorem keyName_injective {m n : Nat} (h : keyName m = keyName n) : m = n :=
  Decimal.toString_injective ((String.append_right_inj "k").1 h)

theorem valueName_injective {m n : Nat} (h : valueName m = valueName n) : m = n :=
  Decimal.toString_injective ((String.append_right_inj "v").1 h)

theorem keyName_ne_valueName (m n : Nat) : keyName m ≠ valueName n := by
  intro h
  have hfirst := congrArg (·.toList.head?) h
  simp [keyName, valueName] at hfirst

/-- No name of a level from some level on is bound. -/
def IsFree (level : Nat) (names : Bindings) : Prop :=
  ∀ n, level ≤ n → keyName n ∉ names.keys ∧ valueName n ∉ names.keys

/-- The names of every run leave those of ranges free. -/
theorem isFree_standard (p : Project) : IsFree 0 (Bindings.standard p) := by
  have hkeys : (Bindings.standard p).keys = ["Project", "top", "this"] := rfl
  have hfirst : ∀ name ∈ ["Project", "top", "this"],
      name.toList.head? ≠ some 'k' ∧ name.toList.head? ≠ some 'v' := by decide
  intro n _
  rw [hkeys]
  constructor
  · intro hmem
    exact (hfirst _ hmem).1 (by simp [keyName])
  · intro hmem
    exact (hfirst _ hmem).2 (by simp [valueName])

/-- Binding a level that is free adds its two names at the end. -/
theorem entries_bindLevel {level : Nat} {names : Bindings} (hfree : IsFree level names)
    (entry : Value × Value) :
    (bindLevel level entry names).entries =
      names.entries ++ [(keyName level, entry.1), (valueName level, entry.2)] := by
  obtain ⟨hkey, hvalue⟩ := hfree level (Nat.le_refl level)
  have hset : (names.set (keyName level) entry.1).entries =
      names.entries ++ [(keyName level, entry.1)] := OrderedMap.setEntry_of_not_mem _ _ hkey
  rw [bindLevel, OrderedMap.entries_set, hset,
    OrderedMap.setEntry_append_of_not_mem _ _ hvalue, OrderedMap.setEntry,
    if_neg (keyName_ne_valueName level level)]
  rfl

/-- Binding a level again replaces what it was bound to. -/
theorem bindLevel_bindLevel {level : Nat} {names : Bindings} (hfree : IsFree level names)
    (entry entry' : Value × Value) :
    bindLevel level entry' (bindLevel level entry names) = bindLevel level entry' names := by
  obtain ⟨hkey, hvalue⟩ := hfree level (Nat.le_refl level)
  refine OrderedMap.ext ?_
  rw [entries_bindLevel hfree entry', bindLevel, OrderedMap.entries_set, OrderedMap.entries_set,
    entries_bindLevel hfree entry, OrderedMap.setEntry_append_of_not_mem _ _ hkey,
    OrderedMap.setEntry_append_of_not_mem _ _ hvalue, OrderedMap.setEntry, if_pos rfl,
    OrderedMap.setEntry, if_neg (keyName_ne_valueName level level), OrderedMap.setEntry,
    if_pos rfl]

/-- Binding a level leaves those below it free. -/
theorem IsFree.bindLevel {level : Nat} {names : Bindings} (hfree : IsFree level names)
    (entry : Value × Value) : IsFree (level + 1) (Range.bindLevel level entry names) := by
  intro n hn
  obtain ⟨hkey, hvalue⟩ := hfree n (Nat.le_of_succ_le hn)
  have hkeys : (Range.bindLevel level entry names).keys =
      names.keys ++ [keyName level, valueName level] := by
    rw [OrderedMap.keys, entries_bindLevel hfree, List.map_append]
    rfl
  rw [hkeys]
  constructor
  · intro hmem
    rcases List.mem_append.1 hmem with hmem | hmem
    · exact hkey hmem
    · rcases List.mem_cons.1 hmem with heq | hmem
      · exact absurd (keyName_injective heq) (by omega)
      · exact keyName_ne_valueName n level (List.mem_singleton.1 hmem)
  · intro hmem
    rcases List.mem_append.1 hmem with hmem | hmem
    · exact hvalue hmem
    · rcases List.mem_cons.1 hmem with heq | hmem
      · exact keyName_ne_valueName level n heq.symm
      · exact absurd (valueName_injective (List.mem_singleton.1 hmem)) (by omega)

/-! ## Several levels -/

/-- The name is one of those of some levels. -/
def isNameOf (levels : List Nat) (name : String) : Bool :=
  levels.any fun level => name == keyName level || name == valueName level

/-- Removes the names of levels. -/
def unbindLevels (levels : List Nat) (names : Bindings) : Bindings :=
  levels.foldr unbindLevel names

theorem isNameOf_iff {levels : List Nat} {name : String} :
    isNameOf levels name = true ↔
      ∃ level ∈ levels, name = keyName level ∨ name = valueName level := by
  simp [isNameOf]

theorem entries_unbindLevels (levels : List Nat) (names : Bindings) :
    (unbindLevels levels names).entries =
      names.entries.filter fun entry => !isNameOf levels entry.1 := by
  induction levels with
  | nil => exact (List.filter_eq_self.2 fun _ _ => rfl).symm
  | cons level levels ih =>
    rw [unbindLevels, List.foldr_cons, unbindLevel, OrderedMap.entries_erase,
      OrderedMap.entries_erase]
    change List.filter _ (List.filter _ (unbindLevels levels names).entries) = _
    rw [ih, List.filter_filter, List.filter_filter]
    refine List.filter_congr fun entry _ => ?_
    simp [isNameOf, bne, Bool.and_comm, Bool.and_assoc]

/-- Names that are removed can be bound at will before. -/
theorem unbindLevels_bindLevel {levels : List Nat} {level : Nat} (h : level ∈ levels)
    (entry : Value × Value) (names : Bindings) :
    unbindLevels levels (bindLevel level entry names) = unbindLevels levels names := by
  have hkey : isNameOf levels (keyName level) = true := isNameOf_iff.2 ⟨level, h, .inl rfl⟩
  have hvalue : isNameOf levels (valueName level) = true := isNameOf_iff.2 ⟨level, h, .inr rfl⟩
  refine OrderedMap.ext ?_
  rw [entries_unbindLevels, entries_unbindLevels, bindLevel, OrderedMap.entries_set,
    OrderedMap.entries_set, OrderedMap.filter_setEntry (fun _ => by simp [hvalue]),
    OrderedMap.filter_setEntry (fun _ => by simp [hkey])]

/-- Removing names before does not matter if they are removed anyway. -/
theorem unbindLevels_cons_unbindLevels (level : Nat) (levels : List Nat) (names : Bindings) :
    unbindLevels (level :: levels) (unbindLevels levels names) =
      unbindLevels (level :: levels) names := by
  refine OrderedMap.ext ?_
  rw [entries_unbindLevels, entries_unbindLevels, entries_unbindLevels, List.filter_filter]
  refine List.filter_congr fun entry _ => ?_
  have hcons : isNameOf (level :: levels) entry.1 =
      (isNameOf [level] entry.1 || isNameOf levels entry.1) := by
    simp [isNameOf]
  rw [hcons]
  cases isNameOf levels entry.1 <;> simp

/-- Removing names that are not bound changes nothing. -/
theorem unbindLevels_eq_self {levels : List Nat} {names : Bindings}
    (h : ∀ name ∈ names.keys, isNameOf levels name = false) : unbindLevels levels names = names := by
  refine OrderedMap.ext ?_
  rw [entries_unbindLevels]
  refine List.filter_eq_self.2 fun entry hmem => ?_
  rw [h entry.1 (List.mem_map_of_mem hmem), Bool.not_false]

/-- Removing names of levels that are free changes nothing. -/
theorem unbindLevels_of_isFree {level : Nat} {names : Bindings} (hfree : IsFree level names)
    {levels : List Nat} (hlevels : ∀ l ∈ levels, level ≤ l) :
    unbindLevels levels names = names := by
  refine unbindLevels_eq_self fun name hmem => Bool.eq_false_iff.2 fun hname => ?_
  obtain ⟨l, hl, heq | heq⟩ := isNameOf_iff.1 hname
  · exact (hfree l (hlevels l hl)).1 (heq ▸ hmem)
  · exact (hfree l (hlevels l hl)).2 (heq ▸ hmem)

/-! ## Walks -/

/-- The first level whose source has no elements. -/
def emptyLevel? : List RangeSource → Nat → Option Nat
  | [], _ => none
  | source :: sources, level =>
    if source.isEmpty then some level else emptyLevel? sources (level + 1)

/-- The levels that a walk opens: those of the sources in front of the first one without
elements. -/
def opened : List RangeSource → Nat → List Nat
  | [], _ => []
  | source :: sources, level =>
    if source.isEmpty then [] else level :: opened sources (level + 1)

/-- What the names are below the elements of a level, in order: those of levels further below are
removed before the next element is bound. -/
def seenEach (below : Bindings → List Bindings) (levels : List Nat) (level : Nat) :
    List (Value × Value) → Bindings → List Bindings
  | [], _ => []
  | entry :: entries, names =>
    below (bindLevel level entry names) ++
      seenEach below levels level entries (unbindLevels levels (bindLevel level entry names))

/-- What the names are for each combination, whatever was bound before. -/
def seen : List RangeSource → Nat → Bindings → List Bindings
  | [], _, names => [names]
  | source :: sources, level, names =>
    seenEach (seen sources (level + 1)) (opened sources (level + 1)) level source.entries names

/-- What the names are for each combination, in order, if none of its own was bound before: the last
source is the fastest. -/
def rows : List RangeSource → Nat → Bindings → List Bindings
  | [], _, names => [names]
  | source :: sources, level, names =>
    source.entries.flatMap fun entry => rows sources (level + 1) (bindLevel level entry names)

theorem length_entries (source : RangeSource) : source.entries.length = source.size := by
  cases source <;> simp [RangeSource.entries, RangeSource.size, OrderedMap.size]

theorem isEmpty_iff_entries {source : RangeSource} :
    source.isEmpty = true ↔ source.entries = [] := by
  rw [RangeSource.isEmpty, ← length_entries, beq_iff_eq, List.length_eq_zero_iff]

theorem le_of_mem_opened {sources : List RangeSource} {level l : Nat}
    (h : l ∈ opened sources level) : level ≤ l := by
  induction sources generalizing level with
  | nil => cases h
  | cons source sources ih =>
    rw [opened] at h
    split at h
    · cases h
    · rcases List.mem_cons.1 h with rfl | h
      · exact Nat.le_refl _
      · exact Nat.le_of_succ_le (ih h)

section Walking

variable {m : Type → Type} [Monad m]

/-- Acts on the elements of a list in order, until an action fails. -/
def inTurn {α : Type} (action : α → m (Except Error Unit)) : List α → m (Except Error Unit)
  | [] => pure (.ok ())
  | a :: as => do
    match ← action a with
    | .ok () => inTurn action as
    | .error e => pure (.error e)

/-- What comes of acting on every combination. -/
def outcome (action : Bindings → m (Except Error Unit)) (sources : List RangeSource) (level : Nat)
    (names : Bindings) : m (Except Error Unit) :=
  match emptyLevel? sources level with
  | some n => pure (.error (.range (.empty n)))
  | none => inTurn action (rows sources level names)

variable [LawfulMonad m]

theorem inTurn_append {α : Type} (action : α → m (Except Error Unit)) (as bs : List α) :
    inTurn action (as ++ bs) = (do
      match ← inTurn action as with
      | .ok () => inTurn action bs
      | .error e => pure (.error e)) := by
  induction as with
  | nil => rw [List.nil_append, inTurn, pure_bind]
  | cons a as ih =>
    rw [List.cons_append, inTurn, inTurn, bind_assoc]
    refine bind_congr fun r => ?_
    cases r with
    | ok u => exact ih
    | error e => rw [pure_bind]

theorem inTurn_singleton {α : Type} (action : α → m (Except Error Unit)) (a : α) :
    inTurn action [a] = action a := by
  rw [inTurn]
  conv => rhs; rw [← bind_pure (action a)]
  refine bind_congr fun r => ?_
  cases r <;> rfl

/-- A walk below the elements of a level, if the walks below act in turn and remove the names of
their levels: whatever comes of it, the names of this level and of those below are removed at the
end. -/
theorem each_eq {action : Bindings → m (Except Error Unit)}
    {below : Bindings → m (Except Error Unit × Bindings)} {seenBelow : Bindings → List Bindings}
    {levels : List Nat} {level : Nat} {names : Bindings}
    (hbelow : ∀ names, below names =
      (·, unbindLevels levels names) <$> inTurn action (seenBelow names))
    (entries : List (Value × Value)) (start : Bindings)
    (hstart : unbindLevels (level :: levels) start = names)
    (hend : entries = [] → unbindLevel level start = names) :
    (fun p => (p.1, unbindLevel level p.2)) <$> each below level entries start =
      (·, names) <$> inTurn action (seenEach seenBelow levels level entries start) := by
  induction entries generalizing start with
  | nil => rw [each, seenEach, inTurn, map_pure, map_pure, hend rfl]
  | cons entry entries ih =>
    have hbound : unbindLevels (level :: levels) (bindLevel level entry start) = names :=
      (unbindLevels_bindLevel List.mem_cons_self entry start).trans hstart
    rw [each, seenEach, inTurn_append, hbelow, bind_map_left, map_bind, map_bind]
    refine bind_congr fun r => ?_
    cases r with
    | ok u => exact ih _ ((unbindLevels_cons_unbindLevels ..).trans hbound) fun _ => hbound
    | error e =>
      rw [map_pure, map_pure]
      exact congrArg (fun names => pure (Except.error e, names)) hbound

/-- A walk over sources with elements acts on the combinations in turn. -/
theorem walk_of_full (action : Bindings → m (Except Error Unit)) {sources : List RangeSource}
    {level : Nat} (hfull : emptyLevel? sources level = none) (names : Bindings) :
    walk action sources level names =
      (·, unbindLevels (opened sources level) names) <$> inTurn action (seen sources level names) := by
  induction sources generalizing level names with
  | nil => rw [walk, seen, inTurn_singleton, map_eq_pure_bind]; rfl
  | cons source sources ih =>
    rw [emptyLevel?] at hfull
    split at hfull
    next => cases hfull
    next hsource =>
      have hentries : source.entries ≠ [] := fun h => hsource (isEmpty_iff_entries.2 h)
      have hopened : opened (source :: sources) level = level :: opened sources (level + 1) := by
        rw [opened, if_neg hsource]
      rw [walk, if_neg hsource, seen, hopened,
        ← each_eq (ih hfull) source.entries names rfl fun h => absurd h hentries, map_eq_pure_bind]

/-- A walk that meets a source without elements never acts. -/
theorem walk_of_empty (action : Bindings → m (Except Error Unit)) {sources : List RangeSource}
    {level n : Nat} (hempty : emptyLevel? sources level = some n) (names : Bindings) :
    walk action sources level names =
      pure (.error (.range (.empty n)), unbindLevels (opened sources level) names) := by
  induction sources generalizing level names with
  | nil => cases hempty
  | cons source sources ih =>
    rw [emptyLevel?] at hempty
    rw [walk, opened]
    split at hempty
    next hsource =>
      cases hempty
      rw [if_pos hsource, if_pos hsource]
      rfl
    next hsource =>
      rw [if_neg hsource, if_neg hsource]
      cases hentries : source.entries with
      | nil => exact absurd (isEmpty_iff_entries.2 hentries) hsource
      | cons entry entries =>
        rw [each, ih hempty, pure_bind, pure_bind]
        exact congrArg (fun names => pure (Except.error _, names))
          (unbindLevels_bindLevel List.mem_cons_self entry names)

omit [Monad m] [LawfulMonad m] in
/-- Where the names of a walk are free, no combination sees anything of another one. -/
theorem seen_eq_rows (sources : List RangeSource) (level : Nat) (names : Bindings)
    (hfree : IsFree level names) : seen sources level names = rows sources level names := by
  induction sources generalizing level names with
  | nil => rfl
  | cons source sources ih =>
    have hbelow (entry : Value × Value) := ih (level + 1) _ (hfree.bindLevel entry)
    have hopened (entry : Value × Value) :
        unbindLevels (opened sources (level + 1)) (bindLevel level entry names) =
          bindLevel level entry names :=
      unbindLevels_of_isFree (hfree.bindLevel entry) fun _ => le_of_mem_opened
    have heach (entries : List (Value × Value)) (start : Bindings)
        (hstart : ∀ entry, bindLevel level entry start = bindLevel level entry names) :
        seenEach (seen sources (level + 1)) (opened sources (level + 1)) level entries start =
          entries.flatMap fun entry => rows sources (level + 1) (bindLevel level entry names) := by
      induction entries generalizing start with
      | nil => rfl
      | cons entry entries ihEntries =>
        rw [seenEach, hstart, hopened, hbelow, List.flatMap_cons,
          ihEntries _ (bindLevel_bindLevel hfree entry)]
    exact heach source.entries names fun _ => rfl

/-- A walk whose names are free acts on the combinations in turn and leaves the names as they
were. -/
theorem walk_eq (action : Bindings → m (Except Error Unit)) (sources : List RangeSource)
    (level : Nat) (names : Bindings) (hfree : IsFree level names) :
    walk action sources level names = (·, names) <$> outcome action sources level names := by
  have hnames : unbindLevels (opened sources level) names = names :=
    unbindLevels_of_isFree hfree fun _ => le_of_mem_opened
  rw [outcome]
  cases hlevel : emptyLevel? sources level with
  | some n => rw [walk_of_empty action hlevel, hnames, map_pure]
  | none => rw [walk_of_full action hlevel, hnames, seen_eq_rows sources level names hfree]

end Walking

end Range

end Scaffold

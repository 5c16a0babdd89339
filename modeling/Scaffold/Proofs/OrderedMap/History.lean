import Scaffold.Proofs.OrderedMap

/-!
# History — what a row of changes makes of an ordered map

The value of a key and its place are decided by different events. The value is the one that the key
was set to last, unless it was erased behind that (`LastSets`). The place is older: as long as
nothing is sorted, the keys that were there before and are not erased stand in front, in the order
that they had, and behind them stand the others in the order in which they were set first since they
were erased last (`keys_replay_edits`). So setting a key again does not move it, while erasing it
begins its life anew at the end. A sort keeps all entries and gives them an order that what follows
starts from (`sorts_sortKeys`).
-/

set_option autoImplicit false

namespace Scaffold.OrderedMap

variable {α : Type}

/-! ## Changes -/

/-- A comparison by which keys can be sorted: any two can be compared, and different ones may count
as equal. -/
structure Comparison where
  le : String → String → Bool
  total : ∀ a b, (le a b || le b a) = true
  trans : ∀ a b c, le a b = true → le b c = true → le a c = true

/-- A change of one key. -/
inductive Edit (α : Type)
  | set (key : String) (value : α)
  | erase (key : String)

/-- The key that is changed. -/
def Edit.key : Edit α → String
  | .set key _ | .erase key => key

/-- A change of a map: of one key, or of the order. -/
inductive Change (α : Type)
  | edit (edit : Edit α)
  | sort (comparison : Comparison)

/-- The map behind a change. -/
def Change.apply (m : OrderedMap α) : Change α → OrderedMap α
  | .edit (.set key value) => m.set key value
  | .edit (.erase key) => m.erase key
  | .sort comparison => m.sortKeys comparison.le

/-- The map behind changes in a row. -/
def replay (m : OrderedMap α) (history : List (Change α)) : OrderedMap α :=
  history.foldl Change.apply m

/-- Writing entries one by one. -/
def written (entries : List (String × α)) : List (Change α) :=
  entries.map fun entry => .edit (.set entry.1 entry.2)

theorem replay_append (m : OrderedMap α) (past recent : List (Change α)) :
    m.replay (past ++ recent) = (m.replay past).replay recent :=
  List.foldl_append ..

theorem replay_concat (m : OrderedMap α) (past : List (Change α)) (change : Change α) :
    m.replay (past ++ [change]) = change.apply (m.replay past) :=
  replay_append m past [change]

/-- A map that is made from entries is written one by one. -/
theorem ofList_eq_replay (entries : List (String × α)) :
    ofList entries = empty.replay (written entries) := by
  rw [replay, written, List.foldl_map]
  rfl

/-! ## Values -/

/-- The last change of a key in a history set it to a value. -/
def LastSets (history : List (Change α)) (key : String) (value : α) : Prop :=
  ∃ front behind, history = front ++ .edit (.set key value) :: behind ∧
    ∀ edit, .edit edit ∈ behind → edit.key ≠ key

section LastSets

variable {history : List (Change α)} {key : String} {value : α}

/-- What does not change a key can be left out at the end. -/
theorem lastSets_concat_of_free {change : Change α}
    (hfree : ∀ edit, .edit edit = change → edit.key ≠ key) :
    LastSets (history ++ [change]) key value ↔ LastSets history key value := by
  constructor
  · rintro ⟨front, behind, hhistory, hbehind⟩
    rcases List.eq_nil_or_concat behind with rfl | ⟨behind, last, rfl⟩
    · obtain ⟨-, hlast⟩ := List.append_inj' hhistory rfl
      exact absurd rfl (hfree _ (List.singleton_inj.1 hlast).symm)
    · rw [List.concat_eq_append, ← List.cons_append, ← List.append_assoc] at hhistory
      obtain ⟨hfront, -⟩ := List.append_inj' hhistory rfl
      refine ⟨front, behind, hfront, fun edit hedit => hbehind edit ?_⟩
      exact List.concat_eq_append ▸ List.mem_append_left _ hedit
  · rintro ⟨front, behind, rfl, hbehind⟩
    refine ⟨front, behind ++ [change], by simp, fun edit hedit => ?_⟩
    rcases List.mem_append.1 hedit with hedit | hedit
    · exact hbehind edit hedit
    · exact hfree edit (List.mem_singleton.1 hedit)

/-- What changes a key at the end decides alone. -/
theorem lastSets_concat_of_key {edit : Edit α} (hkey : edit.key = key) :
    LastSets (history ++ [.edit edit]) key value ↔ edit = .set key value := by
  constructor
  · rintro ⟨front, behind, hhistory, hbehind⟩
    rcases List.eq_nil_or_concat behind with rfl | ⟨behind, last, rfl⟩
    · obtain ⟨-, hlast⟩ := List.append_inj' hhistory rfl
      exact Change.edit.inj (List.singleton_inj.1 hlast)
    · rw [List.concat_eq_append, ← List.cons_append, ← List.append_assoc] at hhistory
      obtain ⟨-, hlast⟩ := List.append_inj' hhistory rfl
      refine absurd hkey (hbehind edit ?_)
      simp [List.singleton_inj.1 hlast]
  · rintro rfl
    exact ⟨history, [], rfl, by simp⟩

end LastSets

theorem get?_eq_some_iff {m : OrderedMap α} {key : String} {value : α} :
    m.get? key = some value ↔ (key, value) ∈ m.entries :=
  ⟨mem_of_lookup, get?_of_mem⟩

/-- Only the change of a key changes its value. -/
theorem get?_apply_of_free {change : Change α} {key : String}
    (hfree : ∀ edit, .edit edit = change → edit.key ≠ key) (m : OrderedMap α) (value : α) :
    (change.apply m).get? key = some value ↔ m.get? key = some value := by
  match change with
  | .edit (.set k v) =>
    have hkey : key ≠ k := (hfree _ rfl).symm
    rw [Change.apply, get?_set, if_neg hkey]
  | .edit (.erase k) =>
    have hkey : key ≠ k := (hfree _ rfl).symm
    rw [get?_eq_some_iff, get?_eq_some_iff, Change.apply, entries_erase, List.mem_filter]
    simp [hkey]
  | .sort comparison =>
    rw [get?_eq_some_iff, get?_eq_some_iff]
    exact List.mem_mergeSort

/-- A key that is changed has the value that it is set to, or none. -/
theorem get?_apply_edit (m : OrderedMap α) (edit : Edit α) (value : α) :
    ((Change.edit edit).apply m).get? edit.key = some value ↔ edit = .set edit.key value := by
  cases edit with
  | set key v => simp [Change.apply, Edit.key, get?_set]
  | erase key =>
    rw [get?_eq_some_iff]
    simp [Change.apply, Edit.key]

/-- A key has the value that it was set to last, unless it was erased behind that. -/
theorem get?_replay_iff (history : List (Change α)) (key : String) (value : α) :
    (empty.replay history).get? key = some value ↔ LastSets history key value := by
  induction history using List.reverseRecOn with
  | nil => simp [replay, empty, get?, LastSets]
  | append_singleton history change ih =>
    rw [replay_concat]
    by_cases hfree : ∀ edit, .edit edit = change → edit.key ≠ key
    · rw [get?_apply_of_free hfree, lastSets_concat_of_free hfree, ih]
    · push Not at hfree
      obtain ⟨edit, rfl, rfl⟩ := hfree
      rw [get?_apply_edit, lastSets_concat_of_key rfl]

/-! ## Places -/

/-- The edit erases a key. -/
def Edit.erases (key : String) : Edit α → Bool
  | .set _ _ => false
  | .erase k => k == key

/-- A key is erased by one of the edits. -/
def erased (edits : List (Edit α)) (key : String) : Bool :=
  edits.any (·.erases key)

/-- The keys that edits set and do not erase behind that, once for each time. -/
def standing : List (Edit α) → List String
  | [] => []
  | .set key _ :: edits => if erased edits key then standing edits else key :: standing edits
  | .erase _ :: edits => standing edits

@[simp] theorem erased_concat (edits : List (Edit α)) (edit : Edit α) (key : String) :
    erased (edits ++ [edit]) key = (erased edits key || edit.erases key) := by
  simp [erased]

@[simp] theorem erases_set (key k : String) (value : α) : (Edit.set k value).erases key = false :=
  rfl

@[simp] theorem erases_erase (key k : String) :
    (Edit.erase k : Edit α).erases key = (k == key) := rfl

theorem standing_concat_set (edits : List (Edit α)) (key : String) (value : α) :
    standing (edits ++ [.set key value]) = standing edits ++ [key] := by
  induction edits with
  | nil => rfl
  | cons edit edits ih =>
    cases edit with
    | set k v =>
      simp only [List.cons_append, standing, ih, erased_concat, erases_set, Bool.or_false]
      split <;> rfl
    | erase k => exact ih

theorem standing_concat_erase (edits : List (Edit α)) (key : String) :
    standing (edits ++ [.erase key]) = (standing edits).filter (· != key) := by
  induction edits with
  | nil => rfl
  | cons edit edits ih =>
    cases edit with
    | set k v =>
      simp only [List.cons_append, standing, ih, erased_concat, erases_erase, Bool.or_eq_true,
        beq_iff_eq]
      by_cases herased : erased edits k = true
      · simp only [herased, true_or, if_true]
      · by_cases hkey : key = k
        · simp [herased, hkey]
        · simp [herased, hkey, Ne.symm hkey]
    | erase k => exact ih

/-- What a filter drops can be dropped before or after what is there twice. -/
theorem filter_eraseDups (p : String → Bool) (keys : List String) :
    keys.eraseDups.filter p = (keys.filter p).eraseDups := by
  induction keys using List.reverseRecOn with
  | nil => rfl
  | append_singleton keys key ih =>
    have hmem (hp : p key = true) : key ∈ keys.eraseDups ↔ key ∈ (keys.filter p).eraseDups := by
      simp [hp]
    rw [eraseDups_concat, List.filter_append]
    by_cases hp : p key = true
    · rw [List.filter_cons_of_pos hp, List.filter_nil, eraseDups_concat]
      simp only [← hmem hp]
      split
      · exact ih
      · rw [List.filter_append, List.filter_cons_of_pos hp, List.filter_nil, ih]
    · rw [List.filter_cons_of_neg hp, List.filter_nil, List.append_nil, ← ih]
      split
      · rfl
      · rw [List.filter_append, List.filter_cons_of_neg hp, List.filter_nil, List.append_nil]

theorem eraseDups_of_nodup {keys : List String} (h : keys.Nodup) : keys.eraseDups = keys := by
  induction keys using List.reverseRecOn with
  | nil => rfl
  | append_singleton keys key ih =>
    obtain ⟨hkeys, -, hapart⟩ := List.nodup_append.1 h
    have hnew : key ∉ keys := fun hmem => hapart key hmem key List.mem_cons_self rfl
    rw [eraseDups_concat, ih hkeys, if_neg hnew]

theorem keys_nodup (m : OrderedMap α) : m.keys.Nodup := m.nodup

/-- Erasing a key leaves the order of the others alone. -/
theorem keys_erase (m : OrderedMap α) (key : String) :
    (m.erase key).keys = m.keys.filter (· != key) := by
  rw [keys, keys, List.filter_map]
  rfl

/-- As long as nothing is sorted, keys that were there before and are not erased keep their places,
and the others follow as they were set first since they were erased last. -/
theorem keys_replay_edits (m : OrderedMap α) (edits : List (Edit α)) :
    (m.replay (edits.map .edit)).keys =
      (m.keys.filter (!erased edits ·) ++ standing edits).eraseDups := by
  induction edits using List.reverseRecOn with
  | nil =>
    have hall : m.keys.filter (fun key => !erased ([] : List (Edit α)) key) = m.keys :=
      List.filter_eq_self.2 fun _ _ => rfl
    rw [hall, standing, List.append_nil, eraseDups_of_nodup m.keys_nodup]
    rfl
  | append_singleton edits edit ih =>
    rw [List.map_append, List.map_singleton, replay_concat]
    cases edit with
    | set key value =>
      simp only [erased_concat, erases_set, Bool.or_false]
      rw [standing_concat_set, ← List.append_assoc, eraseDups_concat, ← ih]
      exact keys_set _ key value
    | erase key =>
      have hfilter : (m.keys.filter fun k => !(erased edits k || key == k)) =
          (m.keys.filter (!erased edits ·)).filter (· != key) := by
        rw [List.filter_filter]
        refine List.filter_congr fun k _ => ?_
        rw [Bool.not_or, Bool.and_comm, bne, Bool.beq_comm]
      simp only [erased_concat, erases_erase]
      rw [standing_concat_erase, hfilter, ← List.filter_append, ← filter_eraseDups, ← ih]
      exact keys_erase _ key

/-! ## Sorts -/

/-- A map holds the entries of another one in the order of a comparison. Keys that count as equal
stand as they stood before. -/
structure Sorts (comparison : Comparison) (m sorted : OrderedMap α) : Prop where
  perm : sorted.entries.Perm m.entries
  ordered : sorted.keys.Pairwise (comparison.le · · = true)
  stable : ∀ a b, comparison.le a b = true → comparison.le b a = true →
    [a, b].Sublist m.keys → [a, b].Sublist sorted.keys

theorem sorts_sortKeys (m : OrderedMap α) (comparison : Comparison) :
    Sorts comparison m (m.sortKeys comparison.le) := by
  have htrans (a b c : String × α) := comparison.trans a.1 b.1 c.1
  have htotal (a b : String × α) := comparison.total a.1 b.1
  refine ⟨List.mergeSort_perm _ _, ?_, fun a b hab _ hbefore => ?_⟩
  · exact List.pairwise_map.2 (List.pairwise_mergeSort htrans htotal m.entries)
  · obtain ⟨entries, hentries, hkeys⟩ := List.sublist_map_iff.1 hbefore
    have hpairwise : entries.Pairwise fun a b => comparison.le a.1 b.1 = true := by
      rw [← List.pairwise_map (f := Prod.fst) (R := fun a b => comparison.le a b = true), ← hkeys]
      simpa using hab
    rw [hkeys]
    exact (List.sublist_mergeSort htrans htotal hpairwise hentries).map Prod.fst

/-! ## The whole history -/

/-- A map is what a history of the empty map has left: all that can be asked of it is answered by
the last changes of the keys. -/
structure Recounts (history : List (Change α)) (m : OrderedMap α) : Prop where
  keys_nodup : m.keys.Nodup
  get?_iff : ∀ key value, m.get? key = some value ↔ LastSets history key value
  contains_iff : ∀ key, m.contains key = true ↔ ∃ value, LastSets history key value
  mem_entries_iff : ∀ key value, (key, value) ∈ m.entries ↔ LastSets history key value
  keys_eq : m.entries.map Prod.fst = m.keys
  size_eq : m.size = m.keys.length
  isEmpty_iff : m.isEmpty = true ↔ ∀ key value, ¬ LastSets history key value

theorem recounts_replay (history : List (Change α)) :
    Recounts history (empty.replay history) where
  keys_nodup := keys_nodup _
  get?_iff := get?_replay_iff history
  contains_iff key := by
    simp only [contains, List.contains_iff_mem, keys, List.mem_map, Prod.exists,
      ← get?_replay_iff, get?_eq_some_iff, exists_and_right, exists_eq_right]
  mem_entries_iff key value := get?_eq_some_iff.symm.trans (get?_replay_iff history key value)
  keys_eq := rfl
  size_eq := (List.length_map Prod.fst).symm
  isEmpty_iff := by
    simp only [← get?_replay_iff, get?_eq_some_iff, isEmpty, List.isEmpty_iff,
      List.eq_nil_iff_forall_not_mem, Prod.forall]

/-- Whatever is done to a map in a row, what is found under a key is what it was set to last, unless
it was erased behind that. The keys of what is done between two sorts stand behind those that are
left, by the first time that they were set since they were erased last: setting a key again does not
move it, and erasing one does not move the others. A sort keeps the entries, and the order of keys
that it does not tell apart. -/
theorem replay_recounts (entries : List (String × α)) (past : List (Change α))
    (recent : List (Edit α)) (comparison : Comparison) :
    let m := (ofList entries).replay past
    ofList entries = empty.replay (written entries) ∧
    Recounts (written entries ++ past) m ∧
    (m.replay (recent.map .edit)).keys =
      (m.keys.filter (!erased recent ·) ++ standing recent).eraseDups ∧
    (∀ key value, (m.set key value).keys = if key ∈ m.keys then m.keys else m.keys ++ [key]) ∧
    (∀ key, (m.erase key).keys = m.keys.filter (· != key)) ∧
    Sorts comparison m (m.sortKeys comparison.le) := by
  intro m
  have hm : m = empty.replay (written entries ++ past) := by
    rw [replay_append, ← ofList_eq_replay]
  refine ⟨ofList_eq_replay entries, ?_, m.keys_replay_edits recent, m.keys_set, m.keys_erase,
    m.sorts_sortKeys comparison⟩
  rw [hm]
  exact recounts_replay _

/-- A key that is erased and set again stands behind the others, one that is only set again does
not. -/
example :
    ((ofList [("a", 1), ("b", 2), ("c", 3)]).replay
      [.edit (.set "b" 4), .edit (.erase "a"), .edit (.set "a" 5)]).entries =
        [("b", 4), ("c", 3), ("a", 5)] := by
  decide

end Scaffold.OrderedMap

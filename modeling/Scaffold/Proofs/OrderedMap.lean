import Mathlib.Data.List.Basic
import Mathlib.Data.List.Induction
import Scaffold.OrderedMap

/-!
# OrderedMap — what writing does to keys and values

A map that is written entry by entry has its keys in the order of their first writing and, under
each key, the value of the last one: `keys_ofList` and `get?_ofList`. Every map is written by its
own entries (`ofList_entries`), so that merging maps is writing a longer list. Maps that are written
over each other can be put together from either end (`setAll_entries_setAll`).
-/

set_option autoImplicit false

namespace Scaffold.OrderedMap

variable {α : Type}

/-- A map is its entries. -/
theorem ext {m n : OrderedMap α} (h : m.entries = n.entries) : m = n := by
  obtain ⟨entries, _⟩ := m
  obtain ⟨_, _⟩ := n
  cases h
  rfl

@[simp] theorem entries_empty : (empty : OrderedMap α).entries = [] := rfl

@[simp] theorem entries_set (m : OrderedMap α) (key : String) (value : α) :
    (m.set key value).entries = setEntry key value m.entries := rfl

@[simp] theorem entries_erase (m : OrderedMap α) (key : String) :
    (m.erase key).entries = m.entries.filter (·.1 != key) := rfl

/-- What is found under a key stands there as an entry. -/
theorem mem_of_lookup {entries : List (String × α)} {key : String} {value : α}
    (h : entries.lookup key = some value) : (key, value) ∈ entries := by
  obtain ⟨front, behind, hentries, -⟩ := List.lookup_eq_some_iff.1 h
  rw [hentries]
  exact List.mem_append_right front List.mem_cons_self

/-! ## One writing -/

/-- Writing a key that is not in front is writing it behind. -/
theorem setEntry_append_of_not_mem (key : String) (value : α) {front : List (String × α)}
    (h : key ∉ front.map Prod.fst) (entries : List (String × α)) :
    setEntry key value (front ++ entries) = front ++ setEntry key value entries := by
  induction front with
  | nil => rfl
  | cons entry front ih =>
    obtain ⟨k, v⟩ := entry
    simp only [List.map_cons, List.mem_cons, not_or] at h
    simp only [List.cons_append, setEntry, if_neg (Ne.symm h.1), ih h.2]

/-- Writing a key that is not there yet adds its entry at the end. -/
theorem setEntry_of_not_mem (key : String) (value : α) {entries : List (String × α)}
    (h : key ∉ entries.map Prod.fst) :
    setEntry key value entries = entries ++ [(key, value)] := by
  have happend := setEntry_append_of_not_mem key value h []
  rw [List.append_nil] at happend
  exact happend

/-- Entries that a filter drops can be written at will. -/
theorem filter_setEntry {p : String × α → Bool} {key : String}
    (hdrop : ∀ value, p (key, value) = false) (value : α) (entries : List (String × α)) :
    (setEntry key value entries).filter p = entries.filter p := by
  induction entries with
  | nil => simp [setEntry, hdrop]
  | cons entry entries ih =>
    obtain ⟨k, v⟩ := entry
    by_cases hkey : k = key
    · subst hkey
      simp [setEntry, hdrop]
    · simp only [setEntry, if_neg hkey, List.filter_cons, ih]

theorem lookup_cons_eq_ite (key k : String) (value : α) (entries : List (String × α)) :
    List.lookup k ((key, value) :: entries) = if k = key then some value else entries.lookup k := by
  rw [List.lookup_cons]
  by_cases h : k = key
  · subst h
    simp only [beq_self_eq_true, ↓reduceIte]
  · simp only [if_neg h, beq_eq_false_iff_ne.2 h]

/-- Keys that a filter keeps have the values that they had. -/
theorem lookup_filter_key {p : String → Bool} {name : String} (hkeep : p name = true)
    (entries : List (String × α)) :
    (entries.filter fun entry => p entry.1).lookup name = entries.lookup name := by
  induction entries with
  | nil => rfl
  | cons entry entries ih =>
    obtain ⟨k, v⟩ := entry
    by_cases hk : name = k
    · subst hk
      simp [hkeep]
    · cases hp : p k <;> simp [hp, lookup_cons_eq_ite, hk, ih]

theorem lookup_setEntry (key k : String) (value : α) (entries : List (String × α)) :
    (setEntry key value entries).lookup k =
      if k = key then some value else entries.lookup k := by
  induction entries with
  | nil => exact lookup_cons_eq_ite key k value []
  | cons entry entries ih =>
    obtain ⟨key', v⟩ := entry
    by_cases hkey : key' = key
    · subst hkey
      simp only [setEntry, ↓reduceIte, lookup_cons_eq_ite]
      split <;> rfl
    · simp only [setEntry, if_neg hkey, lookup_cons_eq_ite, ih]
      by_cases hk : k = key'
      · simp only [if_pos hk, if_neg (hk ▸ hkey)]
      · simp only [if_neg hk]

theorem get?_set (m : OrderedMap α) (key k : String) (value : α) :
    (m.set key value).get? k = if k = key then some value else m.get? k :=
  lookup_setEntry key k value m.entries

/-- Writing keeps the place of a key that is there and puts a new one at the end. -/
theorem keys_set (m : OrderedMap α) (key : String) (value : α) :
    (m.set key value).keys = if key ∈ m.keys then m.keys else m.keys ++ [key] :=
  map_fst_setEntry key value m.entries

theorem mem_keys_of_get? {m : OrderedMap α} {key : String} {value : α}
    (h : m.get? key = some value) : key ∈ m.keys :=
  List.mem_map_of_mem (mem_of_lookup h)

/-- Writing a key that is there changes no key. -/
theorem keys_set_of_get? {m : OrderedMap α} {key : String} {value : α}
    (h : m.get? key = some value) (value' : α) : (m.set key value').keys = m.keys := by
  rw [keys_set, if_pos (mem_keys_of_get? h)]

/-- Writing the value that a key has changes nothing. -/
theorem set_of_get? {m : OrderedMap α} {key : String} {value : α}
    (h : m.get? key = some value) : m.set key value = m := by
  obtain ⟨front, behind, hentries, hfront⟩ := List.lookup_eq_some_iff.1 h
  have hkey : key ∉ front.map Prod.fst := by
    intro hmem
    obtain ⟨entry, hentry, heq⟩ := List.mem_map.1 hmem
    simpa [heq] using hfront entry hentry
  refine ext ?_
  rw [entries_set, hentries, setEntry_append_of_not_mem key value hkey]
  simp only [setEntry, if_true]

/-! ## Changing all values -/

section Mapping

variable {β : Type} (f : α → β)

theorem get?_map (m : OrderedMap α) (key : String) : (m.map f).get? key = (m.get? key).map f := by
  obtain ⟨entries, hnodup⟩ := m
  change (entries.map fun entry => (entry.1, f entry.2)).lookup key = (entries.lookup key).map f
  clear hnodup
  induction entries with
  | nil => rfl
  | cons entry entries ih =>
    obtain ⟨k, value⟩ := entry
    rw [List.map_cons, lookup_cons_eq_ite, lookup_cons_eq_ite, ih]
    split <;> rfl

theorem map_set (m : OrderedMap α) (key : String) (value : α) :
    (m.set key value).map f = (m.map f).set key (f value) := by
  refine ext ?_
  obtain ⟨entries, hnodup⟩ := m
  change (setEntry key value entries).map (fun entry => (entry.1, f entry.2)) =
    setEntry key (f value) (entries.map fun entry => (entry.1, f entry.2))
  clear hnodup
  induction entries with
  | nil => rfl
  | cons entry entries ih =>
    obtain ⟨k, value'⟩ := entry
    by_cases hk : k = key
    · simp only [setEntry, if_pos hk, List.map_cons]
    · simp only [setEntry, if_neg hk, List.map_cons, ih]

end Mapping

/-! ## Writing a list of entries -/

theorem setAll_append (m : OrderedMap α) (as bs : List (String × α)) :
    m.setAll (as ++ bs) = (m.setAll as).setAll bs :=
  List.foldl_append ..

theorem ofList_append (as bs : List (String × α)) :
    ofList (as ++ bs) = (ofList as).setAll bs :=
  setAll_append empty as bs

theorem ofList_concat (entries : List (String × α)) (key : String) (value : α) :
    ofList (entries ++ [(key, value)]) = (ofList entries).set key value :=
  ofList_append entries [(key, value)]

theorem entries_setAll_of_nodup (m : OrderedMap α) (entries : List (String × α))
    (h : ((m.entries ++ entries).map Prod.fst).Nodup) :
    (m.setAll entries).entries = m.entries ++ entries := by
  induction entries generalizing m with
  | nil => simp [setAll]
  | cons entry entries ih =>
    obtain ⟨key, value⟩ := entry
    have hnew : key ∉ m.entries.map Prod.fst := by
      intro hmem
      rw [List.map_append, List.map_cons] at h
      exact (List.nodup_append.1 h).2.2 key hmem key List.mem_cons_self rfl
    have hset : (m.set key value).entries = m.entries ++ [(key, value)] :=
      setEntry_of_not_mem key value hnew
    have hrest : ((m.set key value).setAll entries).entries =
        (m.entries ++ [(key, value)]) ++ entries :=
      hset ▸ ih (m.set key value) (by rw [hset, List.append_assoc]; exact h)
    rw [List.append_assoc] at hrest
    exact hrest

/-- Every map is written by its own entries. -/
@[simp] theorem ofList_entries (m : OrderedMap α) : ofList m.entries = m :=
  ext (entries_setAll_of_nodup empty m.entries m.nodup)

/-- At the end of a row, a key counts if it is not there already. -/
theorem eraseDups_concat (keys : List String) (key : String) :
    (keys ++ [key]).eraseDups =
      if key ∈ keys.eraseDups then keys.eraseDups else keys.eraseDups ++ [key] := by
  rw [List.eraseDups_append]
  by_cases h : key ∈ keys
  · rw [if_pos (List.mem_eraseDups.2 h)]
    simp [List.removeAll, h]
  · rw [if_neg (fun hmem => h (List.mem_eraseDups.1 hmem))]
    simp [List.removeAll, h, List.eraseDups_cons]

/-- The keys stand in the order in which they were written first. -/
theorem keys_ofList (entries : List (String × α)) :
    (ofList entries).keys = (entries.map Prod.fst).eraseDups := by
  induction entries using List.reverseRecOn with
  | nil => rfl
  | append_singleton entries entry ih =>
    obtain ⟨key, value⟩ := entry
    rw [ofList_concat, keys_set, ih, List.map_append]
    exact (eraseDups_concat _ key).symm

/-- A key has the value that was written last. -/
theorem get?_ofList (entries : List (String × α)) (key : String) :
    (ofList entries).get? key = entries.reverse.lookup key := by
  induction entries using List.reverseRecOn with
  | nil => rfl
  | append_singleton entries entry ih =>
    obtain ⟨k, value⟩ := entry
    rw [ofList_concat, get?_set, ih, List.reverse_append]
    exact (lookup_cons_eq_ite k key value entries.reverse).symm

/-! ## Writing one map over another -/

/-- Of two writings of one key the second one counts. -/
theorem set_set (m : OrderedMap α) (key : String) (value value' : α) :
    (m.set key value).set key value' = m.set key value' := by
  refine ext ?_
  rw [entries_set, entries_set, entries_set]
  induction m.entries with
  | nil => simp only [setEntry, if_true]
  | cons entry entries ih =>
    obtain ⟨k, v⟩ := entry
    by_cases hk : k = key
    · simp only [setEntry, if_pos hk]
    · simp only [setEntry, if_neg hk, ih]

/-- Writing a key that is there and writing another one can change places. -/
theorem set_comm {m : OrderedMap α} {key k : String} (hmem : key ∈ m.keys) (hne : k ≠ key)
    (value value' : α) : (m.set k value').set key value = (m.set key value).set k value' := by
  refine ext ?_
  rw [entries_set, entries_set, entries_set, entries_set]
  change key ∈ m.entries.map Prod.fst at hmem
  generalize m.entries = entries at hmem ⊢
  induction entries with
  | nil => cases hmem
  | cons entry entries ih =>
    obtain ⟨k', v⟩ := entry
    by_cases hkey : k' = key
    · have hk : k' ≠ k := fun h => hne (h.symm.trans hkey)
      simp only [setEntry, if_pos hkey, if_neg hk]
    · have hrest : key ∈ entries.map Prod.fst := by
        rcases List.mem_cons.1 hmem with h | h
        · exact absurd h.symm hkey
        · exact h
      by_cases hk : k' = k
      · simp only [setEntry, if_neg hkey, if_pos hk]
      · simp only [setEntry, if_neg hkey, if_neg hk, ih hrest]

/-- A key that is there and is not written again can be written before or after the others. -/
theorem setAll_set {m : OrderedMap α} {key : String} (hmem : key ∈ m.keys)
    {entries : List (String × α)} (hnew : key ∉ entries.map Prod.fst) (value : α) :
    (m.set key value).setAll entries = (m.setAll entries).set key value := by
  induction entries generalizing m with
  | nil => rfl
  | cons entry entries ih =>
    obtain ⟨k, v⟩ := entry
    rw [List.map_cons, List.mem_cons, not_or] at hnew
    have hmem' : key ∈ (m.set k v).keys := by
      rw [keys_set]
      split
      · exact hmem
      · exact List.mem_append_left _ hmem
    calc (m.set key value).setAll ((k, v) :: entries)
        = ((m.set key value).set k v).setAll entries := rfl
      _ = ((m.set k v).set key value).setAll entries := by
          rw [set_comm hmem (Ne.symm hnew.1)]
      _ = ((m.set k v).setAll entries).set key value := ih hmem' hnew.2

/-- Writing entries after one of them was written is writing that one after them. -/
theorem setAll_setEntry (m : OrderedMap α) (key : String) (value : α)
    {entries : List (String × α)} (hnodup : (entries.map Prod.fst).Nodup) :
    m.setAll (setEntry key value entries) = (m.setAll entries).set key value := by
  induction entries generalizing m with
  | nil => rfl
  | cons entry entries ih =>
    obtain ⟨k, v⟩ := entry
    rw [List.map_cons, List.nodup_cons] at hnodup
    by_cases hk : k = key
    · subst hk
      have hmem : k ∈ (m.set k v).keys := mem_keys_of_get? (by rw [get?_set, if_pos rfl])
      calc m.setAll (setEntry k value ((k, v) :: entries))
          = (m.set k value).setAll entries := by simp only [setEntry, if_true]; rfl
        _ = ((m.set k v).set k value).setAll entries := by rw [set_set]
        _ = ((m.set k v).setAll entries).set k value := setAll_set hmem hnodup.1 value
    · calc m.setAll (setEntry key value ((k, v) :: entries))
          = (m.set k v).setAll (setEntry key value entries) := by
            simp only [setEntry, if_neg hk]; rfl
        _ = ((m.set k v).setAll entries).set key value := ih (m.set k v) hnodup.2

/-- Maps that are written over each other can be put together from either end. -/
theorem setAll_entries_setAll (m n : OrderedMap α) (entries : List (String × α)) :
    m.setAll (n.setAll entries).entries = (m.setAll n.entries).setAll entries := by
  induction entries generalizing n with
  | nil => rfl
  | cons entry entries ih =>
    obtain ⟨key, value⟩ := entry
    calc m.setAll ((n.set key value).setAll entries).entries
        = (m.setAll (n.set key value).entries).setAll entries := ih (n.set key value)
      _ = ((m.setAll n.entries).set key value).setAll entries := by
          rw [entries_set, setAll_setEntry m key value n.nodup]

theorem get?_of_mem {m : OrderedMap α} {key : String} {value : α} (h : (key, value) ∈ m.entries) :
    m.get? key = some value := by
  obtain ⟨front, behind, hentries⟩ := List.append_of_mem h
  have hnodup := m.nodup
  rw [hentries, List.map_append, List.map_cons] at hnodup
  refine List.lookup_eq_some_iff.2 ⟨front, behind, hentries, fun entry hentry => ?_⟩
  have hne := (List.nodup_append.1 hnodup).2.2 _ (List.mem_map_of_mem hentry) key
    List.mem_cons_self
  exact bne_iff_ne.2 (Ne.symm hne)

/-- A map is its keys with what is found under them. -/
theorem entries_eq_filterMap (m : OrderedMap α) :
    m.entries = m.keys.filterMap fun key => (m.get? key).map (key, ·) := by
  have hfound (entry : String × α) (hentry : entry ∈ m.entries) :
      ((fun key => (m.get? key).map (key, ·)) ∘ Prod.fst) entry = some entry := by
    have hget : m.get? entry.1 = some entry.2 := get?_of_mem hentry
    rw [Function.comp_apply, hget, Option.map_some]
  rw [keys, List.filterMap_map, List.filterMap_congr hfound, List.filterMap_some]

/-- Maps with the same keys in the same order and the same values under them are equal. -/
theorem ext_get? {m n : OrderedMap α} (hkeys : m.keys = n.keys)
    (hvalues : ∀ key, m.get? key = n.get? key) : m = n := by
  refine ext ?_
  rw [entries_eq_filterMap m, entries_eq_filterMap n, hkeys]
  simp only [hvalues]

/-- Writing what is there already changes nothing. -/
theorem setAll_eq_self {m : OrderedMap α} {entries : List (String × α)}
    (h : ∀ entry ∈ entries, entry ∈ m.entries) : m.setAll entries = m := by
  induction entries with
  | nil => rfl
  | cons entry entries ih =>
    obtain ⟨key, value⟩ := entry
    calc m.setAll ((key, value) :: entries)
        = (m.set key value).setAll entries := rfl
      _ = m.setAll entries := by rw [set_of_get? (get?_of_mem (h _ List.mem_cons_self))]
      _ = m := ih fun entry hentry => h entry (List.mem_cons_of_mem _ hentry)

/-! ## All values -/

/-- Every value of the map satisfies the predicate. -/
def All (P : α → Prop) (m : OrderedMap α) : Prop :=
  ∀ key value, m.get? key = some value → P value

section All

variable {P : α → Prop} {m : OrderedMap α}

theorem all_empty : All P (empty : OrderedMap α) := nofun

theorem All.set (h : All P m) (key : String) {value : α} (hvalue : P value) :
    All P (m.set key value) := by
  intro k v hget
  rw [get?_set] at hget
  split at hget
  · exact Option.some.inj hget ▸ hvalue
  · exact h k v hget

theorem All.setAll (h : All P m) {entries : List (String × α)}
    (hentries : ∀ entry ∈ entries, P entry.2) : All P (m.setAll entries) := by
  induction entries generalizing m with
  | nil => exact h
  | cons entry entries ih =>
    exact ih (h.set entry.1 (hentries entry List.mem_cons_self)) fun e he =>
      hentries e (List.mem_cons_of_mem entry he)

theorem All.of_mem (h : All P m) {entry : String × α} (hmem : entry ∈ m.entries) : P entry.2 :=
  h entry.1 entry.2 (get?_of_mem hmem)

theorem all_iff_forall_mem : All P m ↔ ∀ entry ∈ m.entries, P entry.2 :=
  ⟨fun h _ hmem => h.of_mem hmem, fun h key value hget => h (key, value) (mem_of_lookup hget)⟩

end All

end Scaffold.OrderedMap

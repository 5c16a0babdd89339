/-!
# OrderedMap — texts to values, in the order of declaration

A map is the list of its entries; no key stands in it twice. Writing a key that is present keeps
its place, a new key goes to the end, and erasing leaves the order of the others alone.
-/

set_option autoImplicit false

namespace Scaffold

/-- A map from texts, in the order of first declaration. -/
structure OrderedMap (α : Type) where
  entries : List (String × α)
  nodup : (entries.map Prod.fst).Nodup := by decide

namespace OrderedMap

variable {α β : Type}

/-- The map without entries. -/
def empty : OrderedMap α := ⟨[], .nil⟩

instance : Inhabited (OrderedMap α) := ⟨empty⟩

/-- The keys in order. -/
def keys (m : OrderedMap α) : List String :=
  m.entries.map Prod.fst

/-- The number of entries. -/
def size (m : OrderedMap α) : Nat :=
  m.entries.length

/-- There is no entry. -/
def isEmpty (m : OrderedMap α) : Bool :=
  m.entries.isEmpty

/-- The value of a key. -/
def get? (m : OrderedMap α) (key : String) : Option α :=
  m.entries.lookup key

/-- The key is present. -/
def contains (m : OrderedMap α) (key : String) : Bool :=
  m.keys.contains key

/-- Writes a value into a list of entries: in place, or at the end. -/
def setEntry (key : String) (value : α) : List (String × α) → List (String × α)
  | [] => [(key, value)]
  | (k, v) :: entries =>
    if k = key then (k, value) :: entries else (k, v) :: setEntry key value entries

theorem map_fst_setEntry (key : String) (value : α) (entries : List (String × α)) :
    (setEntry key value entries).map Prod.fst =
      if key ∈ entries.map Prod.fst then entries.map Prod.fst
      else entries.map Prod.fst ++ [key] := by
  induction entries with
  | nil => simp [setEntry]
  | cons entry entries ih =>
    obtain ⟨k, v⟩ := entry
    by_cases h : k = key
    · simp [setEntry, h]
    · have h' : ¬ key = k := fun e => h e.symm
      simp only [setEntry, h, if_false, List.map_cons, ih, List.mem_cons, h', false_or]
      split <;> simp

theorem nodup_setEntry (key : String) (value : α) {entries : List (String × α)}
    (h : (entries.map Prod.fst).Nodup) : ((setEntry key value entries).map Prod.fst).Nodup := by
  rw [map_fst_setEntry]
  split
  · exact h
  · rename_i hk
    refine List.nodup_append.2 ⟨h, by simp, ?_⟩
    intro a ha b hb e
    rw [List.mem_singleton.1 hb] at e
    exact hk (e ▸ ha)

/-- Writes the value of a key. -/
def set (m : OrderedMap α) (key : String) (value : α) : OrderedMap α :=
  ⟨setEntry key value m.entries, nodup_setEntry key value m.nodup⟩

/-- Removes a key. -/
def erase (m : OrderedMap α) (key : String) : OrderedMap α :=
  ⟨m.entries.filter (·.1 != key), (List.filter_sublist.map Prod.fst).nodup m.nodup⟩

/-- Sorts the entries by a comparison of keys; keys that compare equal keep their order. -/
def sortKeys (m : OrderedMap α) (le : String → String → Bool) : OrderedMap α :=
  ⟨m.entries.mergeSort fun a b => le a.1 b.1,
    ((List.mergeSort_perm _ _).map Prod.fst).nodup_iff.2 m.nodup⟩

/-- Writes all entries of a list in order. -/
def setAll (m : OrderedMap α) (entries : List (String × α)) : OrderedMap α :=
  entries.foldl (fun m entry => m.set entry.1 entry.2) m

/-- The map that a list of entries writes. -/
def ofList (entries : List (String × α)) : OrderedMap α :=
  empty.setAll entries

/-- Changes every value; keys and order stay. -/
def map (f : α → β) (m : OrderedMap α) : OrderedMap β :=
  ⟨m.entries.map fun entry => (entry.1, f entry.2), by
    have := m.nodup
    simpa [List.map_map, Function.comp_def] using this⟩

end OrderedMap

end Scaffold

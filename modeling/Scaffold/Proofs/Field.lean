import Mathlib.Data.List.Forall2
import Mathlib.Data.List.TakeWhile
import Scaffold.Field
import Scaffold.Proofs.OrderedMap

/-!
# Field — which data declare fields, and what is wrong with the others

Generic data declare a row of fields in three forms (`Declares`): nothing, a mapping, and a sequence
of texts. A field map holds what the row declares, a key where it stands first and with the value
that stands last (`Collects`); keys are told apart by their texts alone, so that keys of a mapping
which are different values can fall together. Everything else is refused (`Refuses`), either as a
whole or for the first entry that declares nothing. All three are said without the reading.
`ofYaml_collects_declarations` says that reading accepts what declares a row of fields, and gives
the reason for refusing everything else.

What is written for a field map is read as that field map, and the two written forms of pairs are
read alike (`written_forms_read_back`).
-/

set_option autoImplicit false

namespace Scaffold

open Text (Trims Bare)

namespace FieldMap

/-! ## Fields -/

/-- A scalar has a text; null has the empty one. -/
inductive Spells : Yaml.Value → String → Prop
  | null : Spells .null ""
  | bool (b : Bool) : Spells (.bool b) (if b then "true" else "false")
  | number (n : Yaml.Number) : Spells (.number n) n.text
  | string (s : String) : Spells (.string s) s

/-- A scalar declares its text, and a sequence of scalars the list of their texts. -/
inductive DeclaresField : Yaml.Value → Field → Prop
  | text {v : Yaml.Value} {t : String} (h : Spells v t) : DeclaresField v (.text t)
  | list {items : List Yaml.Value} {texts : List String} (h : List.Forall₂ Spells items texts) :
      DeclaresField (.sequence items) (.list texts)

theorem scalarText?_eq_some_iff {v : Yaml.Value} {t : String} :
    v.scalarText? = some t ↔ Spells v t := by
  constructor
  · intro h
    cases v with
    | null =>
      cases h
      exact .null
    | bool b =>
      cases h
      cases b
      · exact .bool false
      · exact .bool true
    | number n =>
      cases h
      exact .number n
    | string s =>
      obtain rfl : s = t := Option.some.inj h
      exact .string s
    | sequence | mapping | tagged => cases h
  · rintro (_ | ⟨b⟩ | _ | _)
    · rfl
    · cases b <;> rfl
    · rfl
    · rfl

theorem mapM_scalarText?_eq_some_iff {items : List Yaml.Value} {texts : List String} :
    items.mapM Yaml.Value.scalarText? = some texts ↔ List.Forall₂ Spells items texts := by
  induction items generalizing texts with
  | nil =>
    rw [List.forall₂_nil_left_iff, List.mapM_nil]
    exact ⟨fun h => (Option.some.inj h).symm, fun h => congrArg some h.symm⟩
  | cons item items ih =>
    rw [List.forall₂_cons_left_iff, List.mapM_cons]
    simp only [← ih, ← scalarText?_eq_some_iff]
    constructor
    · intro h
      obtain ⟨t, hitem, h⟩ := Option.bind_eq_some_iff.1 h
      obtain ⟨ts, hitems, h⟩ := Option.bind_eq_some_iff.1 h
      exact ⟨t, ts, hitem, hitems, (Option.some.inj h).symm⟩
    · rintro ⟨t, ts, hitem, hitems, rfl⟩
      rw [hitem, hitems]
      rfl

theorem DeclaresField.field_eq {v : Yaml.Value} {f : Field} (h : DeclaresField v f)
    (key : String) : field key v = .ok f := by
  cases h with
  | list h => rw [field, mapM_scalarText?_eq_some_iff.2 h]
  | text h =>
    rw [field.eq_2 key v (by rintro items rfl; cases h), scalarText?_eq_some_iff.2 h]

theorem field_eq_error {v : Yaml.Value} (h : ∀ f, ¬ DeclaresField v f) (key : String) :
    field key v = .error (.unsupportedType key) := by
  rw [field.eq_def]
  split
  next items =>
    cases hitems : items.mapM Yaml.Value.scalarText? with
    | none => rfl
    | some texts => exact absurd (.list (mapM_scalarText?_eq_some_iff.1 hitems)) (h _)
  next =>
    cases htext : v.scalarText? with
    | none => rfl
    | some t => exact absurd (.text (scalarText?_eq_some_iff.1 htext)) (h _)

/-! ## Entries of a mapping -/

/-- An entry whose key is a scalar declares a field under the text of the key. -/
inductive DeclaresEntry : Yaml.Value × Yaml.Value → String × Field → Prop
  | entry {k v : Yaml.Value} {key : String} {f : Field} (hkey : Spells k key)
      (hvalue : DeclaresField v f) : DeclaresEntry (k, v) (key, f)

/-- What is wrong with an entry: its key is no scalar and is named as it is spelled out, or else
its value declares nothing and it is named by the text of its key. -/
inductive OffendsEntry : Yaml.Value × Yaml.Value → String → Prop
  | key {k v : Yaml.Value} (h : ∀ t, ¬ Spells k t) : OffendsEntry (k, v) k.spelledOut
  | value {k v : Yaml.Value} {key : String} (hkey : Spells k key)
      (h : ∀ f, ¬ DeclaresField v f) : OffendsEntry (k, v) key

theorem DeclaresEntry.addEntry_eq {entry : Yaml.Value × Yaml.Value} {d : String × Field}
    (h : DeclaresEntry entry d) (m : FieldMap) : addEntry m entry = .ok (m.set d.1 d.2) := by
  obtain ⟨hkey, hvalue⟩ := h
  rw [addEntry, scalarText?_eq_some_iff.2 hkey]
  dsimp only
  rw [hvalue.field_eq]
  rfl

theorem OffendsEntry.addEntry_eq {entry : Yaml.Value × Yaml.Value} {name : String}
    (h : OffendsEntry entry name) (m : FieldMap) :
    addEntry m entry = .error (.unsupportedType name) := by
  rw [addEntry]
  cases h with
  | @key k v h =>
    cases htext : k.scalarText? with
    | none => rfl
    | some t => exact absurd (scalarText?_eq_some_iff.1 htext) (h t)
  | value hkey h =>
    rw [scalarText?_eq_some_iff.2 hkey]
    dsimp only
    rw [field_eq_error h]
    rfl

theorem declares_or_offends_entry (entry : Yaml.Value × Yaml.Value) :
    (∃ d, DeclaresEntry entry d) ∨ ∃ name, OffendsEntry entry name := by
  obtain ⟨k, v⟩ := entry
  by_cases hkey : ∃ key, Spells k key
  · obtain ⟨key, hkey⟩ := hkey
    by_cases hvalue : ∃ f, DeclaresField v f
    · obtain ⟨f, hvalue⟩ := hvalue
      exact .inl ⟨_, .entry hkey hvalue⟩
    · exact .inr ⟨_, .value hkey (not_exists.1 hvalue)⟩
  · exact .inr ⟨_, .key (not_exists.1 hkey)⟩

/-! ## Items of a sequence -/

/-- A text declares what stands behind its first `=` under what stands in front of it, without the
blanks there. A text without `=` declares the empty text. -/
inductive DeclaresItem : Yaml.Value → String × Field → Prop
  | pair {front key value : String} (hfront : '=' ∉ front.toList)
      (hkey : Trims front.toList key.toList) :
      DeclaresItem (.string (front ++ "=" ++ value)) (key, .text value)
  | key {text key : String} (htext : '=' ∉ text.toList) (hkey : Trims text.toList key.toList) :
      DeclaresItem (.string text) (key, .text "")

/-- What is wrong with an item: it is no text. -/
inductive OffendsItem : Yaml.Value → String → Prop
  | other {item : Yaml.Value} (h : ∀ s, item ≠ .string s) : OffendsItem item item.spelledOut

theorem splitPair_pair {front : String} (hfront : '=' ∉ front.toList) (value : String) :
    splitPair (front ++ "=" ++ value) = (Text.trim front, value) := by
  have htext : (front ++ "=" ++ value).toList = front.toList ++ '=' :: value.toList := by
    simp
  have hpass (c : Char) (hc : c ∈ front.toList) : (c != '=') = true :=
    bne_iff_ne.2 fun heq => hfront (heq ▸ hc)
  rw [splitPair, htext, List.takeWhile_append_of_pos hpass, List.dropWhile_append_of_pos hpass]
  simp [Text.trim]

theorem splitPair_key {text : String} (htext : '=' ∉ text.toList) :
    splitPair text = (Text.trim text, "") := by
  have hpass (c : Char) (hc : c ∈ text.toList) : (c != '=') = true :=
    bne_iff_ne.2 fun heq => htext (heq ▸ hc)
  rw [splitPair, List.takeWhile_eq_self_iff.2 hpass, List.dropWhile_eq_nil_iff.2 hpass]
  rfl

theorem trim_eq_of_trims {text key : String} (h : Trims text.toList key.toList) :
    Text.trim text = key := by
  rw [Text.trim, h.trimChars_eq, String.ofList_toList]

theorem trims_trim (text : String) : Trims text.toList (Text.trim text).toList := by
  rw [Text.trim, String.toList_ofList]
  exact Text.trims_trimChars text.toList

theorem DeclaresItem.addItem_eq {item : Yaml.Value} {d : String × Field}
    (h : DeclaresItem item d) (m : FieldMap) : addItem m item = .ok (m.set d.1 d.2) := by
  cases h with
  | pair hfront hkey => rw [addItem, splitPair_pair hfront, trim_eq_of_trims hkey]
  | key htext hkey => rw [addItem, splitPair_key htext, trim_eq_of_trims hkey]

theorem OffendsItem.addItem_eq {item : Yaml.Value} {name : String} (h : OffendsItem item name)
    (m : FieldMap) : addItem m item = .error (.unsupportedType name) := by
  obtain ⟨h⟩ := h
  cases item with
  | string s => exact absurd rfl (h s)
  | _ => rfl

/-- Every text declares something. -/
theorem exists_declaresItem (text : String) : ∃ d, DeclaresItem (.string text) d := by
  by_cases htext : '=' ∈ text.toList
  · obtain ⟨front, behind, heq, hfront⟩ := List.eq_append_cons_of_mem htext
    have hpair : text = String.ofList front ++ "=" ++ String.ofList behind := by
      rw [← String.toList_inj]
      simp [heq]
    have hnot : '=' ∉ (String.ofList front).toList := by rwa [String.toList_ofList]
    exact ⟨_, hpair ▸ DeclaresItem.pair hnot (trims_trim _)⟩
  · exact ⟨_, .key htext (trims_trim text)⟩

theorem declares_or_offends_item (item : Yaml.Value) :
    (∃ d, DeclaresItem item d) ∨ ∃ name, OffendsItem item name := by
  by_cases htext : ∃ s, item = .string s
  · obtain ⟨s, rfl⟩ := htext
    exact .inl (exists_declaresItem s)
  · exact .inr ⟨_, .other (not_exists.1 htext)⟩

/-! ## Rows of declarations -/

/-- A step of reading writes what a part declares, and stops at a part that offends. -/
structure Reads {α : Type} (step : FieldMap → α → Except Error FieldMap)
    (Declares : α → String × Field → Prop) (Offends : α → String → Prop) : Prop where
  accepts : ∀ {a d}, Declares a d → ∀ m, step m a = .ok (m.set d.1 d.2)
  stops : ∀ {a name}, Offends a name → ∀ m, step m a = .error (.unsupportedType name)
  total : ∀ a, (∃ d, Declares a d) ∨ ∃ name, Offends a name

theorem reads_addEntry : Reads addEntry DeclaresEntry OffendsEntry :=
  ⟨DeclaresEntry.addEntry_eq, OffendsEntry.addEntry_eq, declares_or_offends_entry⟩

theorem reads_addItem : Reads addItem DeclaresItem OffendsItem :=
  ⟨DeclaresItem.addItem_eq, OffendsItem.addItem_eq, declares_or_offends_item⟩

section Rows

variable {α : Type} {step : FieldMap → α → Except Error FieldMap}
  {D : α → String × Field → Prop} {O : α → String → Prop}

/-- Parts that all declare something are written one by one. -/
theorem Reads.foldlM_eq (h : Reads step D O) {parts : List α} {row : List (String × Field)}
    (hrow : List.Forall₂ D parts row) (m : FieldMap) :
    parts.foldlM step m = .ok (m.setAll row) := by
  induction hrow generalizing m with
  | nil => rfl
  | cons hd _ ih =>
    rw [List.foldlM_cons, h.accepts hd]
    exact ih _

/-- The first part that offends ends the reading. -/
theorem Reads.foldlM_eq_error (h : Reads step D O) {front : List α} {a : α} {name : String}
    (hfront : ∀ b ∈ front, ∃ d, D b d) (ha : O a name) (behind : List α) (m : FieldMap) :
    (front ++ a :: behind).foldlM step m = .error (.unsupportedType name) := by
  induction front generalizing m with
  | nil =>
    rw [List.nil_append, List.foldlM_cons, h.stops ha]
    rfl
  | cons b front ih =>
    obtain ⟨d, hd⟩ := hfront b List.mem_cons_self
    rw [List.cons_append, List.foldlM_cons, h.accepts hd]
    exact ih (fun b hb => hfront b (List.mem_cons_of_mem _ hb)) _

/-- Either all parts declare something, or there is a first one that offends. -/
theorem Reads.row_or_first (h : Reads step D O) (parts : List α) :
    (∃ row, List.Forall₂ D parts row) ∨ ∃ front a behind name,
      parts = front ++ a :: behind ∧ (∀ b ∈ front, ∃ d, D b d) ∧ O a name := by
  induction parts with
  | nil => exact .inl ⟨[], .nil⟩
  | cons a parts ih =>
    rcases h.total a with ⟨d, hd⟩ | ⟨name, hname⟩
    · rcases ih with ⟨row, hrow⟩ | ⟨front, b, behind, name, rfl, hfront, hname⟩
      · exact .inl ⟨d :: row, .cons hd hrow⟩
      · refine .inr ⟨a :: front, b, behind, name, rfl, fun c hc => ?_, hname⟩
        rcases List.mem_cons.1 hc with rfl | hc
        · exact ⟨d, hd⟩
        · exact hfront c hc
    · exact .inr ⟨[], a, parts, name, rfl, by simp, hname⟩

end Rows

/-! ## Data as a whole -/

/-- The row of fields that data declare. -/
inductive Declares : Yaml.Value → List (String × Field) → Prop
  | null : Declares .null []
  | mapping {entries : List (Yaml.Value × Yaml.Value)} {row : List (String × Field)}
      (h : List.Forall₂ DeclaresEntry entries row) : Declares (.mapping entries) row
  | sequence {items : List Yaml.Value} {row : List (String × Field)}
      (h : List.Forall₂ DeclaresItem items row) : Declares (.sequence items) row

/-- Why data declare no fields: they have another form, or one of their parts is the first that
offends. -/
inductive Refuses : Yaml.Value → String → Prop
  | form {v : Yaml.Value} (hnull : v ≠ .null) (hmapping : ∀ entries, v ≠ .mapping entries)
      (hsequence : ∀ items, v ≠ .sequence items) : Refuses v v.spelledOut
  | entry {front behind : List (Yaml.Value × Yaml.Value)} {entry : Yaml.Value × Yaml.Value}
      {name : String} (hfront : ∀ e ∈ front, ∃ d, DeclaresEntry e d)
      (h : OffendsEntry entry name) : Refuses (.mapping (front ++ entry :: behind)) name
  | item {front behind : List Yaml.Value} {item : Yaml.Value} {name : String}
      (hfront : ∀ i ∈ front, ∃ d, DeclaresItem i d) (h : OffendsItem item name) :
      Refuses (.sequence (front ++ item :: behind)) name

/-- A map holds what a row declares: each key where it stands first, with the value that stands
last. -/
structure Collects (row : List (String × Field)) (m : FieldMap) : Prop where
  keys_eq : m.keys = (row.map Prod.fst).eraseDups
  get?_iff : ∀ key f, m.get? key = some f ↔
    ∃ front behind, row = front ++ (key, f) :: behind ∧ key ∉ behind.map Prod.fst

theorem Declares.ofYaml_eq {v : Yaml.Value} {row : List (String × Field)} (h : Declares v row) :
    ofYaml v = .ok (.ofList row) := by
  cases h with
  | null => rfl
  | mapping h => exact reads_addEntry.foldlM_eq h .empty
  | sequence h => exact reads_addItem.foldlM_eq h .empty

theorem Refuses.ofYaml_eq {v : Yaml.Value} {name : String} (h : Refuses v name) :
    ofYaml v = .error (.unsupportedType name) := by
  cases h with
  | form hnull hmapping hsequence =>
    cases v with
    | null => exact absurd rfl hnull
    | mapping entries => exact absurd rfl (hmapping entries)
    | sequence items => exact absurd rfl (hsequence items)
    | bool | number | string | tagged => rfl
  | entry hfront h => exact reads_addEntry.foldlM_eq_error hfront h _ .empty
  | item hfront h => exact reads_addItem.foldlM_eq_error hfront h _ .empty

theorem declares_or_refuses (v : Yaml.Value) :
    (∃ row, Declares v row) ∨ ∃ name, Refuses v name := by
  cases v with
  | null => exact .inl ⟨[], .null⟩
  | mapping entries =>
    rcases reads_addEntry.row_or_first entries with
      ⟨row, hrow⟩ | ⟨front, entry, behind, name, rfl, hfront, hname⟩
    · exact .inl ⟨row, .mapping hrow⟩
    · exact .inr ⟨name, .entry hfront hname⟩
  | sequence items =>
    rcases reads_addItem.row_or_first items with
      ⟨row, hrow⟩ | ⟨front, item, behind, name, rfl, hfront, hname⟩
    · exact .inl ⟨row, .sequence hrow⟩
    · exact .inr ⟨name, .item hfront hname⟩
  | bool | number | string | tagged => exact .inr ⟨_, .form nofun nofun nofun⟩

/-- The last value of a key in a row is the one that is found from the end. -/
theorem lookup_reverse_eq_some_iff {row : List (String × Field)} {key : String} {f : Field} :
    row.reverse.lookup key = some f ↔
      ∃ front behind, row = front ++ (key, f) :: behind ∧ key ∉ behind.map Prod.fst := by
  rw [List.lookup_eq_some_iff]
  constructor
  · rintro ⟨behind, front, hrow, hbehind⟩
    refine ⟨front.reverse, behind.reverse, ?_, ?_⟩
    · rw [← List.reverse_reverse row, hrow]
      simp
    · intro hmem
      obtain ⟨d, hd, heq⟩ := List.mem_map.1 hmem
      simpa [heq] using hbehind d (List.mem_reverse.1 hd)
  · rintro ⟨front, behind, rfl, hbehind⟩
    refine ⟨behind.reverse, front.reverse, by simp, fun d hd => bne_iff_ne.2 ?_⟩
    rintro rfl
    exact hbehind (List.mem_map_of_mem (List.mem_reverse.1 hd))

/-- A row is collected into one map, the one that it writes. -/
theorem collects_iff {row : List (String × Field)} {m : FieldMap} :
    Collects row m ↔ m = .ofList row := by
  constructor
  · intro h
    refine OrderedMap.ext_get? (h.keys_eq.trans (OrderedMap.keys_ofList row).symm) fun key => ?_
    refine Option.ext fun f => ?_
    rw [OrderedMap.get?_ofList, lookup_reverse_eq_some_iff]
    exact h.get?_iff key f
  · rintro rfl
    refine ⟨OrderedMap.keys_ofList row, fun key f => ?_⟩
    rw [OrderedMap.get?_ofList, lookup_reverse_eq_some_iff]

/-- Data are read as a field map exactly if they declare a row of fields, and the map holds what the
row declares. All other data are refused for what offends first, and nothing is refused for another
reason. -/
theorem ofYaml_collects_declarations (v : Yaml.Value) :
    (∀ m, ofYaml v = .ok m ↔ ∃ row, Declares v row ∧ Collects row m) ∧
      ∀ e, ofYaml v = .error e ↔ ∃ name, Refuses v name ∧ e = .unsupportedType name := by
  constructor
  · intro m
    constructor
    · intro hread
      rcases declares_or_refuses v with ⟨row, hrow⟩ | ⟨name, hname⟩
      · rw [hrow.ofYaml_eq] at hread
        exact ⟨row, hrow, collects_iff.2 (Except.ok.inj hread).symm⟩
      · rw [hname.ofYaml_eq] at hread
        cases hread
    · rintro ⟨row, hrow, hcollects⟩
      rw [hrow.ofYaml_eq, collects_iff.1 hcollects]
  · intro e
    constructor
    · intro hread
      rcases declares_or_refuses v with ⟨row, hrow⟩ | ⟨name, hname⟩
      · rw [hrow.ofYaml_eq] at hread
        cases hread
      · rw [hname.ofYaml_eq] at hread
        exact ⟨name, hname, (Except.error.inj hread).symm⟩
    · rintro ⟨name, hname, rfl⟩
      exact hname.ofYaml_eq

/-- A number and the text that spells it are different keys of a mapping and one key of a map. -/
example : (ofYaml (.mapping [(.number (.int 1), .string "a"), (.null, .null),
    (.string "1", .sequence [.bool true])])).map (·.entries) =
      .ok [("1", .list ["true"]), ("", .text "")] := by
  decide

/-! ## Written forms -/

/-- A field that is written declares itself, whatever its texts look like. -/
theorem declaresField_toYaml (f : Field) : DeclaresField f.toYaml f := by
  cases f with
  | text t => exact .text (.string t)
  | list texts =>
    refine .list (List.forall₂_map_left_iff.2 (List.forall₂_same.2 fun t _ => ?_))
    exact .string t

/-- A field map that is written declares its entries. -/
theorem declares_toYaml (m : FieldMap) : Declares m.toYaml m.entries := by
  refine .mapping (List.forall₂_map_left_iff.2 (List.forall₂_same.2 fun entry _ => ?_))
  exact .entry (.string entry.1) (declaresField_toYaml entry.2)

/-- Pairs of texts as a mapping. -/
def mappingForm (pairs : List (String × String)) : Yaml.Value :=
  .mapping (pairs.map fun pair => (.string pair.1, .string pair.2))

/-- Pairs of texts as a sequence, each with a `=` between its two texts. -/
def sequenceForm (pairs : List (String × String)) : Yaml.Value :=
  .sequence (pairs.map fun pair => .string (pair.1 ++ "=" ++ pair.2))

/-- The fields that pairs of texts stand for. -/
def textFields (pairs : List (String × String)) : List (String × Field) :=
  pairs.map fun pair => (pair.1, .text pair.2)

/-- The text can be a key in front of a `=`: there is none in it, and no blank at its ends. -/
def IsPlainKey (key : String) : Prop :=
  Bare key.toList ∧ '=' ∉ key.toList

instance (key : String) : Decidable (IsPlainKey key) :=
  inferInstanceAs (Decidable (_ ∧ _))

theorem declares_mappingForm (pairs : List (String × String)) :
    Declares (mappingForm pairs) (textFields pairs) := by
  refine .mapping (List.forall₂_map_left_iff.2 (List.forall₂_map_right_iff.2 ?_))
  exact List.forall₂_same.2 fun pair _ => .entry (.string pair.1) (.text (.string pair.2))

/-- Nothing is asked of the text behind the `=`. -/
theorem IsPlainKey.declaresItem {key : String} (h : IsPlainKey key) (value : String) :
    DeclaresItem (.string (key ++ "=" ++ value)) (key, .text value) :=
  .pair h.2 ⟨[], [], by simp, nofun, nofun, h.1⟩

theorem declares_sequenceForm {pairs : List (String × String)}
    (h : ∀ pair ∈ pairs, IsPlainKey pair.1) : Declares (sequenceForm pairs) (textFields pairs) := by
  refine .sequence (List.forall₂_map_left_iff.2 (List.forall₂_map_right_iff.2 ?_))
  exact List.forall₂_same.2 fun pair hpair => (h pair hpair).declaresItem pair.2

/-- What is written for a field map is read as that map, with its keys in order and every text a
text again. Pairs of texts with different plain keys are read as the map of exactly these pairs,
whether they are written as a mapping or as a sequence. -/
theorem written_forms_read_back :
    (∀ m : FieldMap, ofYaml m.toYaml = .ok m) ∧
      ∀ pairs : List (String × String), (pairs.map Prod.fst).Nodup →
        (∀ pair ∈ pairs, IsPlainKey pair.1) →
        ∃ m : FieldMap, ofYaml (mappingForm pairs) = .ok m ∧ ofYaml (sequenceForm pairs) = .ok m ∧
          m.entries = textFields pairs := by
  constructor
  · intro m
    rw [(declares_toYaml m).ofYaml_eq, OrderedMap.ofList_entries]
  · intro pairs hnodup hplain
    refine ⟨.ofList (textFields pairs), (declares_mappingForm pairs).ofYaml_eq,
      (declares_sequenceForm hplain).ofYaml_eq, ?_⟩
    have hkeys : (textFields pairs).map Prod.fst = pairs.map Prod.fst := by
      rw [textFields, List.map_map]
      rfl
    exact OrderedMap.entries_setAll_of_nodup .empty (textFields pairs) (hkeys ▸ hnodup)

/-- Pairs whose texts look like other scalars, hold a `=`, or are empty. -/
def lookalikes : List (String × String) :=
  [("true", "1"), ("null", " a=b="), ("", "~"), ("0x1F", "")]

/-- The forms of these pairs differ and are read as one map. -/
theorem written_forms_read_back_lookalikes :
    (lookalikes.map Prod.fst).Nodup ∧ (∀ pair ∈ lookalikes, IsPlainKey pair.1) ∧
      ∃ m : FieldMap, ofYaml (mappingForm lookalikes) = .ok m ∧
        ofYaml (.sequence [.string "true=1", .string "null= a=b=", .string "=~",
          .string "0x1F="]) = .ok m ∧
        m.entries = textFields lookalikes := by
  have hnodup : (lookalikes.map Prod.fst).Nodup := by decide
  have hplain : ∀ pair ∈ lookalikes, IsPlainKey pair.1 := by decide
  exact ⟨hnodup, hplain, written_forms_read_back.2 lookalikes hnodup hplain⟩

end FieldMap

end Scaffold

import Scaffold.Json.Reading
import Scaffold.Proofs.OrderedMap

/-!
# Reading — what readings give

A reading gives something if whatever it reads within so many levels of collections, from whichever
text, satisfies a predicate (`Gives`). There is one rule for each way to build a reading from
others; what fails gives anything.

What is read generically has no more levels than may be opened; its members are sorted and its
integers have 64 bits (`gives_value`).
-/

set_option autoImplicit false

/-!
## Shape — nesting, numbers and order of values

How deep the collections of a value are nested (`levels`), and what is so of a value and of all
values in it (`everywhere`). A value can be read within so many levels of collections (`IsWithin`)
if it has no more of them, if the members of its objects are sorted and if its integers have 64
bits; this is so of a collection if it is so of its parts one level below (`isWithin_array`,
`isWithin_object`).
-/

namespace Scaffold.Json

/-! ### The shape of values -/

mutual

/-- How deep collections are nested in a value. -/
def levels : Json → Nat
  | .array items => itemLevels items + 1
  | .object members => memberLevels members + 1
  | _ => 0

/-- How deep collections are nested in items. -/
def itemLevels : List Json → Nat
  | [] => 0
  | j :: js => max j.levels (itemLevels js)

/-- How deep collections are nested in members. -/
def memberLevels : List (String × Json) → Nat
  | [] => 0
  | (_, j) :: members => max j.levels (memberLevels members)

end

mutual

/-- Something is so of a value and of all values in it. -/
def everywhere (p : Json → Bool) : Json → Bool
  | .array items => p (.array items) && everyItem p items
  | .object members => p (.object members) && everyMember p members
  | j => p j

/-- Something is so of all values in items. -/
def everyItem (p : Json → Bool) : List Json → Bool
  | [] => true
  | j :: js => j.everywhere p && everyItem p js

/-- Something is so of all values in members. -/
def everyMember (p : Json → Bool) : List (String × Json) → Bool
  | [] => true
  | (_, j) :: members => j.everywhere p && everyMember p members

end

/-- No number is a floating point number. -/
def isFloatless (j : Json) : Bool :=
  j.everywhere fun
    | .float _ => false
    | _ => true

/-- An integer has 64 bits, with a sign or without one. -/
def hasWord (n : Int) : Bool :=
  -(Nat.pow 2 63 : Nat) ≤ n && n < (Nat.pow 2 64 : Nat)

/-- Every integer has 64 bits. -/
def fits (j : Json) : Bool :=
  j.everywhere fun
    | .int n => hasWord n
    | _ => true

theorem itemLevels_le_iff {items : List Json} {n : Nat} :
    itemLevels items ≤ n ↔ ∀ j ∈ items, j.levels ≤ n := by
  induction items with
  | nil => simp [itemLevels]
  | cons j items ih => rw [itemLevels, Nat.max_le, ih, List.forall_mem_cons]

theorem memberLevels_le_iff {members : List (String × Json)} {n : Nat} :
    memberLevels members ≤ n ↔ ∀ member ∈ members, member.2.levels ≤ n := by
  induction members with
  | nil => simp [memberLevels]
  | cons member members ih => rw [memberLevels, Nat.max_le, ih, List.forall_mem_cons]

theorem everyItem_iff {p : Json → Bool} {items : List Json} :
    everyItem p items = true ↔ ∀ j ∈ items, j.everywhere p = true := by
  induction items with
  | nil => simp [everyItem]
  | cons j items ih => simp [everyItem, ih]

theorem everyMember_iff {p : Json → Bool} {members : List (String × Json)} :
    everyMember p members = true ↔ ∀ member ∈ members, member.2.everywhere p = true := by
  induction members with
  | nil => simp [everyMember]
  | cons member members ih => simp [everyMember, ih]

/-! ### Sorted members -/

theorem sortedItems_iff {items : List Json} :
    sortedItems items = true ↔ ∀ j ∈ items, j.isSorted = true := by
  induction items with
  | nil => simp [sortedItems]
  | cons j items ih => simp [sortedItems, ih]

theorem sortedMembers_iff {members : List (String × Json)} :
    sortedMembers members = true ↔ ∀ member ∈ members, member.2.isSorted = true := by
  induction members with
  | nil => simp [sortedMembers]
  | cons member members ih => simp [sortedMembers, ih]

/-- Names are increasing if each of them is smaller than all behind it. -/
theorem increasing_iff {names : List String} :
    increasing names = true ↔ names.Pairwise (· < ·) := by
  induction names with
  | nil => simp [increasing]
  | cons a names ih =>
    cases names with
    | nil => simp [increasing]
    | cons b names =>
      rw [increasing, Bool.and_eq_true, decide_eq_true_eq, ih]
      constructor
      · rintro ⟨hab, hpairs⟩
        refine List.pairwise_cons.2 ⟨List.forall_mem_cons.2 ⟨hab, fun name hname => ?_⟩, hpairs⟩
        exact String.lt_trans hab (List.rel_of_pairwise_cons hpairs hname)
      · intro hpairs
        exact ⟨List.rel_of_pairwise_cons hpairs List.mem_cons_self, hpairs.of_cons⟩

theorem mem_insertMember {name : String} {value : Json} {members : List (String × Json)}
    {member : String × Json} (h : member ∈ insertMember name value members) :
    member = (name, value) ∨ member ∈ members := by
  induction members with
  | nil => exact .inl (List.mem_singleton.1 h)
  | cons other members ih =>
    obtain ⟨n, v⟩ := other
    rw [insertMember] at h
    split at h
    next hname =>
      rcases List.mem_cons.1 h with rfl | h
      · exact .inl (hname ▸ rfl)
      · exact .inr (List.mem_cons_of_mem _ h)
    next =>
      split at h
      next => exact List.mem_cons.1 h
      next =>
        rcases List.mem_cons.1 h with rfl | h
        · exact .inr List.mem_cons_self
        · exact (ih h).imp_right (List.mem_cons_of_mem _)

/-- Members stay sorted when another one is written into them. -/
theorem pairwise_insertMember {name : String} {value : Json} {members : List (String × Json)}
    (h : (members.map Prod.fst).Pairwise (· < ·)) :
    ((insertMember name value members).map Prod.fst).Pairwise (· < ·) := by
  induction members with
  | nil => exact List.pairwise_singleton _ _
  | cons member members ih =>
    obtain ⟨n, v⟩ := member
    rw [insertMember]
    split
    next => exact h
    next hne =>
      split
      next hlt =>
        refine List.pairwise_cons.2 ⟨List.forall_mem_cons.2 ⟨hlt, fun other hmem => ?_⟩, h⟩
        exact String.lt_trans hlt (List.rel_of_pairwise_cons h hmem)
      next hnlt =>
        have hlarger : n < name := by
          refine Decidable.byContradiction fun hnot => hne ?_
          exact String.le_antisymm (String.not_lt.1 hnot) (String.not_lt.1 hnlt)
        refine List.pairwise_cons.2 ⟨fun other hmem => ?_, ih h.of_cons⟩
        obtain ⟨member, hmember, rfl⟩ := List.mem_map.1 hmem
        rcases mem_insertMember hmember with rfl | hmember
        · exact hlarger
        · exact List.rel_of_pairwise_cons h (List.mem_map_of_mem hmember)

/-- A member whose name is larger than all others goes behind them. -/
theorem insertMember_of_lt {name : String} (value : Json) {members : List (String × Json)}
    (h : ∀ member ∈ members, member.1 < name) :
    insertMember name value members = members ++ [(name, value)] := by
  induction members with
  | nil => rfl
  | cons member members ih =>
    obtain ⟨n, v⟩ := member
    have hlt : n < name := h (n, v) List.mem_cons_self
    have hne : name ≠ n := by
      rintro rfl
      exact String.lt_irrefl name hlt
    rw [insertMember, if_neg hne, if_neg (String.lt_asymm hlt),
      ih fun member hmem => h member (List.mem_cons_of_mem _ hmem), List.cons_append]

/-! ### Values that can be read -/

/-- A value that can be read within so many levels of collections. -/
structure IsWithin (depth : Nat) (j : Json) : Prop where
  sorted : j.isSorted = true
  fits : j.fits = true
  levels : j.levels ≤ depth

theorem isWithin_array {depth : Nat} {items : List Json} :
    (array items).IsWithin (depth + 1) ↔ ∀ j ∈ items, j.IsWithin depth := by
  constructor
  · rintro ⟨hsorted, hfits, hlevels⟩ j hmem
    exact ⟨sortedItems_iff.1 hsorted j hmem, everyItem_iff.1 hfits j hmem,
      itemLevels_le_iff.1 (Nat.le_of_succ_le_succ hlevels) j hmem⟩
  · intro h
    exact ⟨sortedItems_iff.2 fun j hmem => (h j hmem).sorted,
      everyItem_iff.2 fun j hmem => (h j hmem).fits,
      Nat.succ_le_succ (itemLevels_le_iff.2 fun j hmem => (h j hmem).levels)⟩

theorem isWithin_object {depth : Nat} {members : List (String × Json)} :
    (object members).IsWithin (depth + 1) ↔
      (members.map Prod.fst).Pairwise (· < ·) ∧ ∀ member ∈ members, member.2.IsWithin depth := by
  constructor
  · rintro ⟨hsorted, hfits, hlevels⟩
    rw [isSorted, Bool.and_eq_true] at hsorted
    refine ⟨increasing_iff.1 hsorted.1, fun member hmem => ?_⟩
    exact ⟨sortedMembers_iff.1 hsorted.2 member hmem, everyMember_iff.1 hfits member hmem,
      memberLevels_le_iff.1 (Nat.le_of_succ_le_succ hlevels) member hmem⟩
  · rintro ⟨hpairs, h⟩
    refine ⟨?_, everyMember_iff.2 fun member hmem => (h member hmem).fits,
      Nat.succ_le_succ (memberLevels_le_iff.2 fun member hmem => (h member hmem).levels)⟩
    rw [isSorted, Bool.and_eq_true]
    exact ⟨increasing_iff.2 hpairs, sortedMembers_iff.2 fun member hmem => (h member hmem).sorted⟩

end Scaffold.Json

/-! ## Readings -/

namespace Scaffold.Json

namespace Reading

variable {α β σ : Type} {R : α → Prop} {S : β → Prop} {I : σ → Prop} {depth : Nat}

/-- Whatever is read satisfies the predicate. -/
def Gives (R : α → Prop) (r : Reading α) (depth : Nat) : Prop :=
  ∀ c a c', r depth c = .ok (a, c') → R a

theorem gives_pure {a : α} (h : R a) : Gives R (pure a) depth := by
  intro c a' c' heq
  cases heq
  exact h

theorem gives_fail (reason : String) : Gives R (fail reason) depth := nofun

theorem gives_failNext (reason : String) : Gives R (failNext reason) depth := nofun

theorem gives_true (r : Reading α) : Gives (fun _ => True) r depth := fun _ _ _ _ => trivial

theorem Gives.bind {x : Reading α} {f : α → Reading β} (hx : Gives R x depth)
    (hf : ∀ a, R a → Gives S (f a) depth) : Gives S (x >>= f) depth := by
  intro c b c' heq
  change (x depth c >>= fun r => f r.1 depth r.2) = .ok (b, c') at heq
  cases hresult : x depth c with
  | error fault =>
    rw [hresult] at heq
    cases heq
  | ok r =>
    rw [hresult] at heq
    exact hf r.1 (hx _ _ _ hresult) r.2 b c' heq

/-- What comes first may give anything, if what follows does not rely on it. -/
theorem gives_bind {x : Reading α} {f : α → Reading β} (hf : ∀ a, Gives S (f a) depth) :
    Gives S (x >>= f) depth :=
  (gives_true x).bind fun a _ => hf a

/-- What is read and put into something else. -/
theorem Gives.put {x : Reading α} {f : α → β} (hx : Gives R x depth) (hf : ∀ a, R a → S (f a)) :
    Gives S (do return f (← x)) depth :=
  hx.bind fun a ha => gives_pure (hf a ha)

theorem Gives.opened {r : Reading α} (hr : Gives R r depth) : Gives R (opened r) (depth + 1) :=
  fun c a c' heq => hr c.next a c' heq

theorem gives_opened_zero (r : Reading α) : Gives R (opened r) 0 := nofun

/-! ### Numbers -/

/-- Digits are read into a number of 64 bits. -/
theorem gives_fill (fuel : Nat) {n : Nat} (hn : n < Nat.pow 2 64) (count : Nat) :
    Gives (fun filled => filled.1 < Nat.pow 2 64) (fill fuel n count) depth := by
  induction fuel generalizing n count with
  | zero => exact gives_pure hn
  | succ fuel ih =>
    refine gives_bind fun x => ?_
    split
    next x =>
      split
      next =>
        dsimp only
        split
        next => exact gives_pure hn
        next hgrown => exact gives_bind fun _ => ih (Nat.lt_of_not_le hgrown) _
      next => exact gives_pure hn
    next => exact gives_pure hn

theorem isWithin_float (x : Float) : (Json.float x).IsWithin depth :=
  ⟨rfl, rfl, Nat.zero_le depth⟩

theorem isWithin_int {n : Int} (h : hasWord n = true) : (Json.int n).IsWithin depth :=
  ⟨rfl, h, Nat.zero_le depth⟩

theorem gives_double (negative : Bool) (significand : Nat) (start : Int) :
    Gives (IsWithin depth) (double negative significand start) depth := by
  unfold double
  split
  · exact gives_pure (isWithin_float _)
  · exact gives_fail _

theorem gives_exponent (negative : Bool) (significand : Nat) (start : Int) :
    Gives (IsWithin depth) (exponent negative significand start) depth := by
  refine gives_bind fun _ => gives_bind fun sign => ?_
  dsimp only
  split
  -- a sign is passed before the digits
  on_goal 1 => refine gives_bind fun _ => ?_
  on_goal 2 => refine gives_bind fun _ => ?_
  all_goals
    refine gives_bind fun negativeExponent => gives_bind fun x => ?_
    split
    next => exact gives_fail _
    next x =>
      split
      next => exact gives_fail _
      next =>
        refine gives_bind fun c => gives_bind fun n => ?_
        split
        next => exact gives_double _ _ _
        next =>
          split
          next => exact gives_fail _
          next => exact gives_bind fun _ => gives_pure (isWithin_float _)

theorem gives_maybeExponent (negative : Bool) (significand : Nat) (start : Int) :
    Gives (IsWithin depth) (maybeExponent negative significand start) depth := by
  refine gives_bind fun x => ?_
  split
  · exact gives_exponent _ _ _
  · exact gives_exponent _ _ _
  · exact gives_double _ _ _

theorem gives_fraction (negative : Bool) (significand : Nat) (start : Int) :
    Gives (IsWithin depth) (fraction negative significand start) depth := by
  refine gives_bind fun _ => gives_bind fun c => gives_bind fun (grown, count, full) => ?_
  dsimp only
  split
  · exact gives_bind fun _ => gives_maybeExponent _ _ _
  · split
    · refine gives_bind fun x => ?_
      split <;> exact gives_failNext _
    · exact gives_maybeExponent _ _ _

theorem gives_whole {n : Nat} (hn : n < Nat.pow 2 64) (negative : Bool) :
    Gives (IsWithin depth) (whole negative n) depth := by
  refine gives_bind fun x => ?_
  split
  next => exact gives_fraction _ _ _
  next => exact gives_exponent _ _ _
  next => exact gives_exponent _ _ _
  next =>
    split
    next =>
      refine gives_pure (isWithin_int ?_)
      simp only [hasWord, Bool.and_eq_true, decide_eq_true_eq]
      omega
    next =>
      split
      next hsmall =>
        refine gives_pure (isWithin_int ?_)
        simp only [hasWord, Bool.and_eq_true, decide_eq_true_eq] at hsmall ⊢
        omega
      next => exact gives_pure (isWithin_float _)

/-- A number that is read is a floating point number, or an integer of 64 bits. -/
theorem gives_number (negative : Bool) : Gives (IsWithin depth) (number negative) depth := by
  refine gives_bind fun x => ?_
  split
  next => exact gives_fail _
  next =>
    refine gives_bind fun y => ?_
    split
    next =>
      split
      next => exact gives_failNext _
      next => exact gives_whole (by decide) negative
    next => exact gives_whole (by decide) negative
  next x _ =>
    split
    next => exact gives_fail _
    next hdigit =>
      have hfirst : x.toNat - 48 < Nat.pow 2 64 := by
        have hchar : x.toNat < 2 ^ 32 := x.val.toNat_lt
        have hpow : 2 ^ 32 < Nat.pow 2 64 := by decide
        omega
      refine gives_bind fun c => (gives_fill _ hfirst 0).bind fun (n, count, full) hn => ?_
      dsimp only
      split
      next =>
        refine gives_bind fun dropped => gives_bind fun y => ?_
        split
        · exact gives_fraction _ _ _
        · exact gives_exponent _ _ _
        · exact gives_exponent _ _ _
        · exact gives_double _ _ _
      next => exact gives_whole hn negative

/-! ### Collections -/

theorem gives_itemsWith {r : Reading α} (hr : Gives R r depth) (fuel : Nat) (first : Bool)
    {read : List α} (hread : ∀ a ∈ read, R a) :
    Gives (fun items => ∀ a ∈ items, R a) (itemsWith r fuel first read) depth := by
  have hreverse : ∀ a ∈ read.reverse, R a := fun a hmem => hread a (List.mem_reverse.1 hmem)
  induction fuel generalizing first read with
  | zero => exact gives_pure hreverse
  | succ fuel ih =>
    refine gives_bind fun follows => ?_
    split
    · refine hr.bind fun a ha => ?_
      have hnext : ∀ a' ∈ a :: read, R a' := List.forall_mem_cons.2 ⟨ha, hread⟩
      exact ih false hnext fun a' hmem => hnext a' (List.mem_reverse.1 hmem)
    · exact gives_pure hreverse

/-- What holds at first and is preserved by every member holds at the end of the members. -/
theorem gives_membersWith {r : σ → String → Reading σ}
    (hr : ∀ state name, I state → Gives I (r state name) depth) (fuel : Nat) (first : Bool)
    {state : σ} (h : I state) : Gives I (membersWith r fuel first state) depth := by
  induction fuel generalizing first state with
  | zero => exact gives_pure h
  | succ fuel ih =>
    refine gives_bind fun follows => ?_
    split
    · exact gives_bind fun name => (hr state name h).bind fun state' h' => ih false h'
    · exact gives_pure h

theorem Gives.listWith {r : Reading α} (hr : Gives R r depth) :
    Gives (fun items => ∀ a ∈ items, R a) (listWith r) (depth + 1) := by
  refine Gives.opened (gives_bind fun fuel => ?_)
  refine (gives_itemsWith hr fuel true (List.forall_mem_nil R)).bind fun items hitems => ?_
  exact gives_bind fun _ => gives_pure hitems

theorem gives_objectWith {start : σ} {r : σ → String → Reading σ} (hstart : I start)
    (hr : ∀ state name, I state → Gives I (r state name) depth) :
    Gives I (objectWith start r) (depth + 1) := by
  refine Gives.opened (gives_bind fun fuel => ?_)
  refine (gives_membersWith hr fuel true hstart).bind fun state hstate => ?_
  exact gives_bind fun _ => gives_pure hstate

/-! ### Generic values -/

/-- A value that is read is a list, or an object, or no collection. -/
theorem gives_valueWith {part : Reading Json}
    (hlist : Gives (fun items => (array items).IsWithin depth) (listWith part) depth)
    (hobject : Gives (fun members => (object members).IsWithin depth)
      (objectWith [] fun members name => do
        colon
        return insertMember name (← part) members) depth) :
    Gives (IsWithin depth) (valueWith part) depth := by
  refine gives_bind fun x => ?_
  split
  · exact gives_failNext _
  · exact gives_bind fun _ => gives_bind fun _ => gives_pure ⟨rfl, rfl, Nat.zero_le depth⟩
  · exact gives_bind fun _ => gives_bind fun _ => gives_pure ⟨rfl, rfl, Nat.zero_le depth⟩
  · exact gives_bind fun _ => gives_bind fun _ => gives_pure ⟨rfl, rfl, Nat.zero_le depth⟩
  · exact gives_bind fun _ => gives_number true
  · exact gives_bind fun _ => gives_bind fun s => gives_pure ⟨rfl, rfl, Nat.zero_le depth⟩
  · exact hlist.put fun _ h => h
  · exact hobject.put fun _ h => h
  · split
    · exact gives_number false
    · exact gives_failNext _

theorem gives_valueWithin (depth : Nat) : Gives (IsWithin depth) (valueWithin depth) depth := by
  induction depth with
  | zero => exact gives_valueWith (gives_opened_zero _) (gives_opened_zero _)
  | succ depth ih =>
    refine gives_valueWith (fun c items c' h => isWithin_array.2 (ih.listWith c items c' h)) ?_
    -- the members that were read stay sorted, and each of them is within the levels that are left
    let I (members : List (String × Json)) : Prop :=
      (members.map Prod.fst).Pairwise (· < ·) ∧ ∀ member ∈ members, member.2.IsWithin depth
    have hmembers : Gives I (objectWith [] fun members name => do
        colon
        return insertMember name (← valueWithin depth) members) (depth + 1) := by
      refine gives_objectWith ⟨List.Pairwise.nil, nofun⟩ fun members name hI => ?_
      refine gives_bind fun _ => ih.put fun value hvalue => ⟨pairwise_insertMember hI.1, ?_⟩
      intro member hmem
      rcases mem_insertMember hmem with rfl | hmem
      · exact hvalue
      · exact hI.2 member hmem
    exact fun c members c' h => isWithin_object.2 (hmembers c members c' h)

/-- Generic values that are read can be read. -/
theorem gives_value : Gives (IsWithin depth) value depth :=
  gives_valueWithin depth

/-! ### Expectations -/

theorem gives_mismatch (expected : String) : Gives R (mismatch expected) depth := by
  refine gives_bind fun x => ?_
  split
  · exact gives_fail _
  · exact gives_fail _
  · exact gives_bind fun j => gives_fail _

theorem Gives.list {r : Reading α} (hr : Gives R r depth) :
    Gives (fun items => ∀ a ∈ items, R a) (list r) (depth + 1) := by
  refine gives_bind fun x => ?_
  split
  · exact hr.listWith
  · exact gives_mismatch _

theorem Gives.map {r : Reading α} (hr : Gives R r depth) :
    Gives (OrderedMap.All R) (map r) (depth + 1) := by
  refine gives_bind fun x => ?_
  split
  · refine gives_objectWith OrderedMap.all_empty fun m name hm => ?_
    exact gives_bind fun _ => hr.put fun a ha => hm.set name ha
  · exact gives_mismatch _

/-! ### Records -/

section Records

variable {fields : List (FieldReader σ)}

theorem gives_fieldsInOrder (hfields : ∀ field ∈ fields, ∀ s, I s → Gives I (field.set s) depth)
    (first : Bool) {s : σ} (h : I s) : Gives I (fieldsInOrder fields first s) depth := by
  induction fields generalizing first s with
  | nil => exact gives_pure h
  | cons field fields ih =>
    refine gives_bind fun follows => ?_
    split
    · refine (hfields field List.mem_cons_self s h).bind fun s' h' => ?_
      exact ih (fun field hmem => hfields field (List.mem_cons_of_mem _ hmem)) false h'
    · exact gives_pure h

/-- What holds of the defaults of a record and is preserved by each of its fields holds of the
record, be it an object or a list. -/
theorem gives_record {expected : String} {start : σ} (hstart : I start)
    (hfields : ∀ field ∈ fields, ∀ s, I s → Gives I (field.set s) depth) :
    Gives I (record expected start fields) (depth + 1) := by
  refine gives_bind fun x => ?_
  split
  · refine Gives.opened ((gives_fieldsInOrder hfields true hstart).bind fun s hs => ?_)
    exact gives_bind fun _ => gives_pure hs
  · refine Gives.put (R := fun result => I result.1) ?_ fun _ h => h
    refine gives_objectWith hstart fun (s, seen) name hs => ?_
    dsimp only
    split
    next => exact gives_bind fun _ => gives_bind fun _ => gives_pure hs
    next field hfield =>
      have hset := hfields field (List.mem_of_find?_eq_some hfield) s hs
      have hbehind : Gives (fun result => I result.1) (do
          colon
          return (← field.set s, name :: seen)) depth :=
        gives_bind fun _ => hset.put fun _ h => h
      split
      next =>
        refine gives_bind fun x => ?_
        split
        · exact gives_bind fun _ => gives_bind fun _ => hbehind
        · exact gives_bind fun _ => hbehind
      next => exact hbehind
  · exact gives_mismatch _

end Records

/-- What a reading gives is what it reads from all of a text. -/
theorem Gives.run {r : Reading α} (hr : Gives R r 127) {text : String} {a : α}
    (h : run r text = .ok a) : R a := by
  rw [Reading.run] at h
  cases hresult : (r 127).run { rest := text.toList } with
  | error fault =>
    rw [hresult] at h
    cases h
  | ok result =>
    rw [hresult] at h
    change (if result.2.skipSpace.rest.isEmpty = true then _ else _) = Except.ok a at h
    split at h
    · cases h
      exact hr _ _ _ hresult
    · cases h

end Reading

end Scaffold.Json

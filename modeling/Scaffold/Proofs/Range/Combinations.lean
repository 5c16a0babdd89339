import Mathlib.Algebra.BigOperators.Group.List.Basic
import Mathlib.Data.List.Forall2
import Scaffold.Proofs.Range

/-!
# Combinations — which combinations a walk visits, and what each of them sees

A combination takes one element of each source; it is told by the places of these elements. The
places in lexicographic order (`places`) are those of all combinations, the last source fastest, and
this is the order of a walk. In a call the names of each level stand for the element of that level
and all others for what they stood for before (`Shows`), although the walk binds, binds again and
removes names on one map all the time: what a level leaves behind when it turns to the next element
are its own names and holes where names of the levels below were. `walk_visits` puts this together
with the way a failing call ends the walk.
-/

set_option autoImplicit false

namespace Scaffold

open Scaffold.Expr (Value)

namespace Range

/-! ## The combinations in order -/

/-- The places of the elements of every combination, the last source fastest. -/
def places : List RangeSource → List (List Nat)
  | [] => [[]]
  | source :: sources =>
    (List.range source.size).flatMap fun i => (places sources).map (i :: ·)

/-- The places are those of elements that the sources have. -/
theorem mem_places_iff {sources : List RangeSource} {place : List Nat} :
    place ∈ places sources ↔ List.Forall₂ (fun i source => i < source.size) place sources := by
  induction sources generalizing place with
  | nil => rw [places, List.mem_singleton, List.forall₂_nil_right_iff]
  | cons source sources ih =>
    rw [places, List.mem_flatMap, List.forall₂_cons_right_iff]
    constructor
    · rintro ⟨i, hi, hplace⟩
      obtain ⟨rest, hrest, rfl⟩ := List.mem_map.1 hplace
      exact ⟨i, rest, List.mem_range.1 hi, ih.1 hrest, rfl⟩
    · rintro ⟨i, rest, hi, hrest, rfl⟩
      exact ⟨i, List.mem_range.2 hi, List.mem_map_of_mem (ih.2 hrest)⟩

theorem length_places (sources : List RangeSource) :
    (places sources).length = (sources.map RangeSource.size).prod := by
  induction sources with
  | nil => rfl
  | cons source sources ih =>
    rw [places, List.length_flatMap, List.map_cons, List.prod_cons]
    simp [ih]

/-- The places stand in lexicographic order. -/
theorem pairwise_places (sources : List RangeSource) :
    (places sources).Pairwise (List.Lex (· < ·)) := by
  induction sources with
  | nil => exact List.pairwise_singleton _ _
  | cons source sources ih =>
    refine List.pairwise_flatMap.2 ⟨fun i _ => ?_, ?_⟩
    · exact List.pairwise_map.2 (ih.imp fun hlex => .cons hlex)
    · refine List.pairwise_lt_range.imp fun {i k} hlt first hfirst second hsecond => ?_
      obtain ⟨rest, -, rfl⟩ := List.mem_map.1 hfirst
      obtain ⟨rest', -, rfl⟩ := List.mem_map.1 hsecond
      exact .rel hlt

/-! ## What a combination sees -/

/-- Names show a combination that begins at a level: the names of each level stand for its element,
and every other name for what it stood for before. -/
structure Shows (sources : List RangeSource) (level : Nat) (before : Bindings) (place : List Nat)
    (names : Bindings) : Prop where
  chosen : ∀ j source i, sources[j]? = some source → place[j]? = some i →
    ∃ entry, source.entries[i]? = some entry ∧
      names.get? (keyName (level + j)) = some entry.1 ∧
      names.get? (valueName (level + j)) = some entry.2
  others : ∀ name, isNameOf (List.range' level sources.length) name = false →
    names.get? name = before.get? name

theorem get?_bindLevel (level : Nat) (entry : Value × Value) (names : Bindings) (name : String) :
    (bindLevel level entry names).get? name =
      if name = valueName level then some entry.2
      else if name = keyName level then some entry.1 else names.get? name := by
  rw [bindLevel, OrderedMap.get?_set, OrderedMap.get?_set]

theorem get?_unbindLevels {levels : List Nat} {name : String} (h : isNameOf levels name = false)
    (names : Bindings) : (unbindLevels levels names).get? name = names.get? name := by
  rw [OrderedMap.get?, entries_unbindLevels]
  exact OrderedMap.lookup_filter_key (p := fun name => !isNameOf levels name) (by simp [h]) _

theorem isNameOf_cons {level : Nat} {levels : List Nat} {name : String} :
    isNameOf (level :: levels) name = false ↔
      (name ≠ keyName level ∧ name ≠ valueName level) ∧ isNameOf levels name = false := by
  simp [isNameOf]

/-- The names of a level are none of those of other levels. -/
theorem isNameOf_of_not_mem {level : Nat} {levels : List Nat} (h : level ∉ levels) :
    isNameOf levels (keyName level) = false ∧ isNameOf levels (valueName level) = false := by
  constructor
  · rw [Bool.eq_false_iff]
    intro hname
    obtain ⟨l, hl, heq | heq⟩ := isNameOf_iff.1 hname
    · exact h (keyName_injective heq ▸ hl)
    · exact keyName_ne_valueName level l heq
  · rw [Bool.eq_false_iff]
    intro hname
    obtain ⟨l, hl, heq | heq⟩ := isNameOf_iff.1 hname
    · exact keyName_ne_valueName l level heq.symm
    · exact h (valueName_injective heq ▸ hl)

/-- A combination below an element that is bound is one of this level. -/
theorem Shows.cons {source : RangeSource} {sources : List RangeSource} {level i : Nat}
    {before start names : Bindings} {place : List Nat} {entry : Value × Value}
    (h : Shows sources (level + 1) (bindLevel level entry start) place names)
    (hentry : source.entries[i]? = some entry)
    (hstart : ∀ name, isNameOf (List.range' level (sources.length + 1)) name = false →
      start.get? name = before.get? name) :
    Shows (source :: sources) level before (i :: place) names := by
  have hlevel : level ∉ List.range' (level + 1) sources.length := by
    simp [List.mem_range']
    omega
  obtain ⟨hkey, hvalue⟩ := isNameOf_of_not_mem hlevel
  refine ⟨fun j source' i' hsource hplace => ?_, fun name hname => ?_⟩
  · cases j with
    | zero =>
      obtain rfl : source = source' := Option.some.inj hsource
      obtain rfl : i = i' := Option.some.inj hplace
      refine ⟨entry, hentry, ?_, ?_⟩
      · rw [Nat.add_zero, h.others _ hkey, get?_bindLevel,
          if_neg (keyName_ne_valueName level level), if_pos rfl]
      · rw [Nat.add_zero, h.others _ hvalue, get?_bindLevel, if_pos rfl]
    | succ j =>
      have hj : level + (j + 1) = level + 1 + j := by omega
      rw [hj]
      exact h.chosen j source' i' hsource hplace
  · rw [List.length_cons, List.range'_succ] at hname
    obtain ⟨⟨hnotKey, hnotValue⟩, hbelow⟩ := isNameOf_cons.1 hname
    rw [h.others name hbelow, get?_bindLevel, if_neg hnotValue, if_neg hnotKey]
    exact hstart name hname

theorem opened_of_full {sources : List RangeSource} {level : Nat}
    (hfull : emptyLevel? sources level = none) :
    opened sources level = List.range' level sources.length := by
  induction sources generalizing level with
  | nil => rfl
  | cons source sources ih =>
    rw [emptyLevel?] at hfull
    split at hfull
    next => cases hfull
    next hsource => rw [opened, if_neg hsource, ih hfull, List.length_cons, List.range'_succ]

/-- The calls of a walk see the combinations in their order. The names in which the next element of
a level is bound agree with those before the walk but for the names of the levels. -/
theorem forall₂_shows_seen {sources : List RangeSource} {level : Nat}
    (hfull : emptyLevel? sources level = none) (before : Bindings) :
    List.Forall₂ (Shows sources level before) (places sources) (seen sources level before) := by
  induction sources generalizing level before with
  | nil =>
    refine .cons ⟨fun j source i hsource => ?_, fun _ _ => rfl⟩ .nil
    cases hsource
  | cons source sources ih =>
    rw [emptyLevel?] at hfull
    split at hfull
    next => cases hfull
    next hsource =>
      have heach (entries : List (Value × Value)) (offset : Nat) (start : Bindings)
          (hentries : ∀ i, entries[i]? = source.entries[offset + i]?)
          (hstart : ∀ name, isNameOf (List.range' level (sources.length + 1)) name = false →
            start.get? name = before.get? name) :
          List.Forall₂ (Shows (source :: sources) level before)
            ((List.range' offset entries.length).flatMap fun i => (places sources).map (i :: ·))
            (seenEach (seen sources (level + 1)) (opened sources (level + 1)) level entries
              start) := by
        induction entries generalizing offset start with
        | nil => exact .nil
        | cons entry entries ihEntries =>
          have hentry : source.entries[offset]? = some entry := (hentries 0).symm
          rw [List.length_cons, List.range'_succ, List.flatMap_cons, seenEach]
          refine List.rel_append ?_ (ihEntries (offset + 1) _ (fun i => ?_) fun name hname => ?_)
          · refine List.forall₂_map_left_iff.2 ((ih hfull _).imp fun place names hshows => ?_)
            exact hshows.cons hentry hstart
          · have hi : offset + 1 + i = offset + (i + 1) := by omega
            rw [hi, ← hentries (i + 1), List.getElem?_cons_succ]
          · have hcons := hname
            rw [List.range'_succ] at hcons
            obtain ⟨⟨hnotKey, hnotValue⟩, hbelow⟩ := isNameOf_cons.1 hcons
            rw [opened_of_full hfull, get?_unbindLevels hbelow, get?_bindLevel, if_neg hnotValue,
              if_neg hnotKey]
            exact hstart name hname
      have hall := heach source.entries 0 before (fun i => by rw [Nat.zero_add]) fun _ _ => rfl
      rw [length_entries, ← List.range_eq_range'] at hall
      exact hall

/-! ## Calls -/

section Calls

variable {σ : Type}

/-- A call of an action: the names that it saw and what came of it. -/
structure Call where
  names : Bindings
  outcome : Except Error Unit

/-- An action that also notes its calls. -/
def noting (action : Bindings → StateM σ (Except Error Unit)) (names : Bindings) :
    StateM (List Call × σ) (Except Error Unit) := fun (calls, s) =>
  let (outcome, s) := action names s
  (outcome, calls ++ [⟨names, outcome⟩], s)

/-- Calls that are made in turn for rows of names, until one fails. -/
structure MadeInTurn (rows : List Bindings) (calls : List Call) (result : Except Error Unit) :
    Prop where
  seen : calls.map Call.names <+: rows
  /-- The first failure is the last call, and its error is the result. -/
  failed : ∀ m call e, calls[m]? = some call → call.outcome = .error e →
    calls.length = m + 1 ∧ result = .error e
  /-- Without a failure there is a call for every row. -/
  completed : (∀ call ∈ calls, call.outcome = .ok ()) →
    calls.length = rows.length ∧ result = .ok ()

theorem run_inTurn_cons {α : Type} (action : α → StateM σ (Except Error Unit)) (a : α)
    (as : List α) (s : σ) :
    (inTurn action (a :: as)).run s =
      match action a s with
      | (.ok (), s) => (inTurn action as).run s
      | (.error e, s) => (.error e, s) := by
  change (action a >>= _ : StateM σ _).run s = _
  rw [StateT.run_bind, StateT.run]
  cases action a s with
  | mk outcome s₁ => cases outcome <;> rfl

/-- Acting in turn makes the calls that it notes, and noting them changes nothing. -/
theorem inTurn_noting (action : Bindings → StateM σ (Except Error Unit)) (rows : List Bindings)
    (noted : List Call) (s : σ) :
    ∃ calls result s', (inTurn (noting action) rows).run (noted, s) = (result, noted ++ calls, s') ∧
      (inTurn action rows).run s = (result, s') ∧ MadeInTurn rows calls result := by
  induction rows generalizing noted s with
  | nil =>
    refine ⟨[], .ok (), s, ?_, rfl, List.prefix_rfl, fun m call e hget => ?_, fun _ => ⟨rfl, rfl⟩⟩
    · rw [List.append_nil]
      rfl
    · cases hget
  | cons row rows ih =>
    rw [run_inTurn_cons, run_inTurn_cons, noting]
    cases action row s with
    | mk outcome s₁ =>
      cases outcome with
      | ok u =>
        obtain ⟨calls, result, s', hnoted, hplain, hmade⟩ := ih (noted ++ [⟨row, .ok u⟩]) s₁
        rw [List.append_assoc] at hnoted
        refine ⟨⟨row, .ok u⟩ :: calls, result, s', hnoted, hplain, ?_, ?_, ?_⟩
        · exact (List.prefix_cons_inj row).2 hmade.seen
        · intro m call e hget herror
          cases m with
          | zero =>
            cases hget
            cases herror
          | succ m =>
            obtain ⟨hlength, hresult⟩ := hmade.failed m call e hget herror
            exact ⟨congrArg (· + 1) hlength, hresult⟩
        · intro hall
          obtain ⟨hlength, hresult⟩ := hmade.completed fun call hmem =>
            hall call (List.mem_cons_of_mem _ hmem)
          exact ⟨congrArg (· + 1) hlength, hresult⟩
      | error e =>
        refine ⟨[⟨row, .error e⟩], .error e, s₁, rfl, rfl, ?_, ?_, ?_⟩
        · exact (List.prefix_cons_inj row).2 List.nil_prefix
        · intro m call e' hget herror
          cases m with
          | zero =>
            cases hget
            exact ⟨rfl, herror⟩
          | succ m => cases hget
        · intro hall
          cases hall _ List.mem_cons_self

/-- A walk over sources that all have elements calls its action for the combinations in
lexicographic order, and each call sees its own. The first call that fails is the last one and its
error the result; otherwise there are as many calls as the sizes of the sources multiply to. -/
theorem walk_visits (action : Bindings → StateM σ (Except Error Unit))
    (sources : List RangeSource) (level : Nat) (before : Bindings) (s : σ)
    (hsources : ∀ source ∈ sources, source.isEmpty = false) :
    ∃ (order : List (List Nat)) (calls : List Call) (result : Except Error Unit) (after : Bindings)
      (s' : σ),
      (walk (noting action) sources level before).run ([], s) = ((result, after), calls, s') ∧
      (walk action sources level before).run s = ((result, after), s') ∧
      (∀ place, place ∈ order ↔
        List.Forall₂ (fun i source => i < RangeSource.size source) place sources) ∧
      order.Pairwise (List.Lex (· < ·)) ∧
      (∀ (m : Nat) (call : Call), calls[m]? = some call →
        ∃ place, order[m]? = some place ∧ Shows sources level before place call.names) ∧
      (∀ (m : Nat) (call : Call) (e : Error), calls[m]? = some call → call.outcome = .error e →
        calls.length = m + 1 ∧ result = .error e) ∧
      ((∀ call ∈ calls, call.outcome = .ok ()) →
        calls.length = (sources.map RangeSource.size).prod ∧ result = .ok ()) := by
  have hfull : emptyLevel? sources level = none := by
    clear before s
    induction sources generalizing level with
    | nil => rfl
    | cons source sources ih =>
      rw [emptyLevel?, if_neg (Bool.eq_false_iff.1 (hsources source List.mem_cons_self))]
      exact ih (level + 1) fun source hmem => hsources source (List.mem_cons_of_mem _ hmem)
  have hshows := forall₂_shows_seen hfull before
  obtain ⟨calls, result, s', hnoted, hplain, hmade⟩ :=
    inTurn_noting action (seen sources level before) [] s
  refine ⟨places sources, calls, result, unbindLevels (opened sources level) before, s', ?_, ?_,
    fun place => mem_places_iff, pairwise_places sources, fun m call hcall => ?_, hmade.failed,
    fun hall => ?_⟩
  · rw [walk_of_full (noting action) hfull, StateT.run_map, hnoted]
    rfl
  · rw [walk_of_full action hfull, StateT.run_map, hplain]
    rfl
  · obtain ⟨rest, hrest⟩ := hmade.seen
    have hlt : m < (calls.map Call.names).length := by
      rw [List.length_map]
      exact (List.getElem?_eq_some_iff.1 hcall).1
    have hseen : (seen sources level before)[m]? = some call.names := by
      rw [← hrest, List.getElem?_append_left hlt, List.getElem?_map, hcall]
      rfl
    obtain ⟨hlength, hat⟩ := List.forall₂_iff_get.1 hshows
    obtain ⟨hbound, hnames⟩ := List.getElem?_eq_some_iff.1 hseen
    have hplace : m < (places sources).length := hlength ▸ hbound
    exact ⟨_, List.getElem?_eq_getElem hplace, hnames ▸ hat m hplace hbound⟩
  · obtain ⟨hlength, hresult⟩ := hmade.completed hall
    rw [← hshows.length_eq, length_places] at hlength
    exact ⟨hlength, hresult⟩

/-- A sequence and a map, with two elements each. -/
def twoByTwo : List RangeSource :=
  [.sequence [.text "a", .text "b"], .map [(.text "x", .count 1), (.text "y", .count 2)]]

/-- An action that fails when it is called for the third time. -/
def failsThird (_ : Bindings) : StateM Nat (Except Error Unit) := fun n =>
  (if n = 2 then .error (.range (.stopped "third")) else .ok (), n + 1)

/-- The third of four combinations ends the walk. -/
theorem walk_visits_twoByTwo :
    (∀ source ∈ twoByTwo, source.isEmpty = false) ∧
      ∃ calls result after s', (walk (noting failsThird) twoByTwo 0 (.standard {})).run ([], 0) =
          ((result, after), calls, s') ∧
        calls.length = 3 ∧ result = .error (.range (.stopped "third")) := by
  have hsources : ∀ source ∈ twoByTwo, source.isEmpty = false := by decide
  refine ⟨hsources, ?_⟩
  obtain ⟨-, calls, result, after, s', hrun, -, -, -, -, hfailed, -⟩ :=
    walk_visits failsThird twoByTwo 0 (.standard {}) 0 hsources
  have hcalls : ((walk (noting failsThird) twoByTwo 0 (.standard {})).run ([], 0)).2.1 = calls :=
    congrArg (·.2.1) hrun
  have hthird : calls[2]?.map Call.outcome = some (.error (.range (.stopped "third"))) := by
    rw [← hcalls]
    decide +kernel
  obtain ⟨call, hcall, houtcome⟩ := Option.map_eq_some_iff.1 hthird
  obtain ⟨hlength, hresult⟩ := hfailed 2 call _ hcall houtcome
  exact ⟨calls, result, after, s', hrun, hlength, hresult⟩

end Calls

/-! ## What a walk leaves of the names -/

/-- The levels that a walk opens are as many as there are sources in front of the first one without
elements. -/
theorem opened_eq_range' (sources : List RangeSource) (level : Nat) :
    opened sources level =
      List.range' level (sources.takeWhile fun source => !source.isEmpty).length := by
  induction sources generalizing level with
  | nil => rfl
  | cons source sources ih =>
    rw [opened, List.takeWhile_cons]
    cases source.isEmpty with
    | true => rfl
    | false => exact congrArg (level :: ·) (ih (level + 1))

theorem get?_unbindLevels_of_isNameOf {levels : List Nat} {name : String}
    (h : isNameOf levels name = true) (names : Bindings) :
    (unbindLevels levels names).get? name = none := by
  refine List.lookup_eq_none_iff.2 fun entry hmem => ?_
  rw [entries_unbindLevels] at hmem
  have hother := (List.mem_filter.1 hmem).2
  rw [bne_iff_ne]
  rintro rfl
  rw [h] at hother
  cases hother

/-- Whatever comes of a walk, it leaves the names without those of the levels that it has opened. -/
theorem snd_walk {σ : Type} (action : Bindings → StateM σ (Except Error Unit))
    (sources : List RangeSource) (level : Nat) (names : Bindings) (s : σ) :
    ((walk action sources level names).run s).1.2 = unbindLevels (opened sources level) names := by
  cases hlevel : emptyLevel? sources level with
  | some n =>
    rw [walk_of_empty action hlevel]
    rfl
  | none =>
    rw [walk_of_full action hlevel, StateT.run_map]
    rfl

theorem isNameOf_eq_false_iff {levels : List Nat} {name : String} :
    isNameOf levels name = false ↔ ∀ l ∈ levels, name ≠ keyName l ∧ name ≠ valueName l := by
  simp [isNameOf]

/-- Sources are walked, elements or none, under any names that are bound before, by an action that
does whatever it likes and fails wherever it likes. Behind the walk the names of the levels in front
of the first source without elements stand for nothing, every other name stands for what it stood
for, and the entries are those before without these names, in their order. If none of the names of
these levels was bound before, nothing has changed. -/
theorem walk_restores {σ : Type} (action : Bindings → StateM σ (Except Error Unit))
    (sources : List RangeSource) (level : Nat) (before : Bindings) (s : σ) :
    let after := ((walk action sources level before).run s).1.2
    let levels := List.range' level (sources.takeWhile fun source => !source.isEmpty).length
    (∀ l ∈ levels, after.get? (keyName l) = none ∧ after.get? (valueName l) = none) ∧
      (∀ name, (∀ l ∈ levels, name ≠ keyName l ∧ name ≠ valueName l) →
        after.get? name = before.get? name) ∧
      after.entries = before.entries.filter (fun entry => !isNameOf levels entry.1) ∧
      ((∀ l ∈ levels, before.get? (keyName l) = none ∧ before.get? (valueName l) = none) →
        after = before) := by
  intro after levels
  have hafter : after = unbindLevels levels before := by
    rw [show levels = opened sources level from (opened_eq_range' sources level).symm]
    exact snd_walk action sources level before s
  rw [hafter]
  refine ⟨fun l hl => ⟨?_, ?_⟩, fun name hname => ?_, entries_unbindLevels levels before,
    fun hunbound => unbindLevels_eq_self fun name hmem => Bool.eq_false_iff.2 fun hname => ?_⟩
  · exact get?_unbindLevels_of_isNameOf (isNameOf_iff.2 ⟨l, hl, .inl rfl⟩) before
  · exact get?_unbindLevels_of_isNameOf (isNameOf_iff.2 ⟨l, hl, .inr rfl⟩) before
  · exact get?_unbindLevels (isNameOf_eq_false_iff.2 hname) before
  · -- a name of one of these levels that is bound nevertheless
    obtain ⟨entry, hentry, rfl⟩ := List.mem_map.1 hmem
    have hbound : before.get? entry.1 = some entry.2 := OrderedMap.get?_of_mem hentry
    obtain ⟨l, hl, heq | heq⟩ := isNameOf_iff.1 hname
    · rw [heq, (hunbound l hl).1] at hbound
      cases hbound
    · rw [heq, (hunbound l hl).2] at hbound
      cases hbound

/-- The names of a level that is never opened stay. -/
example :
    ((walk (fun _ => pure (.ok ())) [.sequence [.none], .sequence []] 0
      (.ofList [("k0", .none), ("k1", .none)]) : StateM Unit _).run ()).1.2.keys = ["k1"] := by
  decide

end Range

end Scaffold

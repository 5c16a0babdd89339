import Scaffold.Proofs.Generation.Schedule
import Scaffold.Proofs.Sight

/-!
# Fields — the fields of a section are resolved from front to back

Each field of a section is evaluated once, as it was declared, and its result stands in its place
before the next one is evaluated (`Resolves`). The loop that does so reads every declaration from
the document that it is changing; that it finds what was declared is its invariant: the results so
far stand in front, and all behind them is as it was (`Section.Replaced`). So resolving a section is
a fold over its declared entries (`resolveFields_in_order`).
-/

set_option autoImplicit false

namespace Scaffold

/-- The shape of a field: a text, or the length of a list. -/
def Field.shape : Field → Option Nat
  | .text _ => none
  | .list values => some values.length

theorem length_evaluateTexts {names : Bindings} {exprs texts : List String} {c c' : Context}
    (h : evaluateTexts names exprs c = (.ok texts, c')) : texts.length = exprs.length := by
  induction exprs generalizing texts c with
  | nil =>
    cases h
    rfl
  | cons expr exprs ih =>
    obtain ⟨text, c₁, -, hrest⟩ := Step.bind_eq_ok h
    obtain ⟨rest, c₂, hrest, hall⟩ := Step.bind_eq_ok hrest
    cases hall
    exact congrArg (· + 1) (ih hrest)

/-- What a field evaluates to has its shape. -/
theorem shape_evaluateField {names : Bindings} {declared field : Field} {c c' : Context}
    (h : evaluateField names declared c = (.ok field, c')) : field.shape = declared.shape := by
  cases declared with
  | text expr =>
    obtain ⟨text, c₁, -, hfield⟩ := Step.bind_eq_ok h
    cases hfield
    rfl
  | list exprs =>
    obtain ⟨texts, c₁, htexts, hfield⟩ := Step.bind_eq_ok h
    cases hfield
    exact congrArg some (length_evaluateTexts htexts)

namespace Generation

/-! ## A section that is resolved in part -/

/-- The fields of a section in the order of declaration. -/
def Section.entries (s : Section) (d : Document) : List (String × Field) :=
  ((s.fields d).map (·.entries)).getD []

/-- A document without the fields of a section. -/
def Section.without (s : Section) (d : Document) : Document :=
  match s with
  | .envs => { d with envs := none }
  | .vars => { d with vars := none }

/-- An entry without its texts. -/
def formOf (entry : String × Field) : String × Option Nat := (entry.1, entry.2.shape)

/-- The keys of a section in their order, each with the shape of its field. -/
def Section.form (s : Section) (d : Document) : List (String × Option Nat) :=
  (s.entries d).map formOf

/-- Results stand in place of the first fields of a section, each under the key and in the shape of
the one that was declared. What is declared behind them and all other sections are as before. -/
structure Section.Replaced (s : Section) (results : List (String × Field)) (d d' : Document) :
    Prop where
  fields : (s.fields d').map (·.entries) =
    (s.fields d).map fun m => results ++ m.entries.drop results.length
  form : results.map formOf <+: s.form d
  elsewhere : s.without d' = s.without d

namespace Section

variable {s : Section} {results entries : List (String × Field)} {d d' : Document} {key : String}
  {declared field : Field}

theorem fields_set (s : Section) (d : Document) (key : String) (field : Field) :
    s.fields (s.set d key field) = (s.fields d).map (·.set key field) := by
  cases s <;> rfl

theorem without_set (s : Section) (d : Document) (key : String) (field : Field) :
    s.without (s.set d key field) = s.without d := by
  cases s <;> rfl

theorem replaced_nil (s : Section) (d : Document) : s.Replaced [] d d where
  fields := by simp
  form := List.nil_prefix
  elsewhere := rfl

theorem entries_of_fields {m : FieldMap} (h : s.fields d = some m) : s.entries d = m.entries := by
  rw [Section.entries, h]
  rfl

/-- While an entry is pending, the section is there and holds it right behind the results. -/
theorem Replaced.pending (h : s.Replaced results d d')
    (hpending : (s.entries d).drop results.length = (key, declared) :: entries) :
    ∃ m m' : FieldMap, s.fields d = some m ∧ s.fields d' = some m' ∧
      m.entries.drop results.length = (key, declared) :: entries ∧
      m'.entries = results ++ (key, declared) :: entries ∧ key ∉ results.map Prod.fst := by
  have hfields := h.fields
  cases hd : s.fields d with
  | none => simp [Section.entries, hd] at hpending
  | some m =>
    rw [entries_of_fields hd] at hpending
    cases hd' : s.fields d' with
    | none => simp [hd, hd'] at hfields
    | some m' =>
      have hentries : m'.entries = results ++ (key, declared) :: entries := by
        simpa [hd, hd', hpending] using hfields
      refine ⟨m, m', rfl, rfl, hpending, hentries, fun hmem => ?_⟩
      have hnodup := m'.nodup
      rw [hentries, List.map_append, List.map_cons] at hnodup
      exact (List.nodup_append.1 hnodup).2.2 key hmem key List.mem_cons_self rfl

/-- A pending entry is found as it was declared. -/
theorem Replaced.get? (h : s.Replaced results d d')
    (hpending : (s.entries d).drop results.length = (key, declared) :: entries) :
    (s.fields d').bind (·.get? key) = some declared := by
  obtain ⟨m, m', -, hd', -, hentries, hkey⟩ := h.pending hpending
  rw [hd', Option.bind_some, OrderedMap.get?, hentries, List.lookup_append,
    List.lookup_eq_none_iff.2 fun entry hmem => ?_]
  · simp
  · have hne : key ≠ entry.1 := fun heq => hkey (heq ▸ List.mem_map_of_mem hmem)
    simpa using hne

/-- Storing the result of the pending entry makes it one of the results. -/
theorem Replaced.set (h : s.Replaced results d d')
    (hpending : (s.entries d).drop results.length = (key, declared) :: entries)
    (hshape : field.shape = declared.shape) :
    s.Replaced (results ++ [(key, field)]) d (s.set d' key field) := by
  obtain ⟨m, m', hd, hd', hrest, hentries, hkey⟩ := h.pending hpending
  refine ⟨?_, ?_, (without_set s d' key field).trans h.elsewhere⟩
  · have hbehind : m.entries.drop (results.length + 1) = entries := by
      rw [← List.drop_drop, hrest]
      rfl
    simp only [fields_set, hd, hd', Option.map_some, OrderedMap.entries_set, hentries,
      OrderedMap.setEntry_append_of_not_mem key field hkey, OrderedMap.setEntry, if_true,
      List.length_append, List.length_singleton, hbehind, List.append_assoc, List.singleton_append]
  · have hform : s.form d =
        ((s.entries d).take results.length ++ (key, declared) :: entries).map formOf := by
      rw [← hpending, List.take_append_drop]
      rfl
    have hfront : results.map formOf = ((s.entries d).take results.length).map formOf := by
      have hbegin := List.prefix_iff_eq_take.1 h.form
      rw [List.length_map, Section.form, ← List.map_take] at hbegin
      exact hbegin
    rw [hform, List.map_append, List.map_append, hfront, List.map_cons]
    have hentry : formOf (key, field) = formOf (key, declared) := by
      rw [formOf, formOf, hshape]
    exact ⟨entries.map formOf, by simp [hentry]⟩

/-- Neither the keys nor their order nor the shapes of the fields change. -/
theorem Replaced.form_eq (h : s.Replaced results d d') : s.form d' = s.form d := by
  have hfields := h.fields
  have hbegin := List.prefix_iff_eq_take.1 h.form
  cases hd : s.fields d with
  | none =>
    have hd' : s.fields d' = none := by simpa [hd] using hfields
    simp [Section.form, Section.entries, hd, hd']
  | some m =>
    cases hd' : s.fields d' with
    | none => simp [hd, hd'] at hfields
    | some m' =>
      have hentries : m'.entries = results ++ m.entries.drop results.length := by
        simpa [hd, hd'] using hfields
      rw [List.length_map, Section.form, entries_of_fields hd, ← List.map_take] at hbegin
      rw [Section.form, Section.form, entries_of_fields hd, entries_of_fields hd', hentries,
        List.map_append, hbegin, ← List.map_append, List.take_append_drop]

end Section

/-! ## Evaluations in a row -/

/-- An evaluation of a declared field. -/
structure Evaluation where
  key : String
  declared : Field
  /-- The context in which it is begun. -/
  start : Context
  outcome : Except Error Field

namespace Evaluation

/-- The field that an evaluation gives a key. -/
def result? (e : Evaluation) : Option (String × Field) :=
  e.outcome.toOption.map (e.key, ·)

/-- The entry of the report that an evaluation with a result is followed by. -/
def report? (s : Section) (e : Evaluation) : Option SystemCall :=
  e.outcome.toOption.map fun field =>
    .report ⟨s.phase.text, "$\x7b" ++ e.key ++ "\x7d: " ++ field.show⟩

/-- The error of an evaluation that failed. -/
def error? (e : Evaluation) : Option Error :=
  match e.outcome with
  | .ok _ => none
  | .error error => some error

end Evaluation

/-- The results of evaluations, in order. -/
def resultsOf (history : List Evaluation) : List (String × Field) :=
  history.filterMap Evaluation.result?

/-- The context in which the evaluation of an entry is begun. -/
def Section.begin (s : Section) (entry : String × Field) (c : Context) : Context :=
  c.enter s.phase entry.1 (.ofField entry.2)

/-- The context in which the result of a key is stored. -/
def Section.store (s : Section) (key : String) (field : Field) (c : Context) : Context :=
  { c with document := s.set c.document key field }

/-- Declared entries are resolved from a context on: each is evaluated and its result stored before
the next one, until one fails or none is left. -/
inductive Resolves (s : Section) (names : Bindings) : List (String × Field) → Context →
    List Evaluation → Except Error Unit → Context → Prop
  | finished (c : Context) : Resolves s names [] c [] (.ok ()) c
  | failed {key : String} {declared : Field} {entries : List (String × Field)} {c c' : Context}
      {e : Error} (h : evaluateField names declared (s.begin (key, declared) c) = (.error e, c')) :
      Resolves s names ((key, declared) :: entries) c
        [⟨key, declared, s.begin (key, declared) c, .error e⟩] (.error e) c'
  | next {key : String} {declared field : Field} {entries : List (String × Field)}
      {c c' c'' : Context} {history : List Evaluation} {result : Except Error Unit}
      (h : evaluateField names declared (s.begin (key, declared) c) = (.ok field, c'))
      (rest : Resolves s names entries (s.store key field c') history result c'') :
      Resolves s names ((key, declared) :: entries) c
        (⟨key, declared, s.begin (key, declared) c, .ok field⟩ :: history) result c''

/-- Resolves an entry, unless one before it has failed. -/
def resolveNext (s : Section) (names : Bindings) :
    Except Error Unit × Context → String × Field → Except Error Unit × Context
  | (.error e, c), _ => (.error e, c)
  | (.ok (), c), (key, declared) =>
    match evaluateField names declared (s.begin (key, declared) c) with
    | (.ok field, c) => (.ok (), s.store key field c)
    | (.error e, c) => (.error e, c)

section Resolving

variable {s : Section} {names : Bindings} {entries results : List (String × Field)}
  {c c' : Context} {d : Document} {history : List Evaluation} {result : Except Error Unit}

theorem foldl_resolveNext_error (entries : List (String × Field)) (e : Error) (c : Context) :
    entries.foldl (resolveNext s names) (.error e, c) = (.error e, c) := by
  induction entries with
  | nil => rfl
  | cons entry entries ih => exact ih

/-- Resolving entries is a fold over them. -/
theorem Resolves.eq_foldl (h : Resolves s names entries c history result c') :
    (result, c') = entries.foldl (resolveNext s names) (.ok (), c) := by
  induction h with
  | finished c => rfl
  | @failed key declared entries c c' e h =>
    rw [List.foldl_cons, resolveNext, h]
    exact (foldl_resolveNext_error entries e c').symm
  | next h rest ih =>
    rw [List.foldl_cons, resolveNext, h]
    exact ih

theorem document_of_evaluateField {key : String} {declared : Field}
    {outcome : Except Error Field}
    (h : evaluateField names declared (s.begin (key, declared) c) = (outcome, c')) :
    c'.document = c.document :=
  (congrArg (·.2.document) h).symm.trans
    (evaluateField_keeps_document names declared (s.begin (key, declared) c))

/-- The step of the loop: when a pending entry is resolved, its result is the last one, and the
entries behind it are pending. -/
theorem replaced_of_evaluateField {key : String} {declared field : Field}
    (hreplaced : s.Replaced results d c.document)
    (hpending : (s.entries d).drop results.length = (key, declared) :: entries)
    (h : evaluateField names declared (s.begin (key, declared) c) = (.ok field, c')) :
    s.Replaced (results ++ [(key, field)]) d (s.store key field c').document ∧
      (s.entries d).drop (results ++ [(key, field)]).length = entries := by
  constructor
  · have hset := hreplaced.set hpending (shape_evaluateField h)
    rw [← document_of_evaluateField h] at hset
    exact hset
  · rw [List.length_append, List.length_singleton, ← List.drop_drop, hpending]
    rfl

/-- As long as the evaluations go on, the invariant holds: results in front, declarations behind. -/
theorem Resolves.replaced (h : Resolves s names entries c history result c')
    (hreplaced : s.Replaced results d c.document)
    (hpending : (s.entries d).drop results.length = entries) :
    (∀ before e after, before ++ e :: after = history →
      (resultsOf before).map Prod.fst = before.map Evaluation.key ∧
        s.Replaced (results ++ resultsOf before) d e.start.document) ∧
    s.Replaced (results ++ resultsOf history) d c'.document := by
  induction h generalizing results with
  | finished c => exact ⟨fun before e after hsplit => by simp at hsplit, by simpa [resultsOf]⟩
  | @failed key declared entries c c' e h =>
    have hnone : resultsOf [⟨key, declared, s.begin (key, declared) c, .error e⟩] = [] := rfl
    rw [hnone, List.append_nil, document_of_evaluateField h]
    refine ⟨fun before e' after hsplit => ?_, hreplaced⟩
    cases before with
    | nil =>
      obtain ⟨rfl, -⟩ := List.cons.inj hsplit
      rw [resultsOf, List.filterMap_nil, List.append_nil]
      exact ⟨rfl, hreplaced⟩
    | cons first before => simp at hsplit
  | @next key declared field entries c c' c'' history result h rest ih =>
    obtain ⟨hstored, hbehind⟩ := replaced_of_evaluateField hreplaced hpending h
    have hcons (before : List Evaluation) :
        results ++ resultsOf (⟨key, declared, s.begin (key, declared) c, .ok field⟩ :: before) =
          (results ++ [(key, field)]) ++ resultsOf before :=
      List.append_cons results (key, field) (resultsOf before)
    obtain ⟨hstarts, hend⟩ := ih hstored hbehind
    refine ⟨fun before e after hsplit => ?_, hcons history ▸ hend⟩
    cases before with
    | nil =>
      obtain ⟨rfl, -⟩ := List.cons.inj hsplit
      rw [resultsOf, List.filterMap_nil, List.append_nil]
      exact ⟨rfl, hreplaced⟩
    | cons first before =>
      obtain ⟨rfl, htail⟩ := List.cons.inj hsplit
      obtain ⟨hkeys, hstart⟩ := hstarts before e after htail
      exact ⟨congrArg (key :: ·) hkeys, hcons before ▸ hstart⟩

theorem Resolves.declared (h : Resolves s names entries c history result c') :
    history.map (fun e => (e.key, e.declared)) <+: entries ∧
      (result = .ok () → history.map (fun e => (e.key, e.declared)) = entries) := by
  induction h with
  | finished c => exact ⟨List.prefix_rfl, fun _ => rfl⟩
  | failed h => exact ⟨(List.prefix_cons_inj _).2 List.nil_prefix, nofun⟩
  | next h rest ih =>
    exact ⟨(List.prefix_cons_inj _).2 ih.1, fun hok => congrArg (_ :: ·) (ih.2 hok)⟩

theorem Resolves.outcome (h : Resolves s names entries c history result c') :
    ∀ e ∈ history, e.outcome = (evaluateField names e.declared e.start).1 ∧
      e.start.phase = s.phase ∧ e.start.name = e.key ∧ e.start.data = .ofField e.declared := by
  induction h with
  | finished c => exact fun e hmem => absurd hmem List.not_mem_nil
  | failed h =>
    intro e hmem
    rw [List.mem_singleton.1 hmem]
    exact ⟨(congrArg Prod.fst h).symm, rfl, rfl, rfl⟩
  | next h rest ih =>
    intro e hmem
    rcases List.mem_cons.1 hmem with rfl | hmem
    · exact ⟨(congrArg Prod.fst h).symm, rfl, rfl, rfl⟩
    · exact ih e hmem

/-- Nothing is evaluated behind a failure, and that is what all comes to. -/
theorem Resolves.result_eq (h : Resolves s names entries c history result c') :
    (∀ e ∈ history.dropLast, e.error? = none) ∧
      result =
        match history.getLast?.bind Evaluation.error? with
        | some e => .error e
        | none => .ok () := by
  induction h with
  | finished c => exact ⟨fun e hmem => absurd hmem List.not_mem_nil, rfl⟩
  | failed h => exact ⟨fun e hmem => absurd hmem List.not_mem_nil, rfl⟩
  | @next key declared field entries c c' c'' history result h rest ih =>
    cases history with
    | nil => exact ⟨fun e hmem => absurd hmem List.not_mem_nil, ih.2⟩
    | cons e history =>
      rw [List.dropLast_cons_cons, List.getLast?_cons_cons]
      refine ⟨fun e' hmem => ?_, ih.2⟩
      rcases List.mem_cons.1 hmem with rfl | hmem
      · rfl
      · exact ih.1 e' hmem

/-! ## The loop over the keys -/

/-- A declared field whose evaluation succeeds is reported and stored. -/
theorem resolveField_of_ok {key : String} {declared field : Field}
    (hget : (s.fields c.document).bind (·.get? key) = some declared)
    (h : evaluateField names declared (s.begin (key, declared) c) = (.ok field, c')) :
    resolveField s names key c =
      (Work.report s.phase.text ("$\x7b" ++ key ++ "\x7d: " ++ field.show) >>= fun _ =>
        Work.modify (s.store key field)) c' := by
  rw [resolveField_of_some hget]
  exact Work.ofStep_bind_of_ok h _

theorem resolveField_of_error {key : String} {declared : Field} {e : Error}
    (hget : (s.fields c.document).bind (·.get? key) = some declared)
    (h : evaluateField names declared (s.begin (key, declared) c) = (.error e, c')) :
    resolveField s names key c = .done (.error e, c') := by
  rw [resolveField_of_some hget]
  exact Work.ofStep_bind_of_error h _

/-- The loop finds every entry as it was declared, and so resolves the declared entries. -/
theorem forEach_resolves {σ : Type} (answer : (q : SystemCall) → σ → q.Answer × σ)
    (hreplaced : s.Replaced results d c.document)
    (hpending : (s.entries d).drop results.length = entries) (w : σ) :
    ∃ history,
      Resolves s names entries c history
        ((forEach (resolveField s names) (entries.map Prod.fst) c).run answer w).1.1
        ((forEach (resolveField s names) (entries.map Prod.fst) c).run answer w).1.2 ∧
      (forEach (resolveField s names) (entries.map Prod.fst) c).asked answer w =
        history.filterMap (Evaluation.report? s) := by
  -- by induction on the pending entries: the document holds them as they were declared, so that
  -- what the loop reads from it is the entry itself
  induction entries generalizing results c w with
  | nil => exact ⟨[], .finished c, rfl⟩
  | cons entry entries ih =>
    obtain ⟨key, declared⟩ := entry
    have hget := hreplaced.get? hpending
    rw [List.map_cons, forEach]
    cases h : evaluateField names declared (s.begin (key, declared) c) with
    | mk outcome c' =>
      cases outcome with
      | error e =>
        have hrun : (resolveField s names key c).run answer w = ((.error e, c'), w) := by
          rw [resolveField_of_error hget h]
          rfl
        rw [Work.run_bind_of_error hrun, Work.asked_bind_of_error hrun,
          resolveField_of_error hget h]
        exact ⟨_, .failed h, rfl⟩
      | ok field =>
        have hrun : (resolveField s names key c).run answer w =
            ((.ok (), s.store key field c'), (answer (.report ⟨s.phase.text,
              "$\x7b" ++ key ++ "\x7d: " ++ field.show⟩) w).2) := by
          rw [resolveField_of_ok hget h]
          rfl
        obtain ⟨hstored, hbehind⟩ := replaced_of_evaluateField hreplaced hpending h
        obtain ⟨history, hresolves, hasked⟩ := ih hstored hbehind _
        rw [Work.run_bind_of_ok hrun, Work.asked_bind_of_ok hrun]
        refine ⟨_, .next h hresolves, ?_⟩
        rw [hasked, resolveField_of_ok hget h]
        rfl

/-- What a run of the evaluations is, against the document that it has begun with. -/
structure FieldsInOrder (s : Section) (names : Bindings) (d : Document)
    (history : List Evaluation) (result : Except Error Unit) (d' : Document) : Prop where
  /-- Entries are evaluated once each, in the order of declaration and as they are declared. -/
  declared : history.map (fun e => (e.key, e.declared)) <+: s.entries d
  /-- All are evaluated when none fails. -/
  complete : result = .ok () → history.map (fun e => (e.key, e.declared)) = s.entries d
  /-- Each is evaluated where it is begun, as the item of its phase. -/
  outcome : ∀ e ∈ history, e.outcome = (evaluateField names e.declared e.start).1 ∧
    e.start.phase = s.phase ∧ e.start.name = e.key ∧ e.start.data = .ofField e.declared
  /-- When an evaluation is begun, each of those before it has a result, these stand in place of
  what they were evaluated from, and all else is as it was. -/
  replaced : ∀ before e after, before ++ e :: after = history →
    (resultsOf before).map Prod.fst = before.map Evaluation.key ∧
      s.Replaced (resultsOf before) d e.start.document
  /-- That document is the only one that the expressions of the evaluation see. -/
  sees : ∀ e ∈ history, (evaluateField names e.declared).SeesOnly e.start.document e.start
  /-- Only the last evaluation can fail. -/
  succeeded : ∀ e ∈ history.dropLast, e.error? = none
  /-- Its error is the result. -/
  result_eq : result =
    match history.getLast?.bind Evaluation.error? with
    | some e => .error e
    | none => .ok ()
  /-- At the end, the results stand in place of what they were evaluated from, and all else is as it
  was. -/
  stored : s.Replaced (resultsOf history) d d'
  /-- Neither the keys nor their order nor the shapes of the fields ever change. -/
  form : s.form d' = s.form d ∧ ∀ e ∈ history, s.form e.start.document = s.form d

theorem Resolves.inOrder (h : Resolves s names (s.entries c.document) c history result c') :
    FieldsInOrder s names c.document history result c'.document := by
  obtain ⟨hstarts, hend⟩ := h.replaced (s.replaced_nil c.document) rfl
  refine
    { declared := h.declared.1
      complete := h.declared.2
      outcome := h.outcome
      replaced := hstarts
      sees := fun e _ =>
        (evaluateField_evaluates (f := Context.afresh) names e.declared).sees e.start
      succeeded := h.result_eq.1
      result_eq := h.result_eq.2
      stored := hend
      form := ⟨hend.form_eq, fun e hmem => ?_⟩ }
  obtain ⟨before, after, hsplit⟩ := List.append_of_mem hmem
  exact (hstarts before e after hsplit.symm).2.form_eq

/-- Resolving a section evaluates its declared entries in order and reports each result. What comes
of it is the fold over the declared entries that stores one result after the other. -/
theorem resolveFields_in_order {σ : Type} (s : Section) (names : Bindings)
    (answer : (q : SystemCall) → σ → q.Answer × σ) (c : Context) (w : σ) :
    ((resolveFields s names c).run answer w).1 =
        (s.entries c.document).foldl (resolveNext s names) (.ok (), c) ∧
      ∃ history,
        Resolves s names (s.entries c.document) c history
          ((resolveFields s names c).run answer w).1.1
          ((resolveFields s names c).run answer w).1.2 ∧
        (resolveFields s names c).asked answer w = history.filterMap (Evaluation.report? s) ∧
        FieldsInOrder s names c.document history ((resolveFields s names c).run answer w).1.1
          ((resolveFields s names c).run answer w).1.2.document := by
  have hkeys : s.keys c.document = (s.entries c.document).map Prod.fst := by
    rw [Section.keys, Section.entries]
    cases s.fields c.document <;> rfl
  have hloop : resolveFields s names c =
      forEach (resolveField s names) ((s.entries c.document).map Prod.fst) c :=
    congrArg (fun keys => forEach (resolveField s names) keys c) hkeys
  rw [hloop]
  obtain ⟨history, hresolves, hasked⟩ :=
    forEach_resolves answer (s.replaced_nil c.document) rfl w
  exact ⟨hresolves.eq_foldl, history, hresolves, hasked, hresolves.inOrder⟩

end Resolving

end Generation

end Scaffold

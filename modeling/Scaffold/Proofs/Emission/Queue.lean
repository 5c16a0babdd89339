import Scaffold.Proofs.Emission.Planning

/-!
# Queue — where the blocks of a planned write come from

Every expression can queue blocks, but only the content of a file has markers for them. The queue is
emptied when a template begins and behind every combination, and it is taken when the content was
evaluated. So a write is planned with the blocks of its content, and in front of them whatever was
queued since the queue was empty: by the path of the template, and for the first combination also by
the range (`write_blocks_of_planned`). Blocks of a path do get into a file that has no marker for
them (`path_block_is_planned`).
-/

set_option autoImplicit false

namespace Scaffold

/-! ## Blocks of an expression -/

/-- The blocks that the evaluation of an expression queues: it calls for one after the other. -/
def evaluatedBlocks (expr : String) (names : Bindings) (c : Context) : List Bytes :=
  if Text.isBlankText expr then []
  else queuedBy ((Expr.render (Text.trim expr) names.entries).asked Context.answer c)

theorem evaluate_writes (expr : String) (names : Bindings) (c : Context) :
    (evaluate expr names c).2.writes = c.writes ++ evaluatedBlocks expr names c := by
  rw [evaluate, evaluatedBlocks]
  split
  · exact (List.append_nil _).symm
  · rw [render_writes, run_writes]

/-- Taking the text of what was evaluated leaves the context as it is. -/
theorem evaluateText_snd (expr : String) (names : Bindings) (c : Context) :
    (evaluateText expr names c).2 = (evaluate expr names c).2 := by
  change (Step.bind (evaluate expr names) _ c).2 = _
  rw [Step.bind]
  obtain ⟨result, c'⟩ := evaluate expr names c
  cases result <;> rfl

theorem evaluateText_writes (expr : String) (names : Bindings) (c : Context) :
    (evaluateText expr names c).2.writes = c.writes ++ evaluatedBlocks expr names c := by
  rw [evaluateText_snd, evaluate_writes]

namespace Emission

variable {roots : Roots} {template : String} {spec : FileSpec} {names : Bindings}

/-! ## Blocks of a path -/

/-- The blocks that the segments of a path queue, evaluated one after the other. -/
def segmentBlocks (names : Bindings) : List String → Context → List Bytes
  | [], _ => []
  | segment :: segments, c =>
    evaluatedBlocks segment names c ++ segmentBlocks names segments (evaluateText segment names c).2

/-- The blocks that the path of a template queues, as a whole and then segment by segment. -/
def pathBlocks (template : String) (names : Bindings) (c : Context) : List Bytes :=
  evaluatedBlocks template names c ++
    match evaluateText template names c with
    | (.ok path, c) => segmentBlocks names ((Path.parts path).filter (!Text.isBlankText ·)) c
    | (.error _, _) => []

theorem planSegments_writes {segments : List String} {path whole : String} {c c' : Context}
    (h : planSegments names segments path c = (.ok whole, c')) :
    c'.writes = c.writes ++ segmentBlocks names segments c := by
  induction segments generalizing path c with
  | nil =>
    cases h
    exact (List.append_nil _).symm
  | cons segment segments ih =>
    obtain ⟨text, c₁, hsegment, hrest⟩ := Step.bind_eq_ok h
    have hwrites := evaluateText_writes segment names c
    rw [hsegment] at hwrites
    rw [ih hrest, hwrites, segmentBlocks, hsegment, List.append_assoc]

/-- Behind a path that was planned, the queue holds what was in it and what the path has queued. -/
theorem planPath_writes {target : String} {c c' : Context}
    (h : planPath roots template names c = (.ok target, c')) :
    c'.writes = c.writes ++ pathBlocks template names c := by
  obtain ⟨path, c₁, hwhole, hrest⟩ := Step.bind_eq_ok h
  obtain ⟨relative, c₂, hsegments, hjoined⟩ := Step.bind_eq_ok hrest
  obtain ⟨-, rfl⟩ := Prod.mk.inj hjoined
  have hwrites := evaluateText_writes template names c
  rw [hwhole] at hwrites
  rw [planSegments_writes hsegments, hwrites, pathBlocks, hwhole, List.append_assoc]

/-! ## Blocks of a write -/

theorem planContent_writes {expr : String} {content : Bytes} {blocks : List Bytes}
    {c c' : Context} (h : planContent expr names c = (.ok (content, blocks), c')) :
    blocks = c.writes ++ queuedBlocks expr names c := by
  rw [planContent_eq] at h
  obtain ⟨e, c₁, hevaluated, htaken⟩ := Step.bind_eq_ok h
  have hwrites := evaluateContent_writes expr names c
  rw [hevaluated] at hwrites
  cases htaken
  exact hwrites

/-- A write is planned by planning its path and then its content. -/
theorem planContent_of_plan {target : String} {content : Bytes} {blocks : List Bytes}
    {c c' : Context}
    (h : plan roots template spec names c = (.ok (.write target content blocks), c')) :
    ∃ c₁, planPath roots template names c = (.ok target, c₁) ∧
      planContent spec.content names c₁ = (.ok (content, blocks), c') := by
  obtain ⟨path, c₁, hpath, hrest⟩ := Step.bind_eq_ok h
  split at hrest
  · cases hrest
  · split at hrest
    · split at hrest
      · cases hrest
      · obtain ⟨planned, c₂, hcontent, hplanned⟩ := Step.bind_eq_ok hrest
        cases hplanned
        exact ⟨c₁, hpath, hcontent⟩
    · obtain ⟨source, c₂, -, hcopied⟩ := Step.bind_eq_ok hrest
      cases hcopied

/-- The blocks of a write are those in the queue, then those of its path, then those of its
content. -/
theorem blocks_of_plan {target : String} {content : Bytes} {blocks : List Bytes} {c c' : Context}
    (h : plan roots template spec names c = (.ok (.write target content blocks), c')) :
    ∃ c₁, planPath roots template names c = (.ok target, c₁) ∧
      blocks = c.writes ++ pathBlocks template names c ++ queuedBlocks spec.content names c₁ := by
  obtain ⟨c₁, hpath, hcontent⟩ := planContent_of_plan h
  exact ⟨c₁, hpath, by rw [planContent_writes hcontent, planPath_writes hpath]⟩

/-! ## Combinations -/

/-- A combination of a template: what the names are for it, and the context it is planned in. -/
structure Combination where
  names : Bindings
  context : Context

/-- Combinations that are planned from a context on. All but the first find an empty queue, and the
clock as the one before has left it. -/
def Combination.inRow (roots : Roots) (template : String) (spec : FileSpec) (c : Context) :
    List Bindings → List Combination
  | [] => []
  | row :: rows =>
    ⟨row, c⟩ :: inRow roots template spec
      (c.clearFile.setClock (plan roots template spec row c).2.clock) rows

/-- The combinations of a template, as far as there are any. -/
def combinations (roots : Roots) (template : String) (spec : FileSpec) (names : Bindings)
    (c : Context) : List Combination :=
  if spec.ignore then []
  else if (Text.trim spec.range).isEmpty then
    Combination.inRow roots template spec (begun template spec c) [names]
  else
    match rangeSources template (Text.trim spec.range) names (begun template spec c) with
    | (.error _, _) => []
    | (.ok sources, c) =>
      match Range.emptyLevel? sources 0 with
      | some _ => []
      | none => Combination.inRow roots template spec c (Range.rows sources 0 names)

/-- The blocks that the range of a template queues. -/
def rangeBlocks (template : String) (spec : FileSpec) (names : Bindings) (c : Context) :
    List Bytes :=
  if (Text.trim spec.range).isEmpty then []
  else evaluatedBlocks (rangeExpression (Text.trim spec.range)) names (begun template spec c)

theorem planRows_eq_map (c : Context) (rows : List Bindings) :
    planRows roots template spec c rows =
      (Combination.inRow roots template spec c rows).map fun x =>
        (plan roots template spec x.names x.context).1 := by
  induction rows generalizing c with
  | nil => rfl
  | cons row rows ih => rw [planRows, Combination.inRow, List.map_cons, ih]

/-- The operations that are planned are those of the first outcomes. -/
theorem Planned.getElem?_of_operations {outcomes : List (Except Error Operation)} {k : Nat}
    {operation : Operation} (h : (Planned.ofOutcomes outcomes).operations[k]? = some operation) :
    outcomes[k]? = some (.ok operation) := by
  induction outcomes generalizing k with
  | nil => cases h
  | cons outcome outcomes ih =>
    cases outcome with
    | error e => cases h
    | ok first =>
      cases k with
      | zero =>
        cases h
        rfl
      | succ k => exact ih h

/-- What is planned for a template is planned for its combinations, one after the other. -/
theorem operations_planned (c : Context) :
    (planned roots template spec names c).operations =
      (Planned.ofOutcomes ((combinations roots template spec names c).map fun x =>
        (plan roots template spec x.names x.context).1)).operations := by
  rw [planned, combinations]
  split
  · rfl
  split
  · rw [planRows_eq_map]
  generalize rangeSources template (Text.trim spec.range) names (begun template spec c) = walked
  obtain ⟨sources?, c'⟩ := walked
  cases sources? with
  | error e => rfl
  | ok sources =>
    dsimp only
    cases Range.emptyLevel? sources 0 with
    | some n => rfl
    | none =>
      dsimp only
      rw [planRows_eq_map]

/-- Every operation of a template is planned for one of its combinations, in their order. -/
theorem exists_plan_of_planned {c : Context} {k : Nat} {operation : Operation}
    (h : (planned roots template spec names c).operations[k]? = some operation) :
    ∃ x, (combinations roots template spec names c)[k]? = some x ∧
      (plan roots template spec x.names x.context).1 = .ok operation := by
  rw [operations_planned] at h
  have houtcome := Planned.getElem?_of_operations h
  rw [List.getElem?_map] at houtcome
  exact Option.map_eq_some_iff.1 houtcome

theorem writes_of_inRow {c : Context} {rows : List Bindings} {k : Nat} {x : Combination}
    (h : (Combination.inRow roots template spec c rows)[k]? = some x) :
    x.context.writes = if k = 0 then c.writes else [] := by
  induction rows generalizing c k with
  | nil => cases h
  | cons row rows ih =>
    cases k with
    | zero =>
      cases h
      rfl
    | succ k =>
      rw [Combination.inRow, List.getElem?_cons_succ] at h
      exact (ih h).trans (ite_self _)

/-- Where the sources of a range are taken, the queue holds what the range has queued. -/
theorem rangeSources_writes {range : String} {sources : List RangeSource} {c c' : Context}
    (h : rangeSources template range names c = (.ok sources, c')) :
    c'.writes = c.writes ++ evaluatedBlocks (rangeExpression range) names c := by
  rw [Generation.rangeSources_eq] at h
  obtain ⟨e, c₁, hevaluated, htaken⟩ := Step.bind_eq_ok h
  have hwrites := evaluate_writes (rangeExpression range) names c
  rw [hevaluated] at hwrites
  obtain ⟨-, rfl⟩ := Prod.mk.inj htaken
  exact hwrites

/-- The first combination of a template finds the blocks of the range in the queue, and the others
find nothing. -/
theorem writes_of_combination {c : Context} {k : Nat} {x : Combination}
    (h : (combinations roots template spec names c)[k]? = some x) :
    x.context.writes = if k = 0 then rangeBlocks template spec names c else [] := by
  rw [combinations] at h
  rw [rangeBlocks]
  split at h
  · cases h
  split at h
  next hrange =>
    rw [if_pos hrange]
    exact writes_of_inRow h
  next hrange =>
    rw [if_neg hrange]
    cases hwalked : rangeSources template (Text.trim spec.range) names (begun template spec c) with
    | mk sources? c' =>
      rw [hwalked] at h
      cases sources? with
      | error e => cases h
      | ok sources =>
        have hwrites := rangeSources_writes hwalked
        have hbegun : (begun template spec c).writes = [] := rfl
        rw [hbegun, List.nil_append] at hwrites
        dsimp only at h
        split at h
        · cases h
        · rw [writes_of_inRow h, hwrites]

/-! ## Planned writes -/

/-- The queue of every write that a template plans, whatever came before the template: processing
the template performs what is planned for it; and a write that is planned for one of its
combinations has the blocks of that combination's content, behind those of its path and, for the
first combination, those of the range. So the blocks are those of the content alone exactly if
neither the path nor, for the first combination, the range has queued any. -/
theorem write_blocks_of_planned (roots : Roots) (template : String) (spec : FileSpec)
    (names : Bindings) (hfree : Range.IsFree 0 names) (c : Context) :
    (process roots template spec names c).bind (fun r => .done (r.1, r.2.1)) =
        (if spec.ignore then done template "ignore"
          else (planned roots template spec names c).perform template).bind
            (fun r => .done (r, names)) ∧
      ∀ (k : Nat) (target : String) (content : Bytes) (blocks : List Bytes),
        (planned roots template spec names c).operations[k]? =
            some (.write target content blocks) →
        ∃ x c₁, (combinations roots template spec names c)[k]? = some x ∧
          planPath roots template x.names x.context = (.ok target, c₁) ∧
          blocks = (if k = 0 then rangeBlocks template spec names c else []) ++
            pathBlocks template x.names x.context ++ queuedBlocks spec.content x.names c₁ ∧
          (blocks = queuedBlocks spec.content x.names c₁ ↔
            (k = 0 → rangeBlocks template spec names c = []) ∧
              pathBlocks template x.names x.context = []) := by
  refine ⟨process_performs roots template spec hfree c, fun k target content blocks h => ?_⟩
  obtain ⟨x, hcombination, hplan⟩ := exists_plan_of_planned h
  obtain ⟨c₁, hpath, hblocks⟩ := blocks_of_plan (Prod.ext hplan rfl)
  rw [writes_of_combination hcombination] at hblocks
  refine ⟨x, c₁, hcombination, hpath, hblocks, ?_⟩
  rw [hblocks, List.append_left_eq_self, List.append_eq_nil_iff]
  refine and_congr_left fun _ => ?_
  by_cases hfirst : k = 0
  · rw [if_pos hfirst]
    exact ⟨fun hnone _ => hnone, fun hnone => hnone hfirst⟩
  · rw [if_neg hfirst]
    exact ⟨fun _ hk => absurd hk hfirst, fun _ => rfl⟩

/-- The blocks that the contents of the combinations of a template queue. -/
def contentBlocks (roots : Roots) (template : String) (spec : FileSpec) (names : Bindings)
    (c : Context) : List (List Bytes) :=
  (combinations roots template spec names c).map fun x =>
    queuedBlocks spec.content x.names (planPath roots template x.names x.context).2

/-- A path with a name of the range in it. -/
def rangedPath : String := "\x7b\x7b v0 \x7d\x7d.txt"

/-- A range over two names that queues a block of its own, and a content that queues one. -/
def rangedNote : FileSpec where
  range := "\x7b% set lead = writeBytes([65]) %\x7d\x7b\x7b pathRange(['a', 'b']) \x7d\x7d"
  content := "<\x7b\x7b writeBytes([66]) \x7d\x7d>"

/-- The second combination of the range is planned with the block of its content alone. -/
theorem write_blocks_of_planned_rangedNote :
    (planned ⟨"out", "."⟩ rangedPath rangedNote (.standard {}) pristine).operations[1]? =
        some (.write "out/b.txt" (Utf8.ofString ("<" ++ Splice.markerText ++ ">")) [[66]]) ∧
      ∃ x c₁, (combinations ⟨"out", "."⟩ rangedPath rangedNote (.standard {}) pristine)[1]? = some x ∧
        planPath ⟨"out", "."⟩ rangedPath x.names x.context = (.ok "out/b.txt", c₁) ∧
        queuedBlocks rangedNote.content x.names c₁ = [[66]] := by
  have hplanned : (planned ⟨"out", "."⟩ rangedPath rangedNote (.standard {})
      pristine).operations[1]? =
        some (.write "out/b.txt" (Utf8.ofString ("<" ++ Splice.markerText ++ ">")) [[66]]) := by
    decide +kernel
  have hquiet : (combinations ⟨"out", "."⟩ rangedPath rangedNote (.standard {}) pristine)[1]?.map
      (fun x => pathBlocks rangedPath x.names x.context) = some [] := by
    decide +kernel
  obtain ⟨-, hwrites⟩ := write_blocks_of_planned ⟨"out", "."⟩ rangedPath rangedNote (.standard {})
    (Range.isFree_standard {}) pristine
  obtain ⟨x, c₁, hcombination, hpath, -, hiff⟩ := hwrites 1 _ _ _ hplanned
  rw [hcombination] at hquiet
  exact ⟨hplanned, x, c₁, hcombination, hpath,
    (hiff.2 ⟨nofun, Option.some.inj hquiet⟩).symm⟩

/-- A path that queues a block. -/
def leadingPath : String := "\x7b% set lead = writeBytes([65]) %\x7dnotes.txt"

/-- A block that the path of a file queues is planned for a content that queues none; and one that
the range queues is planned for the first combination, in front of that of the content. -/
theorem path_block_is_planned :
    ((planned ⟨"out", "."⟩ leadingPath { content := "plain" } (.standard {}) pristine).operations =
        [.write "out/notes.txt" (Utf8.ofString "plain") [[65]]] ∧
      contentBlocks ⟨"out", "."⟩ leadingPath { content := "plain" } (.standard {}) pristine =
        [[]]) ∧
    (planned ⟨"out", "."⟩ rangedPath rangedNote (.standard {}) pristine).operations[0]? =
        some (.write "out/a.txt" (Utf8.ofString ("<" ++ Splice.markerText ++ ">")) [[65], [66]]) ∧
      contentBlocks ⟨"out", "."⟩ rangedPath rangedNote (.standard {}) pristine =
        [[[66]], [[66]]] := by
  refine ⟨⟨?_, ?_⟩, ?_, ?_⟩ <;> decide +kernel

end Emission

end Scaffold

import Scaffold.Proofs.Emission.Planning
import Scaffold.Proofs.FileSystem.Directories

/-!
# Footprint — what processing a template changes in a tree

The combinations of a template are tried in turn. Each begins in the tree that the one before has
left, and only the last of them can have failed (`Tried`). One that cannot be planned leaves the
tree alone; one that was planned makes directories that lead to its target, and makes or writes the
target itself (`apply_changes`). So the tree behind a template differs from the one before it at
most there, nothing goes away, and a file stays complete until another combination writes to the
same place (`process_changes`). The one exception is a file that is copied onto itself.
-/

set_option autoImplicit false

namespace Scaffold

open FileTree (Changed spelled)
open Generation (forEach)

/-! ## What an operation is to do -/

/-- The places at which an operation makes directories: the target itself, if it is to be one, and
those that lead to it. -/
def Operation.Makes (current : Place) (operation : Operation) (p : Place) : Prop :=
  (operation = .createDirectory operation.target ∧ p = spelled current operation.target) ∨
    ∃ above, Path.IsAncestor operation.target above ∧ p = spelled current above

/-- The place at which an operation writes a file. -/
def Operation.Fills (current : Place) (operation : Operation) (p : Place) : Prop :=
  operation ≠ .createDirectory operation.target ∧ p = spelled current operation.target

/-- What a successful operation leaves: a directory, the content of the source, or the content with
all of its blocks. -/
def Operation.Left (current : Place) (before after : FileTree) : Operation → Prop
  | .createDirectory target =>
    target.isEmpty ∨ after.entry? (spelled current target) = some .directory
  | .copy source target =>
    ∃ content, before.entry? (spelled current source) = some (.file content) ∧
      after.entry? (spelled current target) =
        some (.file (if spelled current target = spelled current source then [] else content))
  | .write target content blocks =>
    (Splice.splice content blocks).fault = none ∧
      after.entry? (spelled current target) = some (.file (Splice.splice content blocks).written)

/-! ## Performing an operation -/

/-- Directories that are made first do not matter. -/
theorem Operation.Left.of_made {makes : Place → Prop} {current : Place}
    {before between after : FileTree} {operation : Operation}
    (h : operation.Left current between after)
    (hmade : Changed makes (fun _ => False) before between) :
    operation.Left current before after := by
  cases operation with
  | createDirectory target => exact h
  | copy source target =>
    obtain ⟨content, hsource, htarget⟩ := h
    exact ⟨content, (hmade.file_iff id content).1 hsource, htarget⟩
  | write target content blocks => exact h

/-- What was left stays as long as no file is written there. -/
theorem Operation.Left.of_changed {makes fills : Place → Prop} {current : Place}
    {before between after : FileTree} {operation : Operation}
    (h : operation.Left current before between) (hchanged : Changed makes fills between after)
    (hkept : ¬ fills (spelled current operation.target)) :
    operation.Left current before after := by
  cases operation with
  | createDirectory target => exact h.imp_right hchanged.directory
  | copy source target =>
    obtain ⟨content, hsource, htarget⟩ := h
    exact ⟨content, hsource, (hchanged.file_iff hkept _).2 htarget⟩
  | write target content blocks => exact ⟨h.1, (hchanged.file_iff hkept _).2 h.2⟩

namespace Emission

section Operations

variable {s : Surroundings} {m : Machine} {template : String}

/-- Where directories are made that lead to a target, and a file is written to the target then, an
operation on a file changes what it may change. -/
theorem below_changes (operation : Operation) {next : System (Except Error Unit)}
    (hfile : operation ≠ .createDirectory operation.target) (hfree : m.tree.LinkFree)
    (hnext : ∀ m₁ : Machine, m₁.tree.LinkFree → m₁.tree.current = m.tree.current →
      Changed (fun _ => False) (· = spelled m.tree.current operation.target) m₁.tree
          (m₁.run s next).2.tree ∧
        ((m₁.run s next).1 = .ok () →
          operation.Left m.tree.current m₁.tree (m₁.run s next).2.tree)) :
    Changed (operation.Makes m.tree.current) (operation.Fills m.tree.current) m.tree
        (m.run s (below operation.target next)).2.tree ∧
      ((m.run s (below operation.target next)).1 = .ok () →
        operation.Left m.tree.current m.tree
          (m.run s (below operation.target next)).2.tree) := by
  have hparents := System.run_changes (s := s) (System.makeParents_makesOnly operation.target) hfree
  cases hrun : m.run s (System.makeParents operation.target) with
  | mk result m₁ =>
    rw [hrun] at hparents
    have hmakes : Changed (operation.Makes m.tree.current) (operation.Fills m.tree.current) m.tree
        m₁.tree :=
      hparents.mono (fun _ => .inr) fun _ => False.elim
    cases result with
    | error e =>
      rw [below, run_bind, hrun]
      exact ⟨hmakes, fun hok => by cases hok⟩
    | ok made =>
      obtain ⟨hchanged, hleft⟩ := hnext m₁ (hparents.linkFree hfree) hparents.current
      rw [run_below hrun]
      exact ⟨hmakes.trans (hchanged.mono (fun _ => False.elim) fun _ hp => ⟨hfile, hp⟩),
        fun hok => (hleft hok).of_made hparents⟩

/-- An operation changes a tree at its target and above it, whatever comes of it. If it succeeds, it
leaves what it is for. -/
theorem apply_changes (s : Surroundings) (template : String) (operation : Operation)
    (hfree : m.tree.LinkFree) :
    Changed (operation.Makes m.tree.current) (operation.Fills m.tree.current) m.tree
        (m.run s (apply template operation)).2.tree ∧
      ((m.run s (apply template operation)).1 = .ok () →
        operation.Left m.tree.current m.tree
          (m.run s (apply template operation)).2.tree) := by
  cases operation with
  | createDirectory target =>
    have hmade := System.run_changes (s := s) (System.makeDirectories_makesOnly target) hfree
    have hmakes : Changed ((Operation.createDirectory target).Makes m.tree.current)
        ((Operation.createDirectory target).Fills m.tree.current) m.tree
        (m.run s (System.makeDirectories target)).2.tree := by
      refine hmade.mono ?_ fun _ => False.elim
      rintro p ⟨a, rfl | habove, hp⟩
      · exact .inl ⟨rfl, hp⟩
      · exact .inr ⟨a, habove, hp⟩
    rw [apply, run_bind]
    split
    next => exact ⟨hmakes, fun hok => by cases hok⟩
    next hok =>
      refine ⟨hmakes, fun _ => or_iff_not_imp_left.2 fun hpath => ?_⟩
      exact System.entry?_of_run_makeDirectories hfree (Bool.eq_false_iff.2 hpath) hok
  | copy source target =>
    refine below_changes (.copy source target) (by simp) hfree
      fun m₁ hfree₁ hcurrent => ?_
    obtain ⟨hchanged, hleft⟩ := System.run_copy_changes s hfree₁ source target
    rw [hcurrent] at hchanged hleft
    rw [run_bind]
    split
    next => exact ⟨hchanged, fun hok => by cases hok⟩
    next hok => exact ⟨hchanged, fun _ => hleft hok⟩
  | write target content blocks =>
    refine below_changes (.write target content blocks) (by simp) hfree
      fun m₁ hfree₁ hcurrent => ?_
    obtain ⟨hchanged, hleft⟩ := System.run_write_changes s hfree₁ target
      (Splice.splice content blocks).written
    rw [hcurrent] at hchanged hleft
    dsimp only
    rw [run_bind]
    split
    next => exact ⟨hchanged, fun hok => by cases hok⟩
    next => exact ⟨hchanged, fun hok => by cases hok⟩
    next hok hfault => exact ⟨hchanged, fun _ => ⟨hfault, hleft hok⟩⟩

end Operations

/-! ## Combinations in turn -/

/-- A combination that was tried. -/
structure Attempt where
  /-- What was planned for it. -/
  planned : Except Error Operation
  before : FileTree
  outcome : Except Error Unit
  after : FileTree

/-- What a combination does to a tree: nothing, if it cannot be planned; otherwise what its operation
does. -/
structure Attempt.Sound (current : Place) (a : Attempt) : Prop where
  unplanned : ∀ e, a.planned = .error e → a.outcome = .error e ∧ a.after = a.before
  changed : Changed (fun p => ∃ operation, a.planned = .ok operation ∧ operation.Makes current p)
    (fun p => ∃ operation, a.planned = .ok operation ∧ operation.Fills current p) a.before a.after
  left : ∀ operation, a.planned = .ok operation → a.outcome = .ok () →
    operation.Left current a.before a.after

/-- Combinations that are tried one after the other lead from one tree to another: each begins in the
tree that the one before has left, and none comes behind one that has failed. -/
inductive Tried : FileTree → List Attempt → FileTree → Prop
  | nil {t t' : FileTree} (hsame : t' = t) : Tried t [] t'
  | cons {t t' : FileTree} {a : Attempt} {as : List Attempt} (hbefore : a.before = t)
      (hnext : as ≠ [] → a.outcome = .ok ()) (hrest : Tried a.after as t') : Tried t (a :: as) t'

namespace Tried

variable {current : Place} {as : List Attempt} {t t' : FileTree}

/-- What combinations change together is what each of them changes. -/
theorem changed (h : Tried t as t') (hsound : ∀ a ∈ as, a.Sound current) :
    Changed (fun p => ∃ a ∈ as, ∃ operation, a.planned = .ok operation ∧ operation.Makes current p)
      (fun p => ∃ a ∈ as, ∃ operation, a.planned = .ok operation ∧ operation.Fills current p)
      t t' := by
  induction h with
  | nil hsame => exact hsame ▸ .refl _
  | @cons t t' a as hbefore hnext hrest ih =>
    have hfirst := (hsound a List.mem_cons_self).changed
    have hlater := ih fun a hmem => hsound a (List.mem_cons_of_mem _ hmem)
    rw [hbefore] at hfirst
    refine (hfirst.mono (fun p hp => ⟨a, List.mem_cons_self, hp⟩)
      fun p hp => ⟨a, List.mem_cons_self, hp⟩).trans (hlater.mono ?_ ?_)
    · rintro p ⟨b, hb, hp⟩
      exact ⟨b, List.mem_cons_of_mem _ hb, hp⟩
    · rintro p ⟨b, hb, hp⟩
      exact ⟨b, List.mem_cons_of_mem _ hb, hp⟩

/-- A combination stands in front of those that are tried behind it, if it has not failed. -/
theorem behind {a : Attempt} {earlier later : List Attempt}
    (h : Tried t (earlier ++ a :: later) t') :
    (later ≠ [] → a.outcome = .ok ()) ∧ Tried a.after later t' := by
  induction earlier generalizing t with
  | nil =>
    cases h with
    | cons _ hnext hrest => exact ⟨hnext, hrest⟩
  | cons b earlier ih =>
    cases h with
    | cons _ _ hrest => exact ih hrest

/-- Nothing is done behind a combination that has failed. -/
theorem eq_after_of_failed (h : Tried t as t') {a : Attempt} (ha : a ∈ as) {e : Error}
    (hfailed : a.outcome = .error e) : t' = a.after := by
  obtain ⟨earlier, later, rfl⟩ := List.append_of_mem ha
  obtain ⟨hnext, hrest⟩ := h.behind
  cases hrest with
  | nil hsame => exact hsame
  | cons => cases hfailed.symm.trans (hnext (List.cons_ne_nil _ _))

end Tried

section Rows

variable (roots : Roots) (template : String) (spec : FileSpec) (s : Surroundings)

/-- The combinations that are tried for rows of names, up to the first that fails. -/
def attempts : List Bindings → Context → Machine → List Attempt
  | [], _, _ => []
  | row :: rows, c, m =>
    ⟨(plan roots template spec row c).1, m.tree, (m.run s (emit roots template spec row c)).1.1,
        (m.run s (emit roots template spec row c)).2.tree⟩ ::
      match m.run s (emit roots template spec row c) with
      | ((.ok (), c'), m') => attempts rows c' m'
      | ((.error _, _), _) => []

variable {roots template spec s} {m : Machine}

theorem emit_sound (roots : Roots) (template : String) (spec : FileSpec) (s : Surroundings)
    (hfree : m.tree.LinkFree) (row : Bindings) (c : Context) :
    Attempt.Sound m.tree.current
      ⟨(plan roots template spec row c).1, m.tree, (m.run s (emit roots template spec row c)).1.1,
        (m.run s (emit roots template spec row c)).2.tree⟩ := by
  cases h : plan roots template spec row c with
  | mk planned c' =>
    cases planned with
    | error e =>
      rw [emit_of_error h]
      refine ⟨fun e' he => ⟨congrArg _ (Except.error.inj he), rfl⟩, .refl _, ?_⟩
      intro operation hplanned
      cases hplanned
    | ok operation =>
      have hrun : m.run s (emit roots template spec row c) =
          (((m.run s (apply template operation)).1, c'.clearFile),
            (m.run s (apply template operation)).2) := by
        rw [emit_of_ok h]
        exact Dialogue.run_bind (Machine.answer s) _ _ m
      obtain ⟨hchanged, hleft⟩ := apply_changes s template operation hfree
      rw [hrun]
      refine ⟨fun e he => ?_, ?_, ?_⟩
      · cases he
      · exact hchanged.mono (fun p hp => ⟨operation, rfl, hp⟩) fun p hp => ⟨operation, rfl, hp⟩
      · rintro operation' hplanned hok
        cases hplanned
        exact hleft hok

/-- Emitting combinations one after the other tries them, and an error of one of them is that of all
together. -/
theorem forEach_tries (roots : Roots) (template : String) (spec : FileSpec) (s : Surroundings)
    (hfree : m.tree.LinkFree) (rows : List Bindings) (c : Context) :
    Tried m.tree (attempts roots template spec s rows c m)
        (m.run s (forEach (emit roots template spec) rows c)).2.tree ∧
      (∀ a ∈ attempts roots template spec s rows c m, a.Sound m.tree.current) ∧
      ∀ a ∈ attempts roots template spec s rows c m, ∀ e, a.outcome = .error e →
        (m.run s (forEach (emit roots template spec) rows c)).1.1 = .error e := by
  induction rows generalizing c m with
  | nil =>
    have hnone (a : Attempt) : a ∉ attempts roots template spec s [] c m := List.not_mem_nil
    exact ⟨.nil rfl, fun a ha => absurd ha (hnone a), fun a ha => absurd ha (hnone a)⟩
  | cons row rows ih =>
    have hsound := emit_sound roots template spec s hfree row c
    rw [attempts]
    cases hemit : m.run s (emit roots template spec row c) with
    | mk r m' =>
      obtain ⟨outcome, c'⟩ := r
      rw [hemit] at hsound
      cases outcome with
      | error e =>
        have hrun : m.run s (forEach (emit roots template spec) (row :: rows) c) =
            ((.error e, c'), m') := Work.run_bind_of_error hemit _
        rw [hrun]
        refine ⟨.cons rfl (fun hnil => absurd rfl hnil) (.nil rfl), fun a ha => ?_,
          fun a ha e' he => ?_⟩
        · rw [List.mem_singleton.1 ha]
          exact hsound
        · rw [List.mem_singleton.1 ha] at he
          exact he
      | ok u =>
        have hrun : m.run s (forEach (emit roots template spec) (row :: rows) c) =
            m'.run s (forEach (emit roots template spec) rows c') :=
          Work.run_bind_of_ok hemit _
        have hcurrent : m'.tree.current = m.tree.current := hsound.changed.current
        obtain ⟨htried, hrest, herror⟩ := ih (hsound.changed.linkFree hfree) c'
        rw [hcurrent] at hrest
        rw [hrun]
        refine ⟨.cons rfl (fun _ => rfl) htried, fun a ha => ?_, fun a ha e he => ?_⟩
        · rcases List.mem_cons.1 ha with rfl | ha
          · exact hsound
          · exact hrest a ha
        · rcases List.mem_cons.1 ha with rfl | ha
          · cases he
          · exact herror a ha e he

end Rows

/-! ## Whole templates -/

/-- The rows of names for the combinations of a range, and the context in front of the first; there
are none if the range fails. -/
def rangeRows (template range : String) (names : Bindings) (c : Context) :
    List Bindings × Context :=
  if range.isEmpty then ([names], c)
  else
    match rangeSources template range names c with
    | (.error _, c) => ([], c)
    | (.ok sources, c) =>
      match Range.emptyLevel? sources 0 with
      | some _ => ([], c)
      | none => (Range.seen sources 0 names, c)

/-- The rows of names for the combinations of a template, and the context in front of the first. -/
def rows (template : String) (spec : FileSpec) (names : Bindings) (c : Context) :
    List Bindings × Context :=
  if spec.ignore then ([], c)
  else rangeRows template (Text.trim spec.range) names (begun template spec c)

/-- A template that is processed on a machine. -/
structure Processing where
  roots : Roots
  template : String
  spec : FileSpec
  names : Bindings
  context : Context
  surroundings : Surroundings
  machine : Machine

namespace Processing

variable (x : Processing)

/-- What comes of the template. -/
def outcome : Except Error Unit :=
  (x.machine.run x.surroundings (process x.roots x.template x.spec x.names x.context)).1.1

/-- The tree in front of the template. -/
def initial : FileTree := x.machine.tree

/-- The tree behind the template. -/
def final : FileTree :=
  (x.machine.run x.surroundings (process x.roots x.template x.spec x.names x.context)).2.tree

/-- The combinations that are tried. -/
def attempts : List Attempt :=
  Emission.attempts x.roots x.template x.spec x.surroundings
    (rows x.template x.spec x.names x.context).1 (rows x.template x.spec x.names x.context).2
    x.machine

end Processing

section Whole

variable {s : Surroundings} {m : Machine}

/-- A walk over sources with elements is work on its rows, one after the other. -/
theorem walk_eq_forEach {action : Bindings → Work Unit} {sources : List RangeSource}
    (hfull : Range.emptyLevel? sources 0 = none) (names : Bindings) (c : Context) :
    Range.walk (m := StateT Context System) action sources 0 names c =
      (forEach action (Range.seen sources 0 names) c).bind fun r =>
        .done ((r.1, Range.unbindLevels (Range.opened sources 0) names), r.2) := by
  rw [Range.walk_of_full (m := StateT Context System) action hfull,
    ← Generation.inTurn_eq_forEach]
  rfl

/-- Acting on every combination of a range is work on its rows, one after the other; there are none
if the range fails. -/
theorem eachCombination_eq_forEach (template range : String) (action : Bindings → Work Unit)
    (names : Bindings) (c : Context) :
    ((rangeRows template range names c).1 = [] ∧
        ∃ r, eachCombination template range action names c = .done r) ∨
      ∃ names', eachCombination template range action names c =
        (forEach action (rangeRows template range names c).1
          (rangeRows template range names c).2).bind fun r => .done (r.1, names', r.2) := by
  rw [eachCombination, rangeRows]
  split
  · refine .inr ⟨names, ?_⟩
    rw [Generation.forEach_singleton]
  · cases rangeSources template range names c with
    | mk sources? c' =>
      cases sources? with
      | error e => exact .inl ⟨rfl, _, rfl⟩
      | ok sources =>
        cases hlevel : Range.emptyLevel? sources 0 with
        | some n =>
          have hwalk := congrFun
            (Range.walk_of_empty (m := StateT Context System) action hlevel names) c'
          refine .inl ⟨?_, _, congrArg (Dialogue.bind · _) hwalk⟩
          dsimp only
          rw [hlevel]
        | none =>
          refine .inr ⟨Range.unbindLevels (Range.opened sources 0) names, ?_⟩
          dsimp only
          rw [hlevel]
          exact (congrArg (Dialogue.bind · _) (walk_eq_forEach hlevel names c')).trans
            (Dialogue.bind_assoc _ _ _)

/-- What acting on the combinations of a range leaves is what acting on its rows leaves; it fails
where that fails. -/
theorem run_eachCombination (template range : String) (action : Bindings → Work Unit)
    (names : Bindings) (c : Context) :
    (m.run s (eachCombination template range action names c)).2 =
        (m.run s (forEach action (rangeRows template range names c).1
          (rangeRows template range names c).2)).2 ∧
      ∀ e, (m.run s (forEach action (rangeRows template range names c).1
          (rangeRows template range names c).2)).1.1 = .error e →
        (m.run s (eachCombination template range action names c)).1.1 = .error e := by
  rcases eachCombination_eq_forEach template range action names c with
    ⟨hnone, r, hdone⟩ | ⟨names', hforEach⟩
  · rw [hnone, hdone]
    exact ⟨rfl, fun e he => by cases he⟩
  · generalize forEach action _ _ = x at hforEach ⊢
    have hrun : m.run s (eachCombination template range action names c) =
        (((m.run s x).1.1, names', (m.run s x).1.2), (m.run s x).2) :=
      (congrArg (m.run s) hforEach).trans (Dialogue.run_bind (Machine.answer s) x _ m)
    rw [hrun]
    exact ⟨rfl, fun e he => he⟩

/-- Processing a template leaves what emitting its rows one after the other leaves, and fails where
that fails. -/
theorem run_process (roots : Roots) (template : String) (spec : FileSpec) (names : Bindings)
    (c : Context) :
    (m.run s (process roots template spec names c)).2.tree =
        (m.run s (forEach (emit roots template spec) (rows template spec names c).1
          (rows template spec names c).2)).2.tree ∧
      ∀ e, (m.run s (forEach (emit roots template spec) (rows template spec names c).1
          (rows template spec names c).2)).1.1 = .error e →
        (m.run s (process roots template spec names c)).1.1 = .error e := by
  by_cases hignore : spec.ignore = true
  · rw [process, rows, if_pos hignore, if_pos hignore]
    exact ⟨rfl, fun e he => by cases he⟩
  · obtain ⟨hleft, hfailed⟩ := run_eachCombination (s := s) (m := m) template
      (Text.trim spec.range) (emit roots template spec) names (begun template spec c)
    have hprocess : process roots template spec names c = eachCombination template
        (Text.trim spec.range) (emit roots template spec) names (begun template spec c) := by
      rw [process, if_neg hignore, begun]
    rw [hprocess, rows, if_neg hignore]
    exact ⟨congrArg Machine.tree hleft, hfailed⟩

end Whole

/-- The tree behind a template, whatever comes of it, where nothing in the tree before is a link. The
combinations lead from one tree to the other, and only the last of them can have failed. On the whole
nothing is changed but the targets of planned operations and directories that lead to them; no
directory and no file goes away. A combination that cannot be planned changes nothing, and ends the
template with its error. What a successful combination has left is there at the end, unless a later
one writes a file to its target. -/
theorem process_changes (x : Processing) (hfree : x.initial.LinkFree) :
    Tried x.initial x.attempts x.final ∧
      Changed
        (fun p => ∃ a ∈ x.attempts, ∃ operation, a.planned = .ok operation ∧
          operation.Makes x.initial.current p)
        (fun p => ∃ a ∈ x.attempts, ∃ operation, a.planned = .ok operation ∧
          operation.Fills x.initial.current p)
        x.initial x.final ∧
      (∀ p, x.initial.entry? p = some .directory → x.final.entry? p = some .directory) ∧
      (∀ p content, x.initial.entry? p = some (.file content) →
        ∃ content', x.final.entry? p = some (.file content')) ∧
      (∀ a ∈ x.attempts, ∀ e, a.planned = .error e →
        a.after = a.before ∧ x.final = a.after ∧ x.outcome = .error e) ∧
      ∀ earlier a later operation, x.attempts = earlier ++ a :: later →
        a.planned = .ok operation → a.outcome = .ok () →
        (∀ b ∈ later, ∀ operation', b.planned = .ok operation' →
          ¬ operation'.Fills x.initial.current (spelled x.initial.current operation.target)) →
        operation.Left x.initial.current a.before x.final := by
  obtain ⟨hfinal, houtcome⟩ := run_process (s := x.surroundings) (m := x.machine) x.roots
    x.template x.spec x.names x.context
  obtain ⟨htried, hsound, herror⟩ := forEach_tries x.roots x.template x.spec x.surroundings
    (m := x.machine) hfree (rows x.template x.spec x.names x.context).1
    (rows x.template x.spec x.names x.context).2
  rw [← hfinal] at htried
  change Tried x.initial x.attempts x.final at htried
  have hchanged := htried.changed hsound
  refine ⟨htried, hchanged, fun p => hchanged.directory, fun p content => hchanged.file,
    fun a ha e he => ?_, fun earlier a later operation hattempts hplanned hok hkept => ?_⟩
  · obtain ⟨hfailed, hsame⟩ := (hsound a ha).unplanned e he
    exact ⟨hsame, htried.eq_after_of_failed ha hfailed, houtcome e (herror a ha e hfailed)⟩
  · have hsound' : ∀ b ∈ earlier ++ a :: later, b.Sound x.initial.current := hattempts ▸ hsound
    rw [hattempts] at htried
    have hleft := (hsound' a (List.mem_append_right _ List.mem_cons_self)).left operation hplanned
      hok
    refine hleft.of_changed (htried.behind.2.changed fun b hb => hsound' b ?_) ?_
    · exact List.mem_append_right _ (List.mem_cons_of_mem _ hb)
    · rintro ⟨b, hb, operation', hplanned', hfills⟩
      exact hkept b hb operation' hplanned' hfills

/-- A file for each of two names; the content of the second cannot be evaluated. -/
def halfListed : Processing where
  roots := ⟨"out", "src"⟩
  template := "\x7b\x7b v0 \x7d\x7d.txt"
  spec :=
    { range := "['a', 'b']"
      content := "\x7b% if v0 == 'b' %\x7d\x7b\x7b error('no') \x7d\x7d\x7b% endif %\x7done" }
  names := .standard {}
  context := pristine
  surroundings := idle
  machine := ⟨{ entries := [(["out"], .directory), (["out", "kept.txt"], .file [107])] }, []⟩

/-- The first file is complete although the second combination fails, and the file that was there
before is still there. -/
theorem process_changes_halfListed :
    halfListed.initial.LinkFree ∧
      halfListed.final.entry? ["out", "a.txt"] = some (.file (Utf8.ofString "one")) ∧
      (∃ content, halfListed.final.entry? ["out", "kept.txt"] = some (.file content)) ∧
      ∃ e, halfListed.outcome = .error e := by
  have hfree : halfListed.initial.LinkFree := FileTree.linkFree_of_entries (by decide)
  have hplans : halfListed.attempts.map (fun a => a.planned.toOption) =
      [some (.write "out/a.txt" (Utf8.ofString "one") []), none] := by decide +kernel
  have hall := process_changes halfListed hfree
  have htried := hall.1
  obtain ⟨-, hfile, hunplanned, hleft⟩ := hall.2.2
  obtain ⟨a, later, hattempts, hfirst, hlater⟩ := List.map_eq_cons_iff.1 hplans
  obtain ⟨b, rfl, hsecond⟩ := List.map_eq_singleton_iff.1 hlater
  have hkept : halfListed.initial.entry? ["out", "kept.txt"] = some (.file [107]) := by
    decide +kernel
  rw [hattempts] at htried
  have hbehind : Tried halfListed.initial ([] ++ a :: [b]) halfListed.final := htried
  refine ⟨hfree, ?_, hfile _ _ hkept, ?_⟩
  · have hplanned : a.planned = .ok (.write "out/a.txt" (Utf8.ofString "one") []) := by
      cases ha : a.planned with
      | error e =>
        rw [ha] at hfirst
        cases hfirst
      | ok operation =>
        rw [ha] at hfirst
        exact congrArg _ (Option.some.inj hfirst)
    have hplace : spelled halfListed.initial.current "out/a.txt" = ["out", "a.txt"] := by
      decide +kernel
    have hcontent : (Splice.splice (Utf8.ofString "one") []).written = Utf8.ofString "one" := by
      decide +kernel
    have hlast : ∀ b' ∈ [b], ∀ operation', b'.planned = .ok operation' →
        ¬ operation'.Fills halfListed.initial.current
          (spelled halfListed.initial.current "out/a.txt") := by
      intro b' hb' operation' hplanned'
      rw [List.mem_singleton.1 hb'] at hplanned'
      rw [hplanned'] at hsecond
      cases hsecond
    obtain ⟨-, hwritten⟩ := hleft [] a [b] _ hattempts hplanned
      (hbehind.behind.1 (List.cons_ne_nil _ _)) hlast
    rw [hplace, hcontent] at hwritten
    exact hwritten
  · cases hb : b.planned with
    | ok operation =>
      rw [hb] at hsecond
      cases hsecond
    | error e =>
      have hmem : b ∈ halfListed.attempts := by
        rw [hattempts]
        exact List.mem_cons_of_mem _ List.mem_cons_self
      exact ⟨e, (hunplanned b hmem e hb).2.2⟩

/-- Two files, each of which is copied to where it is. -/
def selfCopies : Processing where
  roots := ⟨"out", "src"⟩
  template := "\x7b\x7b v0 \x7d\x7d"
  spec := { range := "['a.txt', 'b.txt']", path := "../out/\x7b\x7b v0 \x7d\x7d" }
  names := .standard {}
  context := pristine
  surroundings := idle
  machine :=
    ⟨{ entries := [(["out"], .directory), (["src"], .directory), (["out", "a.txt"], .file [107]),
        (["out", "b.txt"], .file [108])] }, []⟩

/-- A file that is copied onto itself is empty afterwards, although the copy succeeds and no other
combination has its target. -/
theorem self_copy_empties :
    selfCopies.attempts.map Attempt.planned =
        [.ok (.copy "src/../out/a.txt" "out/a.txt"), .ok (.copy "src/../out/b.txt" "out/b.txt")] ∧
      selfCopies.outcome = .ok () ∧
      spelled [] "out/b.txt" ≠ spelled [] "out/a.txt" ∧
      selfCopies.initial.entry? (spelled [] "src/../out/a.txt") = some (.file [107]) ∧
      selfCopies.final.entry? (spelled [] "out/a.txt") = some (.file []) := by
  decide +kernel

end Emission

end Scaffold

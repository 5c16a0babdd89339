import Scaffold.FileSystem.Tree

/-!
# Changes — what operations on files change in a tree without links
-/

set_option autoImplicit false

/-!
## Tree — what is at a place after a change

A write to a place is seen at that place and at no other (`entry?_set`). The place that a file can
be written at is never the root (`ne_nil_of_writableWithin`), so that what is written is seen.
-/

namespace Scaffold

namespace FileTree

/-- What a computation that succeeds in the end has succeeded with on its way. -/
theorem bind_eq_ok {ε α β : Type} {x : Except ε α} {f : α → Except ε β} {b : β}
    (h : (x >>= f) = .ok b) : ∃ a, x = .ok a ∧ f a = .ok b := by
  cases x with
  | error e => cases h
  | ok a => exact ⟨a, rfl, h⟩

theorem lookup_filter_of_ne {p q : Place} (h : q ≠ p) (entries : List (Place × Entry)) :
    (entries.filter (·.1 != p)).lookup q = entries.lookup q := by
  induction entries with
  | nil => rfl
  | cons entry entries ih =>
    obtain ⟨place, e⟩ := entry
    by_cases hplace : place = p
    · have hq : (q == place) = false := beq_false_of_ne (hplace ▸ h)
      rw [List.filter_cons_of_neg (by simp [hplace]), ih, List.lookup_cons, hq]
    · rw [List.filter_cons_of_pos (by simp [hplace]), List.lookup_cons, List.lookup_cons, ih]

/-- A write is seen where it was made, and nowhere else. -/
theorem entry?_set (t : FileTree) {p : Place} (hp : p ≠ []) (e : Entry) (q : Place) :
    FileTree.entry? (t.set p e) q = if q = p then some e else t.entry? q := by
  by_cases hq : q = p
  · rw [if_pos hq, hq, entry?, if_neg hp, set, List.lookup_cons_self]
  · rw [if_neg hq, entry?, entry?, set, List.lookup_cons, beq_false_of_ne hq,
      lookup_filter_of_ne hq]

/-- A file is written below a directory. -/
theorem ne_nil_of_writableWithin {t : FileTree} {links : Nat} {start place : Place} {path : String}
    (h : t.writableWithin links start path = .ok place) : place ≠ [] := by
  induction links using Nat.strongRecOn generalizing start path with
  | ind links ih =>
    rw [writableWithin] at h
    obtain ⟨⟨p, name⟩, -, h⟩ := bind_eq_ok h
    cases name with
    | none => cases h
    | some name =>
      dsimp only at h
      split at h
      · cases h
      · split at h
        · cases h
        · cases links with
          | zero => cases h
          | succ links => exact ih links (Nat.lt_succ_self links) h
        · cases h
          exact List.concat_ne_nil name p
        · cases h
          exact List.concat_ne_nil name p

end FileTree

end Scaffold

/-!
## Changes — from one tree to another

Where nothing is a link, a path can lead to one place only, the one that its names spell out
(`spelled`); so an operation that succeeds has acted at the place that its path spells, whatever
the tree holds. From one tree to another, directories may be made and files may be written, each at
certain places (`Changed`); what was a directory stays one, what was a file stays a file, and all
other places are as they were. Changes of this kind can follow one another.
-/

namespace Scaffold

namespace Path

/-- What lies above a path: its parent, and what lies above that. -/
inductive IsAncestor : String → String → Prop
  | parent {path above : String} (h : parent? path = some above) : IsAncestor path above
  | further {path parent above : String} (h : parent? path = some parent)
      (habove : IsAncestor parent above) : IsAncestor path above

/-- A path stands in front of what lies above it. -/
theorem ancestorsWithin_eq_cons (fuel : Nat) (path : String) :
    ∃ above, ancestorsWithin fuel path = path :: above := by
  cases fuel with
  | zero => exact ⟨[], rfl⟩
  | succ fuel =>
    rw [ancestorsWithin]
    split
    · exact ⟨_, rfl⟩
    · exact ⟨[], rfl⟩

theorem eq_or_isAncestor_of_mem {fuel : Nat} {path a : String}
    (h : a ∈ ancestorsWithin fuel path) : a = path ∨ IsAncestor path a := by
  induction fuel generalizing path with
  | zero => exact .inl (List.mem_singleton.1 h)
  | succ fuel ih =>
    rw [ancestorsWithin] at h
    split at h
    next parent hparent =>
      rcases List.mem_cons.1 h with rfl | h
      · exact .inl rfl
      · rcases ih h with rfl | habove
        · exact .inr (.parent hparent)
        · exact .inr (.further hparent habove)
    next => exact .inl (List.mem_singleton.1 h)

end Path

namespace FileTree

/-- One name further: a single dot stays, two dots lead back. -/
def further (p : Place) (name : String) : Place :=
  if name = "." then p else if name = ".." then p.dropLast else p ++ [name]

/-- The place that a path spells out from the current directory, whatever is there. -/
def spelled (current : Place) (path : String) : Place :=
  (Path.steps path).foldl further (if Path.isAbsolute path then [] else current)

/-- Nothing in the tree is a link. -/
def LinkFree (t : FileTree) : Prop := ∀ p path, t.entry? p ≠ some (.link path)

/-- The entry is a link. -/
def isLink : Entry → Bool
  | .link _ => true
  | _ => false

theorem linkFree_of_entries {t : FileTree} (h : ∀ entry ∈ t.entries, isLink entry.2 = false) :
    t.LinkFree := by
  intro p path hlink
  unfold entry? at hlink
  split at hlink
  · cases hlink
  · obtain ⟨before, after, hentries, -⟩ := List.lookup_eq_some_iff.1 hlink
    have hmem : (p, Entry.link path) ∈ t.entries := by
      rw [hentries]
      exact List.mem_append_right _ List.mem_cons_self
    cases h _ hmem

section Walks

variable {t : FileTree}

theorem stepWithin_eq_ok (hfree : t.LinkFree) {links : Nat} {p q : Place} {name : String}
    (h : t.stepWithin links p name = .ok q) : q = further p name := by
  unfold stepWithin at h
  split at h
  · cases h
  · cases h
  · cases h
  · split at h
    next hdot =>
      cases h
      rw [further, if_pos hdot]
    next hdot =>
      split at h
      next hdots =>
        cases h
        rw [further, if_neg hdot, if_pos hdots]
      next hdots =>
        split at h
        · cases h
        · split at h
          · cases h
          · cases h
          next path _ hlink => exact absurd hlink (hfree _ path)
          · cases h
            rw [further, if_neg hdot, if_neg hdots]

theorem foldlM_step_eq_ok (hfree : t.LinkFree) {names : List String} {p q : Place}
    (h : names.foldlM t.step p = .ok q) : q = names.foldl further p := by
  induction names generalizing p with
  | nil =>
    cases h
    rfl
  | cons name names ih =>
    obtain ⟨p', hstep, hrest⟩ := bind_eq_ok h
    rw [List.foldl_cons, ← stepWithin_eq_ok hfree hstep]
    exact ih hrest

/-- The names of a path, with the dot that a slash at its end stands for. -/
theorem steps_eq_ok {path : String} {names : List String} (h : steps path = .ok names) :
    names = Path.steps path ++ if Path.endsInSlash path then ["."] else [] := by
  rw [steps] at h
  split at h
  · cases h
  · split at h
    · cases h
    · exact (Except.ok.inj h).symm

/-- A path leads to the place that it spells, if it leads anywhere. -/
theorem place_eq_ok (hfree : t.LinkFree) {path : String} {p : Place}
    (h : t.place path = .ok p) : p = spelled t.current path := by
  obtain ⟨names, hnames, hwalk⟩ := bind_eq_ok h
  rw [foldlM_step_eq_ok hfree hwalk, steps_eq_ok hnames, List.foldl_append]
  cases Path.endsInSlash path <;> rfl

/-- What a path names something as is a name in the directory that leads to it. -/
theorem target_eq_ok (hfree : t.LinkFree) {path name : String} {p : Place}
    (h : t.target path = .ok (p, some name)) : p ++ [name] = spelled t.current path := by
  obtain ⟨names, hnames, hrest⟩ := bind_eq_ok h
  have hsteps : (if Path.endsInSlash path then names.dropLast else names) = Path.steps path := by
    rw [steps_eq_ok hnames]
    cases Path.endsInSlash path with
    | true => rw [if_pos rfl, if_pos rfl, List.dropLast_concat]
    | false => rw [if_neg Bool.false_ne_true, if_neg Bool.false_ne_true, List.append_nil]
  dsimp only at hrest
  rw [hsteps] at hrest
  split at hrest
  · cases hrest
  next last hlast =>
    obtain ⟨p', hwalk, hrest⟩ := bind_eq_ok hrest
    split at hrest
    · cases hrest
    · cases hrest
    · cases hrest
    · split at hrest
      · cases hrest
      next hdots =>
        split at hrest
        · cases hrest
        · cases hrest
          rw [Bool.or_eq_true, not_or, decide_eq_true_eq, decide_eq_true_eq] at hdots
          obtain ⟨front, hfront⟩ := List.getLast?_eq_some_iff.1 hlast
          rw [foldlM_step_eq_ok hfree hwalk, spelled, hfront, List.dropLast_concat,
            List.foldl_append, start]
          exact (if_neg hdots.1).trans (if_neg hdots.2) |>.symm

/-- A file is written where nothing is, or in place of a file, at the place that the path spells. -/
theorem writable_eq_ok (hfree : t.LinkFree) {path : String} {p : Place}
    (h : t.writable path = .ok p) :
    p = spelled t.current path ∧ p ≠ [] ∧ t.entry? p ≠ some .directory := by
  rw [writable, writableWithin] at h
  obtain ⟨⟨p', name⟩, htarget, h⟩ := bind_eq_ok h
  cases name with
  | none => cases h
  | some name =>
    dsimp only at h
    split at h
    · cases h
    · split at h
      · cases h
      next path' hlink => exact absurd hlink (hfree _ path')
      next hfile =>
        cases h
        exact ⟨target_eq_ok hfree htarget, List.concat_ne_nil _ _, by simp [hfile]⟩
      next hnone =>
        cases h
        exact ⟨target_eq_ok hfree htarget, List.concat_ne_nil _ _, by simp [hnone]⟩

end Walks

/-! ## Changes -/

/-- From one tree to another, directories are made where nothing was, at places of one kind, and
files are written where no directory was, at places of another kind. That is all. -/
structure Changed (makes fills : Place → Prop) (before after : FileTree) : Prop where
  current : after.current = before.current
  entries : ∀ p, after.entry? p = before.entry? p ∨
    (makes p ∧ before.entry? p = none ∧ after.entry? p = some .directory) ∨
    (fills p ∧ before.entry? p ≠ some .directory ∧
      ∃ content, after.entry? p = some (.file content))

namespace Changed

variable {makes fills makes' fills' : Place → Prop} {t before between after : FileTree}
  {p : Place}

theorem refl (t : FileTree) : Changed makes fills t t := ⟨rfl, fun _ => .inl rfl⟩

theorem mono (hmakes : ∀ p, makes p → makes' p) (hfills : ∀ p, fills p → fills' p)
    (h : Changed makes fills before after) : Changed makes' fills' before after := by
  refine ⟨h.current, fun p => ?_⟩
  rcases h.entries p with hsame | ⟨hmade, hrest⟩ | ⟨hfilled, hrest⟩
  · exact .inl hsame
  · exact .inr (.inl ⟨hmakes p hmade, hrest⟩)
  · exact .inr (.inr ⟨hfills p hfilled, hrest⟩)

/-- What is made or written stays a directory or a file when more is made and written. -/
theorem trans (h : Changed makes fills before between) (h' : Changed makes fills between after) :
    Changed makes fills before after := by
  refine ⟨h'.current.trans h.current, fun p => ?_⟩
  rcases h.entries p with hsame | ⟨hmade, hnone, hdirectory⟩ | ⟨hfilled, hbefore, content, hfile⟩
  · rw [← hsame]
    exact h'.entries p
  · refine .inr (.inl ⟨hmade, hnone, ?_⟩)
    rcases h'.entries p with hsame' | ⟨-, hnone', -⟩ | ⟨-, hnot, -⟩
    · exact hsame'.trans hdirectory
    · cases hdirectory.symm.trans hnone'
    · exact absurd hdirectory hnot
  · refine .inr (.inr ⟨hfilled, hbefore, ?_⟩)
    rcases h'.entries p with hsame' | ⟨-, hnone', -⟩ | ⟨-, -, hfile'⟩
    · exact ⟨content, hsame'.trans hfile⟩
    · cases hfile.symm.trans hnone'
    · exact hfile'

theorem linkFree (h : Changed makes fills before after) (hfree : before.LinkFree) :
    after.LinkFree := by
  intro p path hlink
  rcases h.entries p with hsame | ⟨-, -, hdirectory⟩ | ⟨-, -, content, hfile⟩
  · exact hfree p path (hsame.symm.trans hlink)
  · cases hdirectory.symm.trans hlink
  · cases hfile.symm.trans hlink

/-- No directory goes away. -/
theorem directory (h : Changed makes fills before after)
    (hbefore : before.entry? p = some .directory) : after.entry? p = some .directory := by
  rcases h.entries p with hsame | ⟨-, -, hdirectory⟩ | ⟨-, hnot, -⟩
  · exact hsame.trans hbefore
  · exact hdirectory
  · exact absurd hbefore hnot

/-- No file goes away. -/
theorem file (h : Changed makes fills before after) {content : Bytes}
    (hbefore : before.entry? p = some (.file content)) :
    ∃ content, after.entry? p = some (.file content) := by
  rcases h.entries p with hsame | ⟨-, hnone, -⟩ | ⟨-, -, hfile⟩
  · exact ⟨content, hsame.trans hbefore⟩
  · cases hbefore.symm.trans hnone
  · exact hfile

/-- Where no file is written, a file that is there afterwards was there before. -/
theorem file_iff (h : Changed makes fills before after) (hp : ¬ fills p) (content : Bytes) :
    after.entry? p = some (.file content) ↔ before.entry? p = some (.file content) := by
  rcases h.entries p with hsame | ⟨-, hnone, hdirectory⟩ | ⟨hfilled, -⟩
  · rw [hsame]
  · simp [hnone, hdirectory]
  · exact absurd hfilled hp

end Changed

/-! ## Operations -/

section Operations

variable {t t' : FileTree}

theorem Changed.set_directory {p : Place} (hp : p ≠ []) (hnone : t.entry? p = none) :
    Changed (· = p) (fun _ => False) t (t.set p .directory) := by
  refine ⟨rfl, fun q => ?_⟩
  rw [entry?_set t hp]
  by_cases hq : q = p
  · exact .inr (.inl ⟨hq, hq ▸ hnone, if_pos hq⟩)
  · exact .inl (if_neg hq)

theorem Changed.set_file {p : Place} (hp : p ≠ []) (hnot : t.entry? p ≠ some .directory)
    (content : Bytes) : Changed (fun _ => False) (· = p) t (t.set p (.file content)) := by
  refine ⟨rfl, fun q => ?_⟩
  rw [entry?_set t hp]
  by_cases hq : q = p
  · exact .inr (.inr ⟨hq, hq ▸ hnot, content, if_pos hq⟩)
  · exact .inl (if_neg hq)

/-- A directory is made at the place that its path spells. -/
theorem makeDirectory_changed (hfree : t.LinkFree) {path : String}
    (h : t.makeDirectory path = .ok t') :
    Changed (· = spelled t.current path) (fun _ => False) t t' ∧
      t'.entry? (spelled t.current path) = some .directory := by
  obtain ⟨⟨p, name⟩, htarget, h⟩ := bind_eq_ok h
  cases name with
  | none => cases h
  | some name =>
    dsimp only at h
    split at h
    · cases h
    next hnone =>
      cases h
      have hp : p ++ [name] ≠ [] := List.concat_ne_nil _ _
      rw [← target_eq_ok hfree htarget]
      exact ⟨.set_directory hp hnone, (entry?_set t hp _ _).trans (if_pos rfl)⟩

/-- A path that leads to a directory spells the place of one. -/
theorem entry?_of_kind? (hfree : t.LinkFree) {path : String}
    (h : t.kind? path = some .directory) :
    t.entry? (spelled t.current path) = some .directory := by
  rw [kind?] at h
  split at h
  next p hplace =>
    rw [← place_eq_ok hfree hplace]
    split at h
    next hdirectory => exact hdirectory
    all_goals cases h
  · cases h

/-- A write puts the content at the place that its path spells. -/
theorem write_changed (hfree : t.LinkFree) {path : String} {content : Bytes}
    (h : t.write path content = .ok t') :
    Changed (fun _ => False) (· = spelled t.current path) t t' ∧
      t'.entry? (spelled t.current path) = some (.file content) := by
  obtain ⟨p, hwritable, h⟩ := bind_eq_ok h
  obtain ⟨rfl, hp, hnot⟩ := writable_eq_ok hfree hwritable
  cases h
  exact ⟨.set_file hp hnot content, (entry?_set t hp _ _).trans (if_pos rfl)⟩

/-- A copy puts the content of its source at the place that its path spells; if that is the place
of the source itself, the content is lost. -/
theorem copy_changed (hfree : t.LinkFree) {source target : String}
    (h : t.copy source target = .ok t') :
    Changed (fun _ => False) (· = spelled t.current target) t t' ∧
      ∃ content, t.entry? (spelled t.current source) = some (.file content) ∧
        t'.entry? (spelled t.current target) = some (.file
          (if spelled t.current target = spelled t.current source then [] else content)) := by
  obtain ⟨p, hplace, h⟩ := bind_eq_ok h
  obtain rfl := place_eq_ok hfree hplace
  split at h
  next content hsource =>
    obtain ⟨q, hwritable, h⟩ := bind_eq_ok h
    obtain ⟨rfl, hq, hnot⟩ := writable_eq_ok hfree hwritable
    cases h
    exact ⟨.set_file hq hnot _, content, hsource, (entry?_set t hq _ _).trans (if_pos rfl)⟩
  · cases h
  · cases h
  · cases h

end Operations

end FileTree

end Scaffold

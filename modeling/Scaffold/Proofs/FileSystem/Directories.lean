import Scaffold.Proofs.Emission.Splicing
import Scaffold.Proofs.FileSystem.Changes
import Scaffold.Proofs.Work

/-!
# Directories — what the calls on files change on a machine

A call that makes a directory, copies a file or writes one changes the tree of a machine at the place
that its path spells, and only there. So the making of a chain of directories changes the tree at
the places of these directories (`run_changes`), although what has to be made is found out on the
way; and if it succeeds, the last of them is there (`entry?_of_run_makeDirectories`).
-/

set_option autoImplicit false

namespace Scaffold

open FileTree (Changed spelled)

namespace System

/-- The call makes a directory at a path of a certain kind, or leaves files alone. -/
def MakesOnly (S : String → Prop) : SystemCall → Prop
  | .makeDirectory path => S path
  | .write _ _ | .copy _ _ | .execute _ => False
  | .kind _ | .read _ | .canonical _ | .exchange _ | .report _ => True

theorem MakesOnly.mono {S S' : String → Prop} (h : ∀ path, S path → S' path) (q : SystemCall)
    (hq : MakesOnly S q) : MakesOnly S' q := by
  cases q with
  | makeDirectory path => exact h path hq
  | write | copy | execute => exact hq
  | kind | read | canonical | exchange | report => exact hq

theorem unlessDirectory_makesOnly {S : String → Prop} (path : String) (fault : FileFault) :
    (unlessDirectory path fault).Asks (MakesOnly S) := by
  refine Dialogue.Asks.bind (asks_call trivial) fun found => ?_
  split <;> trivial

theorem makeChain_makesOnly (paths : List String) :
    (makeChain paths).Asks (MakesOnly (· ∈ paths)) := by
  induction paths with
  | nil => trivial
  | cons path paths ih =>
    have hmake : (makeDirectory path).Asks (MakesOnly (· ∈ path :: paths)) :=
      asks_call (P := MakesOnly _) List.mem_cons_self
    have habove := ih.mono (MakesOnly.mono fun _ => List.mem_cons_of_mem path)
    rw [makeChain]
    split
    · trivial
    · refine Dialogue.Asks.bind hmake fun made => ?_
      split
      · trivial
      · refine Dialogue.Asks.bind habove fun above => ?_
        split
        · trivial
        · refine Dialogue.Asks.bind hmake fun again => ?_
          split
          · trivial
          · exact unlessDirectory_makesOnly _ _
      · exact unlessDirectory_makesOnly _ _

/-- Directories are made at a path and above it. -/
theorem makeDirectories_makesOnly (path : String) :
    (makeDirectories path).Asks (MakesOnly fun a => a = path ∨ Path.IsAncestor path a) :=
  (makeChain_makesOnly _).mono (MakesOnly.mono fun _ => Path.eq_or_isAncestor_of_mem)

/-- Directories that lead to a file are made above it. -/
theorem makeParents_makesOnly (path : String) :
    (makeParents path).Asks (MakesOnly (Path.IsAncestor path)) := by
  rw [makeParents]
  split
  · trivial
  next parent hparent =>
    have habove : ∀ a, a = parent ∨ Path.IsAncestor parent a → Path.IsAncestor path a := by
      rintro a (rfl | habove)
      · exact .parent hparent
      · exact .further hparent habove
    have hmake := (makeDirectories_makesOnly parent).mono (MakesOnly.mono habove)
    refine Dialogue.Asks.bind hmake fun made => ?_
    split <;> trivial

section Running

variable {S : String → Prop} {s : Surroundings} {m : Machine}

/-- A change of the tree that is answered is that of the operation, if it succeeds. -/
theorem change_changes {makes fills : Place → Prop} {Q : FileTree → Prop}
    {x : Except FileFault FileTree}
    (h : ∀ t, x = .ok t → Changed makes fills m.tree t ∧ Q t) :
    Changed makes fills m.tree (m.change x).2.tree ∧
      ((m.change x).1 = .ok () → Q (m.change x).2.tree) := by
  cases x with
  | error fault => exact ⟨.refl _, fun hok => by cases hok⟩
  | ok t =>
    obtain ⟨hchanged, hleft⟩ := h t rfl
    exact ⟨hchanged, fun _ => hleft⟩

/-- A directory is made at its place only. If that succeeds, it is there. -/
theorem run_makeDirectory_changes (s : Surroundings) (hfree : m.tree.LinkFree) (path : String) :
    Changed (· = spelled m.tree.current path) (fun _ => False) m.tree
        (m.run s (makeDirectory path)).2.tree ∧
      ((m.run s (makeDirectory path)).1 = .ok () →
        FileTree.entry? (m.run s (makeDirectory path)).2.tree (spelled m.tree.current path) =
          some .directory) := by
  have hchange := change_changes (m := m) fun t (h : m.tree.makeDirectory path = .ok t) =>
    FileTree.makeDirectory_changed hfree h
  exact hchange

/-- A copy changes a tree at its target only. If it succeeds, the content of the source is there. -/
theorem run_copy_changes (s : Surroundings) (hfree : m.tree.LinkFree) (source target : String) :
    Changed (fun _ => False) (· = spelled m.tree.current target) m.tree
        (m.run s (copy source target)).2.tree ∧
      ((m.run s (copy source target)).1 = .ok () →
        ∃ content, m.tree.entry? (spelled m.tree.current source) = some (.file content) ∧
          FileTree.entry? (m.run s (copy source target)).2.tree (spelled m.tree.current target) =
            some (.file (if spelled m.tree.current target = spelled m.tree.current source then []
              else content))) := by
  have hchange := change_changes (m := m) fun t (h : m.tree.copy source target = .ok t) =>
    FileTree.copy_changed hfree h
  exact hchange

/-- A write changes a tree at its target only. If it succeeds, the content is there. -/
theorem run_write_changes (s : Surroundings) (hfree : m.tree.LinkFree) (target : String)
    (content : Bytes) :
    Changed (fun _ => False) (· = spelled m.tree.current target) m.tree
        (m.run s (write target content)).2.tree ∧
      ((m.run s (write target content)).1 = .ok () →
        FileTree.entry? (m.run s (write target content)).2.tree (spelled m.tree.current target) =
          some (.file content)) := by
  have hchange := change_changes (m := m) fun t (h : m.tree.write target content = .ok t) =>
    FileTree.write_changed hfree h
  exact hchange

theorem answer_changes (hfree : m.tree.LinkFree) {q : SystemCall} (hq : MakesOnly S q) :
    Changed (fun p => ∃ path, S path ∧ p = spelled m.tree.current path) (fun _ => False) m.tree
      (Machine.answer s q m).2.tree := by
  cases q with
  | makeDirectory path =>
    exact (run_makeDirectory_changes s hfree path).1.mono (fun p hp => ⟨path, hq, hp⟩) fun _ h => h
  | write | copy | execute => exact hq.elim
  | kind | read | canonical | exchange | report => exact .refl _

/-- What makes directories only changes a tree at their places. -/
theorem run_changes {α : Type} {x : System α} (h : x.Asks (MakesOnly S)) (hfree : m.tree.LinkFree) :
    Changed (fun p => ∃ path, S path ∧ p = spelled m.tree.current path) (fun _ => False) m.tree
      (m.run s x).2.tree := by
  induction x generalizing m with
  | done a => exact .refl _
  | ask q next ih =>
    have hfirst := answer_changes (s := s) hfree h.1
    have hrest := ih (Machine.answer s q m).1 (h.2 _) (hfirst.linkFree hfree)
    rw [hfirst.current] at hrest
    exact hfirst.trans hrest

/-- The directory is there if making it has failed for that reason. -/
theorem entry?_of_run_unlessDirectory (hfree : m.tree.LinkFree) {path : String} {fault : FileFault}
    (h : (m.run s (unlessDirectory path fault)).1 = .ok ()) :
    FileTree.entry? (m.run s (unlessDirectory path fault)).2.tree (spelled m.tree.current path) =
      some .directory := by
  rw [unlessDirectory, Emission.run_bind] at h ⊢
  split at h
  next hkind => exact FileTree.entry?_of_kind? hfree hkind
  · cases h

/-- The first directory of a chain is there if the chain was made. -/
theorem entry?_of_run_makeChain (hfree : m.tree.LinkFree) {path : String} {parents : List String}
    (hpath : path.isEmpty = false)
    (h : (m.run s (makeChain (path :: parents))).1 = .ok ()) :
    FileTree.entry? (m.run s (makeChain (path :: parents))).2.tree (spelled m.tree.current path) =
      some .directory := by
  have hfirst := (run_makeDirectory_changes s hfree path).1
  rw [makeChain, if_neg (Bool.eq_false_iff.1 hpath), Emission.run_bind] at h ⊢
  split at h
  next hmade => exact (run_makeDirectory_changes s hfree path).2 hmade
  next hmissing =>
    have hfree₁ := hfirst.linkFree hfree
    have habove := run_changes (s := s) (makeChain_makesOnly parents) hfree₁
    have hfree₂ := habove.linkFree hfree₁
    rw [← hfirst.current, ← habove.current]
    rw [Emission.run_bind] at h ⊢
    split at h
    · cases h
    next =>
      have hagain := (run_makeDirectory_changes s hfree₂ path).1
      rw [Emission.run_bind] at h ⊢
      split at h
      next hmade => exact (run_makeDirectory_changes s hfree₂ path).2 hmade
      next =>
        rw [← hagain.current]
        exact entry?_of_run_unlessDirectory (hagain.linkFree hfree₂) h
  next =>
    rw [← hfirst.current]
    exact entry?_of_run_unlessDirectory (hfirst.linkFree hfree) h

/-- A directory that was made with those that lead to it is there. -/
theorem entry?_of_run_makeDirectories (hfree : m.tree.LinkFree) {path : String}
    (hpath : path.isEmpty = false) (h : (m.run s (makeDirectories path)).1 = .ok ()) :
    FileTree.entry? (m.run s (makeDirectories path)).2.tree (spelled m.tree.current path) =
      some .directory := by
  obtain ⟨above, habove⟩ := Path.ancestorsWithin_eq_cons path.length path
  rw [makeDirectories, Path.ancestors, habove] at h ⊢
  exact entry?_of_run_makeChain hfree hpath h

end Running

end System

end Scaffold

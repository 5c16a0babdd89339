import Mathlib.Data.Set.Card
import Mathlib.Logic.Relation
import Scaffold.Proofs.Import.Chain

/-!
# Graph — which documents load, and what they load as

A loader that answers without asking spans a graph: a document leads to every document that it
imports, each looked for from where it is named. A load follows that graph, and `load_ok_iff` says
what comes of it. A load succeeds exactly where every document that is met can be read and no path
comes back to an identity that is on it (`IsAcyclic`); on a graph without such a path it is the
recursion `plain`, which keeps no chain at all; and where every document can be read, a path that
comes back ends in the error of an import.

The chain is what the induction is on. `Fresh` says of a chain that no path below it meets it again,
and `Below` that the chain is made of loaded documents, so that it cannot outgrow their number.
-/

set_option autoImplicit false

namespace Scaffold

namespace Loader

variable (l : Loader Id)

/-! ## The graph -/

/-- A document can be fetched and read. -/
def Readable (source : Source) : Prop := ∃ document, l.read source = .ok document

/-- A document imports another one, under a locator that is resolved where it stands. -/
def Imports (source target : Source) : Prop :=
  ∃ document, l.read source = .ok document ∧
    ∃ locator ∈ document.imports, target = source.resolve locator

/-- A document is met by following imports. -/
def Meets (source target : Source) : Prop := Relation.ReflTransGen l.Imports source target

/-- Every document that is met can be read. -/
def IsComplete (source : Source) : Prop := ∀ target, l.Meets source target → l.Readable target

/-- No import path comes back to an identity that is already on it. -/
def IsAcyclic (source : Source) : Prop :=
  ∀ path, List.IsChain l.Imports (source :: path) → ((source :: path).map l.nameOf).Nodup

/-- The identities of the documents that are met and can be read. -/
def loadable (source : Source) : Set String :=
  { identity | ∃ target, l.Meets source target ∧ l.Readable target ∧ l.nameOf target = identity }

/-- Loading without any memory of what is being loaded: a document on top of its imports, each
loaded for itself. It has no value where imports nest deeper than `depth`. -/
def plain : Nat → Bool → Source → ExceptT Error Option Document
  | 0, _, _ => ExceptT.mk none
  | depth + 1, isImport, source => do
    let document ← ExceptT.mk (some (
      match l.read source with
      | .ok document => .ok document
      | .error e => .error (if isImport then importError source e else e)))
    let imported ← document.imports.mapM fun locator => plain depth true (source.resolve locator)
    return Document.compose imported document

variable {l}

/-- A complete graph is a document that can be read over complete graphs. -/
theorem isComplete_iff {source : Source} :
    l.IsComplete source ↔
      l.Readable source ∧ ∀ target, l.Imports source target → l.IsComplete target := by
  constructor
  · intro h
    exact ⟨h source .refl, fun target himports other hmeets =>
      h other (Relation.ReflTransGen.head himports hmeets)⟩
  · rintro ⟨hread, hbelow⟩ target hmeets
    rcases Relation.ReflTransGen.cases_head hmeets with rfl | ⟨next, himports, hmeets⟩
    · exact hread
    · exact hbelow next himports target hmeets

/-! ## Chains -/

/-- No path below a chain meets an identity of the chain or one of its own a second time. -/
def Fresh (l : Loader Id) (chain : List String) (source : Source) : Prop :=
  ∀ path, List.IsChain l.Imports (source :: path) →
    (chain ++ (source :: path).map l.nameOf).Nodup

/-- A chain stays fresh exactly where it can be made longer by the document and stays fresh for
each of its imports. -/
theorem fresh_iff {chain : List String} {source : Source} :
    l.Fresh chain source ↔ (chain ++ [l.nameOf source]).Nodup ∧
      ∀ target, l.Imports source target → l.Fresh (chain ++ [l.nameOf source]) target := by
  constructor
  · intro h
    refine ⟨h [] (.singleton source), fun target himports path hpath => ?_⟩
    have hlonger := h (target :: path) (.cons_cons himports hpath)
    rw [List.append_assoc]
    exact hlonger
  · rintro ⟨hnodup, hbelow⟩ path hpath
    cases path with
    | nil => exact hnodup
    | cons target path =>
      obtain ⟨himports, hrest⟩ := List.isChain_cons_cons.1 hpath
      have hlonger := hbelow target himports path hrest
      rw [List.append_assoc] at hlonger
      exact hlonger

/-- What a chain is made of while a document is loaded: identities of documents that were read, each
once. So the room that is left and the chain together exceed the number of such identities. -/
structure Below (l : Loader Id) (identities : Finset String) (room : Nat) (chain : List String)
    (source : Source) : Prop where
  nodup : chain.Nodup
  loaded : ∀ identity ∈ chain, identity ∈ identities
  loadable : ∀ target, l.Meets source target → l.Readable target →
    l.nameOf target ∈ identities
  enough : identities.card < room + chain.length

/-- There is always room for one more document. -/
theorem Below.room_pos {identities : Finset String} {room : Nat} {chain : List String}
    {source : Source} (h : l.Below identities room chain source) : 0 < room := by
  have hsubset : chain.toFinset ⊆ identities := fun identity hmem =>
    h.loaded identity (List.mem_toFinset.1 hmem)
  have hlength : chain.length ≤ identities.card := by
    rw [← List.toFinset_card_of_nodup h.nodup]
    exact Finset.card_le_card hsubset
  have henough := h.enough
  omega

/-- The chain that an import is loaded behind. -/
theorem Below.step {identities : Finset String} {room : Nat} {chain : List String}
    {source target : Source} (h : l.Below identities (room + 1) chain source)
    (hnew : l.nameOf source ∉ chain) (himports : l.Imports source target) :
    l.Below identities room (chain ++ [l.nameOf source]) target := by
  have hread : l.Readable source := himports.imp fun _ hdocument => hdocument.1
  refine ⟨?_, ?_, ?_, ?_⟩
  · exact List.nodup_append.2 ⟨h.nodup, List.nodup_singleton _, fun a ha b hb heq =>
      hnew (by rwa [← List.mem_singleton.1 hb, ← heq])⟩
  · intro identity hmem
    rcases List.mem_append.1 hmem with hmem | hmem
    · exact h.loaded identity hmem
    · rw [List.mem_singleton.1 hmem]
      exact h.loadable source .refl hread
  · intro other hmeets
    exact h.loadable other (Relation.ReflTransGen.head himports hmeets)
  · have henough := h.enough
    rw [List.length_append, List.length_singleton]
    omega

/-! ## Whole loads -/

variable {room : Nat} {chain : List String} {source : Source}

/-- A load that succeeds has read every document that is met, and no path came back. -/
theorem complete_and_fresh_of_loadBehind_eq_ok {document : Document} (hnodup : chain.Nodup)
    (h : l.loadBehind room chain source = .ok document) :
    l.IsComplete source ∧ l.Fresh chain source := by
  induction room generalizing chain source document with
  | zero => cases h
  | succ room ih =>
    by_cases hmem : l.nameOf source ∈ chain
    · rw [loadBehind_of_mem hmem] at h
      cases h
    have hlonger : (chain ++ [l.nameOf source]).Nodup :=
      List.nodup_append.2 ⟨hnodup, List.nodup_singleton _, fun a ha b hb heq =>
        hmem (by rwa [← List.mem_singleton.1 hb, ← heq])⟩
    cases hread : l.read source with
    | error e =>
      rw [loadBehind_of_unreadable hmem hread] at h
      cases h
    | ok own =>
      rw [loadBehind_of_readable hmem hread] at h
      -- every import was loaded behind the longer chain, so the hypothesis speaks of each
      have hbelow : ∀ target, l.Imports source target →
          l.IsComplete target ∧ l.Fresh (chain ++ [l.nameOf source]) target := by
        rintro target ⟨own', hread', locator, hlocator, rfl⟩
        obtain rfl : own = own' := Except.ok.inj (hread.symm.trans hread')
        cases hall : untilError (l.loadImport room chain source) own.imports with
        | error e =>
          rw [hall] at h
          cases h
        | ok imported =>
          obtain ⟨below, hloaded⟩ := exists_ok_of_untilError_eq_ok hall locator hlocator
          exact ih hlonger hloaded
      exact ⟨isComplete_iff.2 ⟨⟨own, hread⟩, fun target himports => (hbelow target himports).1⟩,
        fresh_iff.2 ⟨hlonger, fun target himports => (hbelow target himports).2⟩⟩

/-- On a complete graph and with enough room, a load fails only where a path comes back, and then
with the error of an import. -/
theorem loadBehind_of_isComplete {identities : Finset String}
    (hroom : l.Below identities room chain source) (hcomplete : l.IsComplete source) :
    (∃ document, l.loadBehind room chain source = .ok document) ∨
      (¬ l.Fresh chain source ∧
        ∃ locator reason, l.loadBehind room chain source = .error (.importing locator reason)) := by
  induction room generalizing chain source with
  | zero => exact absurd hroom.room_pos (Nat.lt_irrefl 0)
  | succ room ih =>
    by_cases hmem : l.nameOf source ∈ chain
    · refine .inr ⟨fun hfresh => ?_, _, _, loadBehind_of_mem hmem⟩
      have hnodup := (fresh_iff.1 hfresh).1
      exact (List.nodup_append.1 hnodup).2.2 _ hmem _ (List.mem_singleton_self _) rfl
    obtain ⟨⟨own, hread⟩, hbelow⟩ := isComplete_iff.1 hcomplete
    have himports : ∀ locator ∈ own.imports, l.Imports source (source.resolve locator) :=
      fun locator hlocator => ⟨own, hread, locator, hlocator, rfl⟩
    rw [loadBehind_of_readable hmem hread]
    cases hall : untilError (l.loadImport room chain source) own.imports with
    | ok imported => exact .inl ⟨_, rfl⟩
    | error e =>
      obtain ⟨locator, hlocator, hfailed⟩ := exists_error_of_untilError_eq_error hall
      have hstep := himports locator hlocator
      rcases ih (hroom.step hmem hstep) (hbelow _ hstep) with
        ⟨below, hloaded⟩ | ⟨hstale, importer, reason, hcycle⟩
      · exact absurd (hloaded.symm.trans hfailed) nofun
      · obtain rfl : e = .importing importer reason :=
          Except.error.inj (hfailed.symm.trans hcycle)
        exact .inr ⟨fun hfresh => hstale ((fresh_iff.1 hfresh).2 _ hstep), importer, reason, rfl⟩

/-- Where no path comes back, a load is the recursion that keeps no chain. -/
theorem plain_eq_loadBehind {identities : Finset String} {depth : Nat}
    (hdepth : l.Below identities depth chain source)
    (hroom : l.Below identities room chain source) (hfresh : l.Fresh chain source) :
    l.plain depth (!chain.isEmpty) source =
      ExceptT.mk (some (l.loadBehind room chain source)) := by
  induction room generalizing depth chain source with
  | zero => exact absurd hroom.room_pos (Nat.lt_irrefl 0)
  | succ room ih =>
    obtain ⟨depth, rfl⟩ := Nat.exists_eq_succ_of_ne_zero hdepth.room_pos.ne'
    obtain ⟨hnodup, hbelow⟩ := fresh_iff.1 hfresh
    have hmem : l.nameOf source ∉ chain := fun hmem =>
      (List.nodup_append.1 hnodup).2.2 _ hmem _ (List.mem_singleton_self _) rfl
    rw [plain]
    cases hread : l.read source with
    | error e =>
      rw [loadBehind_of_unreadable hmem hread]
      cases chain <;> rfl
    | ok own =>
      have hall : own.imports.mapM (fun locator => l.plain depth true (source.resolve locator)) =
          ExceptT.mk (some (Id.run (untilError (l.loadImport room chain source) own.imports))) := by
        refine mapM_eq_untilError fun locator hlocator => ?_
        have hstep : l.Imports source (source.resolve locator) :=
          ⟨own, hread, locator, hlocator, rfl⟩
        have hplain := ih (hdepth.step hmem hstep) (hroom.step hmem hstep) (hbelow _ hstep)
        have hlonger : (!(chain ++ [l.nameOf source]).isEmpty) = true := by
          cases chain <;> rfl
        rw [hlonger] at hplain
        exact hplain
      rw [loadBehind_of_readable hmem hread]
      change (own.imports.mapM (fun locator => l.plain depth true (source.resolve locator)) >>=
        fun imported => pure (Document.compose imported own)) = _
      rw [hall]
      cases untilError (l.loadImport room chain source) own.imports <;> rfl

/-- What a load with room for every loadable document comes to. It succeeds exactly if every
document that is met can be read and no import path comes back to an identity on it. Where none
does, it is the recursion that keeps no chain, so that a document which is met on several paths is
loaded on each of them. Where one does although every document can be read, it is refused as an
import. -/
theorem load_ok_iff (l : Loader Id) (source : Source) (room : Nat)
    (hfinite : (l.loadable source).Finite) (hroom : (l.loadable source).ncard < room) :
    ((∃ document, l.load source room = .ok document) ↔
        l.IsComplete source ∧ l.IsAcyclic source) ∧
      (l.IsAcyclic source → ∀ depth, (l.loadable source).ncard < depth →
        l.plain depth false source = ExceptT.mk (some (Id.run (l.load source room)))) ∧
      (l.IsComplete source → ¬ l.IsAcyclic source →
        ∃ locator reason, l.load source room = .error (.importing locator reason)) := by
  have hbelow (n : Nat) (hn : (l.loadable source).ncard < n) :
      l.Below hfinite.toFinset n [] source := by
    refine ⟨List.nodup_nil, nofun, fun target hmeets hread => ?_, ?_⟩
    · exact hfinite.mem_toFinset.2 ⟨target, hmeets, hread, rfl⟩
    · rw [← Set.ncard_eq_toFinset_card _ hfinite]
      exact hn
  refine ⟨⟨?_, ?_⟩, fun hacyclic depth hdepth =>
    plain_eq_loadBehind (hbelow depth hdepth) (hbelow room hroom) hacyclic, ?_⟩
  · rintro ⟨document, hloaded⟩
    exact complete_and_fresh_of_loadBehind_eq_ok List.nodup_nil hloaded
  · rintro ⟨hcomplete, hacyclic⟩
    rcases loadBehind_of_isComplete (hbelow room hroom) hcomplete with hloaded | ⟨hstale, _⟩
    · exact hloaded
    · exact absurd hacyclic hstale
  · intro hcomplete hcyclic
    rcases loadBehind_of_isComplete (hbelow room hroom) hcomplete with
      ⟨document, hloaded⟩ | ⟨_, hfailed⟩
    · exact absurd (complete_and_fresh_of_loadBehind_eq_ok List.nodup_nil hloaded).2 hcyclic
    · exact hfailed

/-- Four documents, one of which is met on two paths. -/
def diamond : Loader Id where
  fetch
    | .file "a" => pure (.ok (Utf8.ofString "import: [b, c]\n"))
    | .file "b" => pure (.ok (Utf8.ofString "import: [d]\n"))
    | .file "c" => pure (.ok (Utf8.ofString "import: [d]\n"))
    | .file "d" => pure (.ok (Utf8.ofString "comment: shared\n"))
    | source => pure (.error (.documentNotFound source.text))
  identity source := pure source.text

/-- Only the four documents of the diamond can be read. -/
theorem loadable_diamond_subset :
    diamond.loadable (.file "a") ⊆ (["a", "b", "c", "d"].toFinset : Set String) := by
  rintro identity ⟨target, -, ⟨document, hread⟩, rfl⟩
  simp only [read, diamond] at hread
  split at hread
  · decide
  · decide
  · decide
  · decide
  · cases hread

/-- The diamond loads, so that nothing on it comes back, and it loads as the recursion that keeps no
chain. -/
theorem load_ok_iff_diamond :
    (diamond.loadable (.file "a")).Finite ∧ (diamond.loadable (.file "a")).ncard < 5 ∧
      diamond.IsComplete (.file "a") ∧ diamond.IsAcyclic (.file "a") ∧
      diamond.plain 5 false (.file "a") =
        ExceptT.mk (some (Id.run (diamond.load (.file "a") 5))) := by
  have hfinite : (diamond.loadable (.file "a")).Finite :=
    Set.Finite.subset (Finset.finite_toSet _) loadable_diamond_subset
  have hroom : (diamond.loadable (.file "a")).ncard < 5 := by
    have hle := Set.ncard_le_ncard loadable_diamond_subset (Finset.finite_toSet _)
    rw [Set.ncard_coe_finset] at hle
    exact Nat.lt_of_le_of_lt hle (by decide)
  obtain ⟨hiff, hplain, -⟩ := load_ok_iff diamond (.file "a") 5 hfinite hroom
  have hok : (Id.run (diamond.load (.file "a") 5)).toBool = true := by decide +kernel
  obtain ⟨hcomplete, hacyclic⟩ :
      diamond.IsComplete (.file "a") ∧ diamond.IsAcyclic (.file "a") := by
    refine hiff.1 ?_
    cases hload : diamond.load (.file "a") 5 with
    | error e =>
      rw [hload] at hok
      cases hok
    | ok document => exact ⟨document, rfl⟩
  exact ⟨hfinite, hroom, hcomplete, hacyclic, hplain hacyclic 5 hroom⟩

end Loader

end Scaffold

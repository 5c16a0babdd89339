import Mathlib.Data.Set.Card
import Scaffold.Proofs.Import.Tree

/-!
# Depth — a load comes to its end

There may be no end of the sources that imports name: a path can grow with every import. But the
chain knows documents by their identity, and every document on it has been loaded and stands there
once; so where only finitely many identities can be loaded, no chain is longer than these are many.
With room for one call more a load comes to its end, whatever cycles there are, and more room
changes nothing (`load_terminates`).
-/

set_option autoImplicit false

namespace Scaffold

namespace Loader

variable {σ : Type} {l : Loader (StateM σ)} {start : σ}

/-- The identities of all documents that can be loaded. -/
def identities (l : Loader (StateM σ)) (start : σ) : Set String :=
  {identity | l.Loads start identity}

/-! ## Chains -/

/-- On the chain no identity stands twice, and each is that of a document that can be loaded. -/
structure IsPath (l : Loader (StateM σ)) (start : σ) (chain : List String) : Prop where
  nodup : chain.Nodup
  loads : ∀ identity ∈ chain, l.Loads start identity

theorem IsPath.nil : IsPath l start [] := ⟨List.nodup_nil, nofun⟩

theorem IsPath.concat {chain : List String} {identity : String} (h : IsPath l start chain)
    (hmem : identity ∉ chain) (hloads : l.Loads start identity) :
    IsPath l start (chain ++ [identity]) where
  nodup := List.concat_eq_append ▸ h.nodup.concat hmem
  loads other hother := by
    rcases List.mem_append.1 hother with hother | hother
    · exact h.loads other hother
    · rw [List.mem_singleton.1 hother]
      exact hloads

theorem IsPath.length_le {chain : List String} (h : IsPath l start chain)
    (hfinite : (l.identities start).Finite) : chain.length ≤ (l.identities start).ncard := by
  have hsubset : (chain.toFinset : Set String) ⊆ l.identities start :=
    fun identity hidentity => h.loads identity (List.mem_toFinset.1 hidentity)
  calc chain.length = chain.toFinset.card := (List.toFinset_card_of_nodup h.nodup).symm
    _ = (chain.toFinset : Set String).ncard := (Set.ncard_coe_finset _).symm
    _ ≤ _ := Set.ncard_le_ncard hsubset hfinite

/-- Every visit of a tree stands behind a path. -/
theorem Grown.isPath {room : Nat} {chain : List String} {tree : ImportTree}
    (h : Grown l start room chain tree) (hchain : IsPath l start chain) :
    ∀ v ∈ tree.visits, IsPath l start v.chain := by
  induction h with
  | noRoom | cycle | unreadable =>
    intro v hv
    rw [List.mem_singleton.1 hv]
    exact hchain
  | read hmem hloads hlength himports ih =>
    intro v hv
    rcases List.mem_cons.1 hv with rfl | hv
    · exact hchain
    · obtain ⟨tree, htree, hv⟩ := ImportTree.mem_allVisits.1 hv
      exact ih tree htree (hchain.concat hmem hloads) v hv

/-- Room runs out where the chain has grown by as much. -/
theorem Grown.length_of_noRoom {room : Nat} {chain : List String} {tree : ImportTree}
    (h : Grown l start room chain tree) :
    ∀ v ∈ tree.visits, v.finding = .noRoom → v.chain.length = chain.length + room := by
  induction h with
  | noRoom =>
    intro v hv _
    rw [List.mem_singleton.1 hv, Nat.add_zero]
  | cycle | unreadable =>
    intro v hv hfinding
    rw [List.mem_singleton.1 hv] at hfinding
    cases hfinding
  | read hmem hloads hlength himports ih =>
    intro v hv hfinding
    rcases List.mem_cons.1 hv with rfl | hv
    · cases hfinding
    · obtain ⟨tree, htree, hv⟩ := ImportTree.mem_allVisits.1 hv
      have hlength := ih tree htree v hv hfinding
      rw [List.length_append, List.length_singleton] at hlength
      omega

/-! ## What was loaded before -/

/-- Every identity on the chain of a visit that is reached either stands on this chain or is that of
a document with imports that was loaded. -/
def Backed (chain : List String) (vs : List Visit) : Prop :=
  ∀ v ∈ reached vs, ∀ identity ∈ v.chain, identity ∈ chain ∨
    ∃ w ∈ reached vs, ∃ document, w.finding = .read identity document ∧ document.imports ≠ []

theorem Backed.append {chain : List String} {vs ws : List Visit} (hvs : Backed chain vs)
    (hws : Backed chain ws) : Backed chain (vs ++ ws) := by
  intro v hv identity hidentity
  rw [reached_append] at hv ⊢
  rcases List.mem_append.1 hv with hv | hv
  · refine (hvs v hv identity hidentity).imp_right ?_
    rintro ⟨w, hw, hread⟩
    exact ⟨w, List.mem_append_left _ hw, hread⟩
  · split at hv
    · cases hv
    next hany =>
      refine (hws v hv identity hidentity).imp_right ?_
      rintro ⟨w, hw, hread⟩
      rw [if_neg hany]
      exact ⟨w, List.mem_append_right _ hw, hread⟩

theorem backed_allVisits {chain : List String} {trees : List ImportTree}
    (h : ∀ tree ∈ trees, Backed chain tree.visits) : Backed chain (ImportTree.allVisits trees) := by
  induction trees with
  | nil => exact nofun
  | cons tree trees ih =>
    exact (h tree List.mem_cons_self).append
      (ih fun other hother => h other (List.mem_cons_of_mem _ hother))

theorem backed_singleton (v : Visit) : Backed v.chain [v] := by
  intro w hw identity hidentity
  rw [List.mem_singleton.1 (mem_of_mem_reached hw)] at hidentity
  exact .inl hidentity

theorem Grown.backed {room : Nat} {chain : List String} {tree : ImportTree}
    (h : Grown l start room chain tree) : Backed chain tree.visits := by
  induction h with
  | noRoom | cycle | unreadable => exact backed_singleton _
  | @read room chain source identity document imports hmem hloads hlength himports ih =>
    intro v hv other hother
    rcases List.mem_cons.1 hv with rfl | hv
    · exact .inl hother
    rcases backed_allVisits ih v hv other hother with hother | ⟨w, hw, hread⟩
    · rcases List.mem_append.1 hother with hother | hother
      · exact .inl hother
      -- the document itself, which has an import: the one that is visited
      · have himport : document.imports ≠ [] := by
          intro hnil
          rw [hnil, List.length_nil, List.length_eq_zero_iff] at hlength
          rw [hlength] at hv
          cases hv
        rw [List.mem_singleton.1 hother]
        exact .inr ⟨_, List.mem_cons_self, document, rfl, himport⟩
    · exact .inr ⟨w, List.mem_cons_of_mem _ hw, hread⟩

/-! ## More room -/

/-- Actions that do the same in every state that is come to do the same in a row. -/
theorem mapM_run_congr {α β : Type} {f g : α → StateM σ β}
    (hsame : ∀ a s, l.Reaches start s → (f a).run s = (g a).run s)
    (hreaches : ∀ a s, l.Reaches start s → l.Reaches start ((g a).run s).2) (as : List α) {s : σ}
    (hs : l.Reaches start s) : (as.mapM f).run s = (as.mapM g).run s := by
  induction as generalizing s with
  | nil => rfl
  | cons a as ih =>
    rw [List.mapM_cons, List.mapM_cons, StateT.run_bind, StateT.run_bind, hsame a s hs]
    change ((as.mapM f >>= _ : StateM σ _)).run _ = ((as.mapM g >>= _ : StateM σ _)).run _
    rw [StateT.run_bind, StateT.run_bind, ih (hreaches a s hs)]

/-- Where there is room for all documents that can be loaded, more room changes nothing. -/
theorem importTree_succ_room (hfinite : (l.identities start).Finite) (room : Nat)
    {chain : List String} (source : Source) {s : σ} (hchain : IsPath l start chain)
    (hs : l.Reaches start s) (hroom : (l.identities start).ncard < chain.length + room) :
    (l.importTree (room + 1) chain source).run s = (l.importTree room chain source).run s := by
  induction room generalizing chain source s with
  | zero => exact absurd (hchain.length_le hfinite) (Nat.not_le.2 hroom)
  | succ room ih =>
    rcases hidentity : (l.identity source).run s with ⟨identity, t⟩
    have ht : l.Reaches start t := hs.act (.identity source) (congrArg Prod.snd hidentity)
    by_cases hmem : identity ∈ chain
    · rw [importTree_of_mem hidentity hmem, importTree_of_mem hidentity hmem]
    rcases hread : (l.read source).run t with ⟨r, u⟩
    have hu : l.Reaches start u := ht.act (.fetch source) (congrArg Prod.snd hread)
    cases r with
    | error e =>
      rw [importTree_of_unreadable hidentity hmem hread,
        importTree_of_unreadable hidentity hmem hread]
    | ok document =>
      have hlonger : IsPath l start (chain ++ [identity]) :=
        hchain.concat hmem ⟨s, t, hs, source, document, hidentity, congrArg Prod.fst hread⟩
      have hmore : (l.identities start).ncard < (chain ++ [identity]).length + room := by
        rw [List.length_append, List.length_singleton]
        omega
      have himports : (l.importTrees (room + 1) chain source identity document).run u =
          (l.importTrees room chain source identity document).run u :=
        mapM_run_congr (fun locator s hs => ih (source.resolve locator) hlonger hs hmore)
          (fun locator s hs => (grown_importTree room _ (source.resolve locator) hs).2)
          document.imports hu
      rw [importTree_of_readable hidentity hmem hread, importTree_of_readable hidentity hmem hread,
        himports]

theorem tree_of_room (hfinite : (l.identities start).Finite) (source : Source) {room : Nat}
    (hroom : (l.identities start).ncard < room) :
    l.tree room source start = l.tree ((l.identities start).ncard + 1) source start := by
  induction room, hroom using Nat.le_induction with
  | base => rfl
  | succ room hroom ih =>
    rw [← ih]
    refine congrArg Prod.fst (importTree_succ_room hfinite room source .nil .refl ?_)
    rw [List.length_nil, Nat.zero_add]
    exact hroom

/-- Loads along the same tree do the same, come to the same, and leave the same behind. -/
theorem run_load_congr {room room' : Nat} {source : Source} {s : σ}
    (h : l.tree room source s = l.tree room' source s) :
    l.acts room source s = l.acts room' source s ∧
      (l.load source room).run s = (l.load source room').run s := by
  have hacts : l.acts room source s = l.acts room' source s := by rw [acts_eq, acts_eq, h]
  have hafter (room : Nat) : ((l.load source room).run s).2 =
      (l.acts room source s).foldl (fun s a => (l.answer a s).2) s := by
    rw [run_load]
    exact Dialogue.run_snd _ s
  refine ⟨hacts, Prod.ext ?_ ?_⟩
  · cases hfind : (l.tree room source s).visits.find? Visit.failed with
    | none =>
      have hfind' := hfind
      rw [h] at hfind'
      rw [l.load_succeeded hfind, l.load_succeeded hfind', h]
    | some v =>
      have hfind' := hfind
      rw [h] at hfind'
      obtain ⟨e, herror, hreports⟩ := l.load_failed hfind
      obtain ⟨e', herror', hreports'⟩ := l.load_failed hfind'
      rw [herror, herror', hreports.unique hreports']
  · rw [hafter, hafter, hacts]

/-! ## Whole loads -/

/-- Where only finitely many identities can be loaded, a load comes to its end, whether or not
documents import each other in a circle, and however many sources they name. Whatever it turns to,
no identity stands twice on the chain, and each is that of a document that was loaded and has
imports; so calls are nested at most one deeper than identities can be loaded. With as much room no
call is cut off, and more room changes nothing. -/
theorem load_terminates (l : Loader (StateM σ)) (source : Source) (s : σ)
    (hfinite : (l.identities s).Finite) :
    (∀ room chain target, Act.call chain target ∈ l.acts room source s →
      chain.Nodup ∧
      (∀ identity ∈ chain, l.Loads s identity ∧
        ∃ v ∈ reached (l.tree room source s).visits, ∃ document,
          v.finding = .read identity document ∧ document.imports ≠ []) ∧
      chain.length + 1 ≤ (l.identities s).ncard + 1) ∧
    ∀ room, (l.identities s).ncard < room →
      (∀ v ∈ (l.tree room source s).visits, v.finding ≠ .noRoom) ∧
      l.acts room source s = l.acts ((l.identities s).ncard + 1) source s ∧
      (l.load source room).run s = (l.load source ((l.identities s).ncard + 1)).run s := by
  have hgrown (room : Nat) : Grown l s room [] (l.tree room source s) :=
    (grown_importTree room [] source .refl).1
  refine ⟨fun room chain target hcall => ?_, fun room hroom => ?_⟩
  · rw [acts_eq] at hcall
    obtain ⟨v, hv, hact⟩ := List.mem_flatMap.1 hcall
    obtain rfl : chain = v.chain := Visit.chain_eq_of_call_mem hact
    have hpath := (hgrown room).isPath .nil v (mem_of_mem_reached hv)
    refine ⟨hpath.nodup, fun identity hidentity => ⟨hpath.loads identity hidentity, ?_⟩,
      Nat.succ_le_succ (hpath.length_le hfinite)⟩
    exact ((hgrown room).backed v hv identity hidentity).resolve_left nofun
  · refine ⟨fun v hv hfinding => ?_, run_load_congr (tree_of_room hfinite source hroom)⟩
    have hlength := (hgrown room).length_of_noRoom v hv hfinding
    have hle := ((hgrown room).isPath .nil v hv).length_le hfinite
    rw [List.length_nil, Nat.zero_add] at hlength
    omega

/-- Every source can be loaded and names another one, but there are only two documents. -/
def echo : Loader (StateM Unit) where
  fetch _ := pure (.ok (Utf8.ofString "import: [dd/a]\n"))
  identity source := pure (if source.text.length % 2 = 0 then "even" else "odd")

theorem identities_echo_subset :
    echo.identities () ⊆ (["even", "odd"].toFinset : Set String) := by
  rintro identity ⟨_, _, -, source, -, hidentity, -⟩
  obtain rfl : (if source.text.length % 2 = 0 then "even" else "odd") = identity :=
    congrArg Prod.fst hidentity
  split <;> decide

/-- Of the sources that name each other without end, a load turns to three. -/
theorem load_terminates_echo :
    (echo.identities ()).Finite ∧
      (∀ chain target, Act.call chain target ∈ echo.acts 9 (.file "a") () → chain.Nodup) ∧
      Act.call ["odd", "even"] (.file "dd/dd/a") ∈ echo.acts 9 (.file "a") () ∧
      ∀ v ∈ (echo.tree 9 (.file "a") ()).visits, v.finding ≠ .noRoom := by
  have hfinite : (echo.identities ()).Finite :=
    Set.Finite.subset (Finset.finite_toSet _) identities_echo_subset
  have hroom : (echo.identities ()).ncard < 9 := by
    have hle := Set.ncard_le_ncard identities_echo_subset (Finset.finite_toSet _)
    rw [Set.ncard_coe_finset] at hle
    exact Nat.lt_of_le_of_lt hle (by decide)
  obtain ⟨hcalls, hends⟩ := load_terminates echo (.file "a") () hfinite
  exact ⟨hfinite, fun chain target hcall => (hcalls 9 chain target hcall).1, by decide +kernel,
    (hends 9 hroom).1⟩

end Loader

end Scaffold

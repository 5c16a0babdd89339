import Mathlib.Logic.Relation
import Scaffold.Proofs.Import.Acts

/-!
# Tree — the documents that a load visits

The documents that imports lead to form a tree, in which a document stands once for every path of
imports to it. A load visits that tree from the top, every document before its imports and the
imports in their order, as far as the first document that cannot be loaded, and there it ends
(`load_visits`). Only the document on top fails in its own words; what fails below it is the error
of an import.
-/

set_option autoImplicit false

namespace Scaffold

namespace Loader

/-! ## Visits -/

/-- What a load finds where it looks for a document. -/
inductive Finding
  /-- There is no room left to look. -/
  | noRoom
  /-- The document is on the chain already. -/
  | cycle (identity : String)
  | unreadable (e : Error)
  | read (identity : String) (document : Document)

/-- A document that a load turns to: the chain behind which it does, the source, and what it finds
there. -/
structure Visit where
  chain : List String
  source : Source
  finding : Finding

namespace Visit

/-- There is no document to go on with. -/
def failed (v : Visit) : Bool :=
  match v.finding with
  | .read .. => false
  | _ => true

/-- The content is fetched, unless the document is on the chain. -/
def fetches (v : Visit) : Bool :=
  match v.finding with
  | .noRoom | .cycle _ => false
  | .unreadable _ | .read .. => true

/-- What is done for a visit. -/
def acts (v : Visit) : List Act :=
  match v.finding with
  | .noRoom => [.call v.chain v.source]
  | .cycle _ => [.call v.chain v.source, .identity v.source]
  | .unreadable _ | .read .. => [.call v.chain v.source, .identity v.source, .fetch v.source]

/-- A visit is what is turned to. -/
theorem chain_eq_of_call_mem {v : Visit} {chain : List String} {source : Source}
    (h : Act.call chain source ∈ v.acts) : chain = v.chain := by
  obtain ⟨chain', source', finding⟩ := v
  cases finding <;> simp_all [acts]

/-- How a failed visit is reported. -/
inductive Reports : Visit → Error → Prop
  | noRoom {chain : List String} {source : Source} : Reports ⟨chain, source, .noRoom⟩ .aborted
  | cycle {chain : List String} {source : Source} {identity : String} :
    Reports ⟨chain, source, .cycle identity⟩
      (.importing source.text
        ("import cycle: " ++ " -> ".intercalate chain ++ " -> " ++ identity))
  /-- The error of the document on top is reported as it is. -/
  | top {source : Source} {e : Error} : Reports ⟨[], source, .unreadable e⟩ e
  /-- The error of an import that says so itself is reported as it is. -/
  | importing {chain : List String} {source : Source} {locator reason : String}
    (h : chain ≠ []) :
    Reports ⟨chain, source, .unreadable (.importing locator reason)⟩ (.importing locator reason)
  /-- An abnormal stop has no wording. -/
  | aborted {chain : List String} {source : Source} (h : chain ≠ []) :
    Reports ⟨chain, source, .unreadable .aborted⟩ .aborted
  /-- Any other error of an import is worded as that of its source. -/
  | wrapped {chain : List String} {source : Source} {e : Error} (h : chain ≠ [])
    (himporting : ∀ locator reason, e ≠ .importing locator reason) (haborted : e ≠ .aborted) :
    Reports ⟨chain, source, .unreadable e⟩ (.importing source.text e.message)

/-- A visit is reported in one way only. -/
theorem Reports.unique {v : Visit} {e e' : Error} (h : v.Reports e) (h' : v.Reports e') :
    e = e' := by
  cases h with
  | noRoom | cycle =>
    cases h'
    rfl
  | top =>
    cases h' with
    | top => rfl
    | importing h | aborted h | wrapped h => exact absurd rfl h
  | importing h =>
    cases h' with
    | top => exact absurd rfl h
    | importing => rfl
    | wrapped _ himporting => exact absurd rfl (himporting _ _)
  | aborted h =>
    cases h' with
    | top => exact absurd rfl h
    | aborted => rfl
    | wrapped _ _ haborted => exact absurd rfl haborted
  | wrapped h himporting haborted =>
    cases h' with
    | top => exact absurd rfl h
    | importing => exact absurd rfl (himporting _ _)
    | aborted => exact absurd rfl haborted
    | wrapped => rfl

theorem reports_unreadable (chain : List String) (source : Source) (e : Error) :
    Reports ⟨chain, source, .unreadable e⟩ (if chain.isEmpty then e else importError source e) := by
  cases chain with
  | nil => exact .top
  | cons identity chain =>
    have hne : identity :: chain ≠ [] := List.cons_ne_nil identity chain
    cases e with
    | importing locator reason => exact .importing hne
    | aborted => exact .aborted hne
    | _ => exact .wrapped hne nofun nofun

end Visit

/-- The visits as far as the first that fails. -/
def reached : List Visit → List Visit
  | [] => []
  | v :: vs => if v.failed then [v] else v :: reached vs

theorem mem_of_mem_reached {v : Visit} {vs : List Visit} (h : v ∈ reached vs) : v ∈ vs := by
  induction vs with
  | nil => exact h
  | cons w vs ih =>
    rw [reached] at h
    split at h
    · rw [List.mem_singleton.1 h]
      exact List.mem_cons_self
    · rcases List.mem_cons.1 h with rfl | h
      · exact List.mem_cons_self
      · exact List.mem_cons_of_mem _ (ih h)

theorem reached_append (vs ws : List Visit) :
    reached (vs ++ ws) = reached vs ++ if vs.any Visit.failed then [] else reached ws := by
  induction vs with
  | nil => rfl
  | cons v vs ih =>
    cases hv : v.failed with
    | true => simp [reached, hv]
    | false => simp [reached, hv, ih]

/-! ## The tree of imports -/

/-- A visit and, below it, the trees of the imports. -/
inductive ImportTree
  | node (visit : Visit) (imports : List ImportTree)

namespace ImportTree

mutual

/-- The visits of a tree, each before those of its imports. -/
def visits : ImportTree → List Visit
  | node visit imports => visit :: allVisits imports

/-- The visits of trees, one tree after the other. -/
def allVisits : List ImportTree → List Visit
  | [] => []
  | tree :: trees => tree.visits ++ allVisits trees

end

mutual

/-- The document that a tree without failures is composed to. -/
def document : ImportTree → Document
  | node ⟨_, _, .read _ own⟩ imports => Document.compose (documents imports) own
  | node _ _ => {}

/-- The documents that trees are composed to. -/
def documents : List ImportTree → List Document
  | [] => []
  | tree :: trees => tree.document :: documents trees

end

theorem mem_allVisits {v : Visit} {trees : List ImportTree} :
    v ∈ allVisits trees ↔ ∃ tree ∈ trees, v ∈ tree.visits := by
  induction trees with
  | nil => simp [allVisits]
  | cons tree trees ih => simp [allVisits, ih]

end ImportTree

/-- The tree of the imports of a document, each looked for where the document that names it says, as
if no failure ended anything. The chain of a visit is made of the identities on the path to it. -/
def importTree {m : Type → Type} [Monad m] (l : Loader m) :
    Nat → List String → Source → m ImportTree
  | 0, chain, source => return .node ⟨chain, source, .noRoom⟩ []
  | room + 1, chain, source => do
    let identity ← l.identity source
    if identity ∈ chain then return .node ⟨chain, source, .cycle identity⟩ []
    else
      match ← l.read source with
      | .error e => return .node ⟨chain, source, .unreadable e⟩ []
      | .ok document =>
        let below (locator : String) : m ImportTree :=
          importTree l room (chain ++ [identity]) (source.resolve locator)
        return .node ⟨chain, source, .read identity document⟩ (← document.imports.mapM below)

section Unfolding

variable {σ : Type} {l : Loader (StateM σ)} {room : Nat} {chain : List String} {source : Source}
  {s t u : σ} {identity : String}

theorem importTree_of_mem (hidentity : (l.identity source).run s = (identity, t))
    (hmem : identity ∈ chain) :
    (l.importTree (room + 1) chain source).run s =
      (.node ⟨chain, source, .cycle identity⟩ [], t) := by
  rw [importTree, StateT.run_bind, hidentity]
  change StateT.run (ite _ _ _) t = _
  rw [if_pos hmem]
  rfl

theorem importTree_of_unreadable (hidentity : (l.identity source).run s = (identity, t))
    (hmem : identity ∉ chain) {e : Error} (hread : (l.read source).run t = (.error e, u)) :
    (l.importTree (room + 1) chain source).run s =
      (.node ⟨chain, source, .unreadable e⟩ [], u) := by
  rw [importTree, StateT.run_bind, hidentity]
  change StateT.run (ite _ _ _) t = _
  rw [if_neg hmem, StateT.run_bind, hread]
  rfl

variable (l room chain source identity) in
/-- The trees of the imports of a document that has been read. -/
def importTrees (document : Document) : StateM σ (List ImportTree) :=
  document.imports.mapM fun locator =>
    l.importTree room (chain ++ [identity]) (source.resolve locator)

theorem importTree_of_readable (hidentity : (l.identity source).run s = (identity, t))
    (hmem : identity ∉ chain) {document : Document}
    (hread : (l.read source).run t = (.ok document, u)) :
    (l.importTree (room + 1) chain source).run s =
      (.node ⟨chain, source, .read identity document⟩
          ((l.importTrees room chain source identity document).run u).1,
        ((l.importTrees room chain source identity document).run u).2) := by
  rw [importTree, StateT.run_bind, hidentity]
  change StateT.run (ite _ _ _) t = _
  rw [if_neg hmem, StateT.run_bind, hread]
  rfl

theorem run_read (source : Source) (t : σ) :
    (l.read source).run t =
      (((l.fetch source).run t).1 >>= Document.ofBytes, ((l.fetch source).run t).2) := rfl

end Unfolding

/-! ## What stands in the tree -/

section Growth

variable {σ : Type} (l : Loader (StateM σ))

/-- What a loader comes to by acting. -/
def Reaches : σ → σ → Prop :=
  Relation.ReflTransGen fun s t => ∃ a : Act, t = (l.answer a s).2

/-- A document of this identity can be loaded, in this state or one that the loader comes to. -/
def Loads (start : σ) (identity : String) : Prop :=
  ∃ s t, l.Reaches start s ∧ ∃ source document,
    (l.identity source).run s = (identity, t) ∧ ((l.read source).run t).1 = .ok document

/-- Which visits stand in a tree with this much room, where the chain is this one on top. -/
inductive Grown (start : σ) : Nat → List String → ImportTree → Prop
  | noRoom {chain : List String} {source : Source} :
    Grown start 0 chain (.node ⟨chain, source, .noRoom⟩ [])
  | cycle {room : Nat} {chain : List String} {source : Source} {identity : String}
    (hmem : identity ∈ chain) :
    Grown start (room + 1) chain (.node ⟨chain, source, .cycle identity⟩ [])
  | unreadable {room : Nat} {chain : List String} {source : Source} {e : Error} :
    Grown start (room + 1) chain (.node ⟨chain, source, .unreadable e⟩ [])
  | read {room : Nat} {chain : List String} {source : Source} {identity : String}
    {document : Document} {imports : List ImportTree} (hmem : identity ∉ chain)
    (hloads : l.Loads start identity) (hlength : imports.length = document.imports.length)
    (himports : ∀ tree ∈ imports, Grown start room (chain ++ [identity]) tree) :
    Grown start (room + 1) chain (.node ⟨chain, source, .read identity document⟩ imports)

variable {l} {start : σ}

theorem Reaches.act {s t : σ} (h : l.Reaches start s) (a : Act) (ht : (l.answer a s).2 = t) :
    l.Reaches start t :=
  Relation.ReflTransGen.tail h ⟨a, ht.symm⟩

/-- What one element is made to in every state, a row of them is made to in turn. -/
theorem mapM_reaches {α β : Type} {f : α → StateM σ β} {P : β → Prop}
    (h : ∀ a s, l.Reaches start s → P ((f a).run s).1 ∧ l.Reaches start ((f a).run s).2)
    (as : List α) {s : σ} (hs : l.Reaches start s) :
    (((as.mapM f).run s).1.length = as.length ∧ ∀ b ∈ ((as.mapM f).run s).1, P b) ∧
      l.Reaches start ((as.mapM f).run s).2 := by
  induction as generalizing s with
  | nil => exact ⟨⟨rfl, nofun⟩, hs⟩
  | cons a as ih =>
    obtain ⟨hp, ht⟩ := h a s hs
    obtain ⟨⟨hlength, hall⟩, hu⟩ := ih ht
    rw [List.mapM_cons]
    refine ⟨⟨congrArg Nat.succ hlength, fun b hb => ?_⟩, hu⟩
    rcases List.mem_cons.1 hb with rfl | hb
    · exact hp
    · exact hall b hb

theorem grown_importTree (room : Nat) (chain : List String) (source : Source) {s : σ}
    (hs : l.Reaches start s) :
    Grown l start room chain ((l.importTree room chain source).run s).1 ∧
      l.Reaches start ((l.importTree room chain source).run s).2 := by
  induction room generalizing chain source s with
  | zero => exact ⟨.noRoom, hs⟩
  | succ room ih =>
    rcases hidentity : (l.identity source).run s with ⟨identity, t⟩
    have ht : l.Reaches start t := hs.act (.identity source) (congrArg Prod.snd hidentity)
    by_cases hmem : identity ∈ chain
    · rw [importTree_of_mem hidentity hmem]
      exact ⟨.cycle hmem, ht⟩
    rcases hread : (l.read source).run t with ⟨r, u⟩
    have hu : l.Reaches start u := ht.act (.fetch source) (congrArg Prod.snd hread)
    cases r with
    | error e =>
      rw [importTree_of_unreadable hidentity hmem hread]
      exact ⟨.unreadable, hu⟩
    | ok document =>
      have hloads : l.Loads start identity :=
        ⟨s, t, hs, source, document, hidentity, congrArg Prod.fst hread⟩
      obtain ⟨⟨hlength, himports⟩, hend⟩ := mapM_reaches
        (fun locator s hs => ih (chain ++ [identity]) (source.resolve locator) hs)
        document.imports hu
      rw [importTree_of_readable hidentity hmem hread]
      exact ⟨.read hmem hloads hlength himports, hend⟩

/-- Every visit stands behind the chain on top. -/
theorem Grown.isPrefix {room : Nat} {chain : List String} {tree : ImportTree}
    (h : Grown l start room chain tree) : ∀ v ∈ tree.visits, chain <+: v.chain := by
  induction h with
  | noRoom | cycle | unreadable =>
    intro v hv
    obtain rfl := List.mem_singleton.1 hv
    exact List.prefix_rfl
  | read hmem hloads hlength himports ih =>
    intro v hv
    rcases List.mem_cons.1 hv with rfl | hv
    · exact List.prefix_rfl
    · obtain ⟨tree, htree, hv⟩ := ImportTree.mem_allVisits.1 hv
      exact (List.prefix_append _ _).trans (ih tree htree v hv)

/-- Only the document on top is looked for behind the chain on top. -/
theorem Grown.chain_ne_nil {room : Nat} {chain : List String} {tree : ImportTree}
    (h : Grown l start room chain tree) : ∀ v ∈ tree.visits.tail, v.chain ≠ [] := by
  cases h with
  | noRoom | cycle | unreadable => exact fun v hv => absurd hv List.not_mem_nil
  | read hmem hloads hlength himports =>
    intro v hv hnil
    obtain ⟨tree, htree, hv⟩ := ImportTree.mem_allVisits.1 hv
    have hprefix := (himports tree htree).isPrefix v hv
    rw [hnil, List.prefix_nil] at hprefix
    exact List.append_ne_nil_of_right_ne_nil _ (List.cons_ne_nil _ _) hprefix

end Growth

/-! ## Loads along the tree -/

section Loads

variable {σ : Type} {l : Loader (StateM σ)}

/-- A dialogue of a load goes along visits: it does what is done for them as far as the first that
fails, whose error it ends in; where none fails, it ends in the value, behind the given chain. -/
structure Follows {α : Type} (l : Loader (StateM σ)) (visits : List Visit) (value : α)
    (chain : List String) (after : σ)
    (d : Dialogue Act Act.Answer (Except Error α × List String)) (s : σ) : Prop where
  asked_eq : d.asked l.answer s = (reached visits).flatMap Visit.acts
  failed : ∀ v, visits.find? Visit.failed = some v →
    ∃ e, (d.run l.answer s).1.1 = .error e ∧ v.Reports e
  succeeded : visits.find? Visit.failed = none → d.run l.answer s = ((.ok value, chain), after)

namespace Follows

variable {α β : Type} {visits visits' : List Visit} {a : α} {b : β} {chain chain' : List String}
  {s s' s'' : σ} {d : Dialogue Act Act.Answer (Except Error α × List String)}

theorem done : Follows l [] a chain s (.done (.ok a, chain)) s :=
  ⟨rfl, nofun, fun _ => rfl⟩

/-- What goes on with a value goes along the visits behind, unless one before has failed. -/
theorem bind (h : Follows l visits a chain s' d s)
    {next : Except Error α × List String →
      Dialogue Act Act.Answer (Except Error β × List String)}
    (hfailed : ∀ e left, ∃ left', next (.error e, left) = .done (.error e, left'))
    (hnext : Follows l visits' b chain' s'' (next (.ok a, chain)) s') :
    Follows l (visits ++ visits') b chain' s'' (d.bind next) s := by
  have hrun := Dialogue.run_bind l.answer d next s
  cases hfind : visits.find? Visit.failed with
  | some v =>
    -- the error is handed on, and nothing that is behind it is done
    obtain ⟨e, herror, hreports⟩ := h.failed v hfind
    obtain ⟨left, hstop⟩ := hfailed e (d.run l.answer s).1.2
    have hd : (d.run l.answer s).1 = (.error e, (d.run l.answer s).1.2) := Prod.ext herror rfl
    have hany : visits.any Visit.failed = true :=
      List.any_eq_true.2 ⟨v, List.mem_of_find?_eq_some hfind, List.find?_some hfind⟩
    rw [hd, hstop] at hrun
    refine ⟨?_, ?_, ?_⟩
    · rw [Dialogue.asked_bind, h.asked_eq, hd, hstop, reached_append, if_pos hany, List.append_nil]
      exact List.append_nil _
    · intro w hw
      rw [List.find?_append, hfind] at hw
      obtain rfl : v = w := Option.some.inj hw
      exact ⟨e, congrArg (·.1.1) hrun, hreports⟩
    · intro hnone
      rw [List.find?_append, hfind] at hnone
      cases hnone
  | none =>
    have hany : visits.any Visit.failed = false :=
      List.any_eq_false.2 (List.find?_eq_none.1 hfind)
    rw [h.succeeded hfind] at hrun
    have hbehind : (visits ++ visits').find? Visit.failed = visits'.find? Visit.failed := by
      rw [List.find?_append, hfind]
      rfl
    refine ⟨?_, ?_, ?_⟩
    · rw [Dialogue.asked_bind, h.asked_eq, h.succeeded hfind, hnext.asked_eq, reached_append, hany,
        ← List.flatMap_append]
      rfl
    · intro w hw
      rw [hrun]
      exact hnext.failed w (hbehind ▸ hw)
    · intro hnone
      rw [hrun]
      exact hnext.succeeded (hbehind ▸ hnone)

/-- A value is turned into another one, and nothing else is done. -/
theorem bind_done (h : Follows l visits a chain s' d s)
    {next : Except Error α × List String →
      Dialogue Act Act.Answer (Except Error β × List String)}
    (hfailed : ∀ e left, ∃ left', next (.error e, left) = .done (.error e, left'))
    (hnext : next (.ok a, chain) = .done (.ok b, chain')) :
    Follows l visits b chain' s' (d.bind next) s := by
  rw [← List.append_nil visits]
  exact h.bind hfailed (hnext ▸ done)

/-- A dialogue that does what is done for a failed visit and ends in its error. -/
theorem of_failed {v : Visit} {e : Error} (hfailed : v.failed = true)
    (hasked : d.asked l.answer s = v.acts) (hrun : (d.run l.answer s).1.1 = .error e)
    (hreports : v.Reports e) : Follows l [v] a chain s' d s := by
  have hfind : [v].find? Visit.failed = some v := List.find?_cons_of_pos hfailed
  refine ⟨?_, ?_, ?_⟩
  · rw [hasked, reached, if_pos hfailed]
    exact (List.flatMap_singleton ..).symm
  · intro w hw
    obtain rfl : v = w := Option.some.inj (hfind.symm.trans hw)
    exact ⟨e, hrun, hreports⟩
  · intro hnone
    rw [hfind] at hnone
    cases hnone

/-- A dialogue that does what is done for a visit and then goes along the visits behind it. -/
theorem of_not_failed {v : Visit} {d' : Dialogue Act Act.Answer (Except Error α × List String)}
    {t : σ} (h : Follows l visits a chain s' d' t) (hfailed : v.failed = false)
    (hasked : d.asked l.answer s = v.acts ++ d'.asked l.answer t)
    (hrun : d.run l.answer s = d'.run l.answer t) :
    Follows l (v :: visits) a chain s' d s := by
  have hnot : ¬ v.failed = true := by
    rw [hfailed]
    exact Bool.false_ne_true
  have hfind : (v :: visits).find? Visit.failed = visits.find? Visit.failed :=
    List.find?_cons_of_neg hnot
  refine ⟨?_, ?_, ?_⟩
  · rw [hasked, h.asked_eq, reached, if_neg hnot, List.flatMap_cons]
  · intro w hw
    rw [hrun]
    exact h.failed w (hfind ▸ hw)
  · intro hnone
    rw [hrun]
    exact h.succeeded (hfind ▸ hnone)

/-- Acting on elements in order goes along their trees in order. -/
theorem untilError {γ : Type} {unfold : γ → StateM σ ImportTree}
    {f : γ → StateT (List String) (Dialogue Act Act.Answer) (Except Error Document)}
    (h : ∀ c s, Follows l ((unfold c).run s).1.visits ((unfold c).run s).1.document chain
      ((unfold c).run s).2 ((f c).run chain) s) (cs : List γ) (s : σ) :
    Follows l (ImportTree.allVisits ((cs.mapM unfold).run s).1)
      (ImportTree.documents ((cs.mapM unfold).run s).1) chain ((cs.mapM unfold).run s).2
      ((Loader.untilError f cs).run chain) s := by
  induction cs generalizing s with
  | nil => exact done
  | cons c cs ih =>
    rw [List.mapM_cons]
    refine (h c s).bind (fun e left => ⟨left, rfl⟩) ?_
    exact (ih _).bind_done (fun e left => ⟨left, rfl⟩) rfl

end Follows

/-- A load goes along the visits of its tree. -/
theorem follows_enact (room : Nat) (chain : List String) (source : Source) (s : σ) :
    Follows l ((l.importTree room chain source).run s).1.visits
      ((l.importTree room chain source).run s).1.document chain
      ((l.importTree room chain source).run s).2 ((enact room source).run chain) s := by
  induction room generalizing chain source s with
  | zero => exact .of_failed rfl rfl rfl .noRoom
  | succ room ih =>
    rw [run_enact_succ]
    rcases hidentity : (l.identity source).run s with ⟨identity, t⟩
    have hcall : l.answer (.call chain source) s = ((), s) := rfl
    have hasked : l.answer (.identity source) s = (identity, t) := hidentity
    by_cases hmem : identity ∈ chain
    · rw [importTree_of_mem hidentity hmem]
      refine .of_failed rfl ?_ ?_ .cycle
      · simp only [Dialogue.asked, hcall, hasked, if_pos hmem]
        rfl
      · simp only [Dialogue.run, hcall, hasked, if_pos hmem]
        rfl
    rcases hfetch : (l.fetch source).run t with ⟨content, u⟩
    have hfetched : l.answer (.fetch source) t = (content, u) := hfetch
    have hrun : (l.read source).run t = (content >>= Document.ofBytes, u) := by
      rw [run_read, hfetch]
    cases hread : content >>= Document.ofBytes with
    | error e =>
      rw [hread] at hrun
      rw [importTree_of_unreadable hidentity hmem hrun]
      refine .of_failed rfl ?_ ?_ (Visit.reports_unreadable chain source e)
      · simp only [Dialogue.asked, hcall, hasked, if_neg hmem, hfetched, hread]
        rfl
      · simp only [Dialogue.run, hcall, hasked, if_neg hmem, hfetched, hread]
    | ok document =>
      rw [hread] at hrun
      rw [importTree_of_readable hidentity hmem hrun]
      have himports := Follows.untilError (ih (chain ++ [identity]) <| source.resolve ·)
        document.imports u
      have hstop (e : Error) (left : List String) :
          ∃ left', (Dialogue.done ∘ composed document) (.error e, left) =
            (.done (.error e, left') : Dialogue Act Act.Answer _) := ⟨left, rfl⟩
      have hcompose (imported : List Document) :
          (Dialogue.done ∘ composed document) (.ok imported, chain ++ [identity]) =
            (.done (.ok (Document.compose imported document), chain) :
              Dialogue Act Act.Answer _) := by
        rw [Function.comp_apply, composed, List.dropLast_concat]
      refine .of_not_failed (himports.bind_done hstop (hcompose _)) rfl ?_ ?_
      · simp only [Dialogue.asked, hcall, hasked, if_neg hmem, hfetched, hread]
        rfl
      · simp only [Dialogue.run, hcall, hasked, if_neg hmem, hfetched, hread]

variable (l)

/-- The tree of everything that a load comes to, if nothing fails. -/
def tree (room : Nat) (source : Source) (s : σ) : ImportTree :=
  ((l.importTree room [] source).run s).1

theorem acts_eq (room : Nat) (source : Source) (s : σ) :
    l.acts room source s = (reached (l.tree room source s).visits).flatMap Visit.acts :=
  (follows_enact room [] source s).asked_eq

theorem load_failed {room : Nat} {source : Source} {s : σ} {v : Visit}
    (hv : (l.tree room source s).visits.find? Visit.failed = some v) :
    ∃ e, ((l.load source room).run s).1 = .error e ∧ v.Reports e := by
  rw [run_load]
  exact (follows_enact room [] source s).failed v hv

theorem load_succeeded {room : Nat} {source : Source} {s : σ}
    (hnone : (l.tree room source s).visits.find? Visit.failed = none) :
    ((l.load source room).run s).1 = .ok (l.tree room source s).document := by
  rw [run_load]
  exact congrArg (·.1.1) ((follows_enact room [] source s).succeeded hnone)

/-- The sources that acts fetch are those of the visits that fetch. -/
theorem filterMap_fetched?_acts (vs : List Visit) :
    (vs.flatMap Visit.acts).filterMap Act.fetched? = (vs.filter Visit.fetches).map (·.source) := by
  induction vs with
  | nil => rfl
  | cons v vs ih =>
    obtain ⟨chain, source, finding⟩ := v
    rw [List.flatMap_cons, List.filterMap_append, ih]
    cases finding <;> rfl

/-- What a load does and what it comes to, whatever the loader is. Its acts are those of the visits
of the tree in their order, as far as the first visit that fails; so the loader is called on the
sources of these visits, save those that are on the chain already. The result is the error of the
first visit that fails, and the document of the tree where none does. -/
theorem load_visits (room : Nat) (source : Source) (s : σ) :
    l.load source room = Prod.fst <$> ((enact room source).run []).lead l.act ∧
      l.acts room source s = (reached (l.tree room source s).visits).flatMap Visit.acts ∧
      (l.acts room source s).filterMap Act.fetched? =
        ((reached (l.tree room source s).visits).filter Visit.fetches).map (·.source) ∧
      (∀ v ∈ (l.tree room source s).visits.tail, v.chain ≠ []) ∧
      (∀ v, (l.tree room source s).visits.find? Visit.failed = some v →
        ∃ e, ((l.load source room).run s).1 = .error e ∧ v.Reports e) ∧
      ((l.tree room source s).visits.find? Visit.failed = none →
        ((l.load source room).run s).1 = .ok (l.tree room source s).document) := by
  refine ⟨l.load_eq_lead source room, l.acts_eq room source s, ?_, ?_, fun v => l.load_failed,
    l.load_succeeded⟩
  · rw [acts_eq, filterMap_fetched?_acts]
  · exact (grown_importTree room [] source Relation.ReflTransGen.refl).1.chain_ne_nil

/-- A loader that fetches two documents and nothing more. -/
def failing : Loader (StateM Nat) where
  fetch source n :=
    (match n, source with
      | 0, .file "a" => .ok (Utf8.ofString "import: [b, c, d]\n")
      | 1, _ => .ok []
      | _, _ => .error (.io "offline"), n + 1)
  identity source := pure source.text

/-- The third document fails, and the fourth is not looked for any more. -/
theorem load_visits_failing :
    (failing.acts 3 (.file "a") 0).filterMap Act.fetched? = [.file "a", .file "b", .file "c"] ∧
      ∃ (v : Visit) (e : Error), v.chain = ["a"] ∧ v.source = .file "c" ∧
        ((failing.load (.file "a") 3).run 0).1 = .error e ∧ v.Reports e := by
  obtain ⟨-, -, hfetched, -, hfailed, -⟩ := load_visits failing 3 (.file "a") 0
  have hfirst : ((failing.tree 3 (.file "a") 0).visits.find? Visit.failed).map
      (fun v => (v.chain, v.source)) = some (["a"], .file "c") := by decide +kernel
  obtain ⟨v, hv, hplace⟩ := Option.map_eq_some_iff.1 hfirst
  obtain ⟨e, herror, hreports⟩ := hfailed v hv
  refine ⟨hfetched.trans (by decide +kernel), v, e, ?_, ?_, herror, hreports⟩
  · exact congrArg Prod.fst hplace
  · exact congrArg Prod.snd hplace

end Loads

end Loader

end Scaffold

import Scaffold.Import.Loading
import Scaffold.Proofs.Document.Composition

/-!
# Chain — one document of a load, and the chain it leaves

A load keeps the identities of the documents that it is in the middle of on one chain, which all
imports share. A document is put on it only if it has imports, and taken off only if all of them
were loaded; still every import starts from the same chain, because a load that succeeds leaves the
chain as it was (`restores_loadWithin`). So a document comes to what is composed of its imports,
each loaded behind the chain that ends in the document (`loadBehind_of_readable`).
-/

set_option autoImplicit false

namespace Scaffold

namespace Loader

/-! ## Acting until an error -/

theorem untilError_nil {α β : Type} (f : α → Id (Except Error β)) :
    untilError f [] = (.ok [] : Except Error (List β)) := rfl

theorem untilError_cons_error {α β : Type} {f : α → Id (Except Error β)} {a : α} {as : List α}
    {e : Error} (h : f a = .error e) :
    untilError f (a :: as) = (.error e : Except Error (List β)) := by
  simp only [untilError, bind, h]
  rfl

theorem untilError_cons_ok {α β : Type} {f : α → Id (Except Error β)} {a : α} {as : List α}
    {b : β} (h : f a = .ok b) :
    untilError f (a :: as) =
      (match untilError f as with
        | .error e => .error e
        | .ok bs => .ok (b :: bs) : Except Error (List β)) := by
  simp only [untilError, bind, h]
  rfl

/-- Acting on all elements succeeds only if it succeeds on each. -/
theorem exists_ok_of_untilError_eq_ok {α β : Type} {f : α → Id (Except Error β)} {as : List α}
    {bs : List β} (h : untilError f as = (.ok bs : Except Error (List β))) :
    ∀ a ∈ as, ∃ b, f a = .ok b := by
  induction as generalizing bs with
  | nil => exact nofun
  | cons a as ih =>
    cases ha : f a with
    | error e =>
      rw [untilError_cons_error ha] at h
      cases h
    | ok b =>
      rw [untilError_cons_ok ha] at h
      cases has : untilError f as with
      | error e =>
        rw [has] at h
        cases h
      | ok bs =>
        intro a' hmem
        rcases List.mem_cons.1 hmem with rfl | hmem
        · exact ⟨b, ha⟩
        · exact ih has a' hmem

/-- Where acting on all elements fails, it fails with the error of one of them. -/
theorem exists_error_of_untilError_eq_error {α β : Type} {f : α → Id (Except Error β)}
    {as : List α} {e : Error} (h : untilError f as = (.error e : Except Error (List β))) :
    ∃ a ∈ as, f a = .error e := by
  induction as with
  | nil => cases h
  | cons a as ih =>
    cases ha : f a with
    | error e' =>
      rw [untilError_cons_error ha] at h
      cases h
      exact ⟨a, List.mem_cons_self, ha⟩
    | ok b =>
      rw [untilError_cons_ok ha] at h
      cases has : untilError f as with
      | error e' =>
        rw [has] at h
        cases h
        obtain ⟨a', hmem, ha'⟩ := ih has
        exact ⟨a', List.mem_cons_of_mem a hmem, ha'⟩
      | ok bs =>
        rw [has] at h
        cases h

/-- Acting until an error is traversing, if each action agrees. -/
theorem mapM_eq_untilError {α β : Type} {f : α → Id (Except Error β)}
    {g : α → ExceptT Error Option β} {as : List α}
    (h : ∀ a ∈ as, g a = ExceptT.mk (some (Id.run (f a)))) :
    as.mapM g = ExceptT.mk (some (Id.run (untilError f as))) := by
  induction as with
  | nil => rfl
  | cons a as ih =>
    have hrest := ih fun a' hmem => h a' (List.mem_cons_of_mem a hmem)
    rw [List.mapM_cons, h a List.mem_cons_self, hrest]
    cases ha : f a with
    | error e =>
      rw [untilError_cons_error ha]
      rfl
    | ok b =>
      rw [untilError_cons_ok ha]
      cases untilError f as <;> rfl

/-! ## Giving the chain back -/

section Restoring

variable {α β : Type} {f : α → StateT (List String) Id (Except Error β)} {a : α} {as : List α}
  {chain chain' : List String}

/-- An action that succeeds leaves the chain as it was. -/
def Restores (x : StateT (List String) Id (Except Error β)) : Prop :=
  ∀ chain b, (x.run chain).1 = .ok b → (x.run chain).2 = chain

/-- What an action comes to when it starts from a chain. -/
def startingFrom (chain : List String) (f : α → StateT (List String) Id (Except Error β)) (a : α) :
    Id (Except Error β) :=
  ((f a).run chain).1

theorem run_untilError_cons_error {e : Error} (h : (f a).run chain = (.error e, chain')) :
    (untilError f (a :: as)).run chain = (.error e, chain') := by
  rw [untilError, StateT.run_bind, h]
  rfl

theorem run_untilError_cons_ok {b : β} (h : (f a).run chain = (.ok b, chain')) :
    (untilError f (a :: as)).run chain =
      match (untilError f as).run chain' with
      | (.error e, last) => (.error e, last)
      | (.ok bs, last) => (.ok (b :: bs), last) := by
  rw [untilError, StateT.run_bind, h]
  refine (StateT.run_bind (untilError f as) _ chain').trans ?_
  cases (untilError f as).run chain' with
  | mk result last => cases result <;> rfl

/-- Actions in a row that leave the chain as it was all start from the same one, and it is what they
leave. -/
theorem run_untilError (hf : ∀ a, Restores (f a)) (as : List α) (chain : List String) :
    ((untilError f as).run chain).1 = untilError (startingFrom chain f) as ∧
      ∀ bs, ((untilError f as).run chain).1 = .ok bs → ((untilError f as).run chain).2 = chain := by
  induction as with
  | nil => exact ⟨rfl, fun _ _ => rfl⟩
  | cons a as ih =>
    have hrestored := hf a chain
    cases ha : (f a).run chain with
    | mk result chain' =>
      have hfirst : startingFrom chain f a = result := congrArg Prod.fst ha
      cases result with
      | error e =>
        rw [run_untilError_cons_error ha, untilError_cons_error hfirst]
        exact ⟨rfl, nofun⟩
      | ok b =>
        rw [ha] at hrestored
        obtain rfl : chain' = chain := hrestored b rfl
        rw [run_untilError_cons_ok ha, untilError_cons_ok hfirst]
        obtain ⟨hresult, hchain⟩ := ih
        rw [← hresult]
        cases has : (untilError f as).run chain' with
        | mk rest last =>
          rw [has] at hchain
          cases rest with
          | error e => exact ⟨rfl, nofun⟩
          | ok bs => exact ⟨rfl, fun _ _ => hchain bs rfl⟩

end Restoring

/-! ## One document of a load -/

variable {l : Loader Id} {room : Nat} {chain : List String} {source : Source}

/-- The identity of a document. -/
def nameOf (l : Loader Id) (source : Source) : String := Id.run (l.identity source)

/-- A document that is on the chain is not loaded again. -/
theorem loadWithin_of_mem (h : l.nameOf source ∈ chain) :
    (l.loadWithin (room + 1) source).run chain =
      (.error (cycle source chain (l.nameOf source)), chain) := by
  have hcontains : chain.contains (l.nameOf source) = true := List.contains_iff_mem.2 h
  rw [loadWithin]
  change StateT.run (if chain.contains (l.nameOf source) then _ else _) chain = _
  rw [if_pos hcontains]
  rfl

theorem loadWithin_of_unreadable {e : Error} (h : l.nameOf source ∉ chain)
    (hread : l.read source = .error e) :
    (l.loadWithin (room + 1) source).run chain =
      (.error (if chain.isEmpty then e else importError source e), chain) := by
  have hcontains : ¬ chain.contains (l.nameOf source) = true :=
    fun hmem => h (List.contains_iff_mem.1 hmem)
  rw [loadWithin]
  change StateT.run (if chain.contains (l.nameOf source) then _ else _) chain = _
  rw [if_neg hcontains, hread]
  rfl

/-- A document without imports is not put on the chain. -/
theorem loadWithin_of_leaf {document : Document} (h : l.nameOf source ∉ chain)
    (hread : l.read source = .ok document) (hleaf : document.imports = []) :
    (l.loadWithin (room + 1) source).run chain = (.ok document, chain) := by
  have hcontains : ¬ chain.contains (l.nameOf source) = true :=
    fun hmem => h (List.contains_iff_mem.1 hmem)
  rw [loadWithin]
  change StateT.run (if chain.contains (l.nameOf source) then _ else _) chain = _
  rw [if_neg hcontains, hread]
  change StateT.run (if document.imports.isEmpty then _ else _) chain = _
  rw [hleaf]
  rfl

/-- A document with imports is put on the chain, and taken off when they are loaded. -/
theorem loadWithin_of_node {document : Document} (h : l.nameOf source ∉ chain)
    (hread : l.read source = .ok document) (hnode : document.imports ≠ []) :
    (l.loadWithin (room + 1) source).run chain =
      match (untilError (fun locator => l.loadWithin room (source.resolve locator))
        document.imports).run (chain ++ [l.nameOf source]) with
      | (.error e, last) => (.error e, last)
      | (.ok imported, last) => (.ok (Document.compose imported document), last.dropLast) := by
  have hcontains : ¬ chain.contains (l.nameOf source) = true :=
    fun hmem => h (List.contains_iff_mem.1 hmem)
  rw [loadWithin]
  change StateT.run (if chain.contains (l.nameOf source) then _ else _) chain = _
  rw [if_neg hcontains, hread]
  change StateT.run (if document.imports.isEmpty then _ else _) chain = _
  rw [if_neg (fun hempty => hnode (List.isEmpty_iff.1 hempty)), StateT.run_bind, StateT.run_set,
    pure_bind]
  dsimp only
  rw [StateT.run_bind]
  cases hall : (untilError (fun locator => l.loadWithin room (source.resolve locator))
      document.imports).run (chain ++ [l.nameOf source]) with
  | mk result last =>
    refine (congrArg (fun p : Id (Except Error (List Document) × List String) => p >>= _)
      hall).trans ?_
    cases result <;> rfl

/-- A load that succeeds leaves the chain as it was. -/
theorem restores_loadWithin (l : Loader Id) (room : Nat) (source : Source) :
    Restores (l.loadWithin room source) := by
  induction room generalizing source with
  | zero => exact nofun
  | succ room ih =>
    intro chain document h
    by_cases hmem : l.nameOf source ∈ chain
    · rw [loadWithin_of_mem hmem]
    cases hread : l.read source with
    | error e => rw [loadWithin_of_unreadable hmem hread]
    | ok own =>
      by_cases himports : own.imports = []
      · rw [loadWithin_of_leaf hmem hread himports]
      rw [loadWithin_of_node hmem hread himports] at h ⊢
      obtain ⟨-, hchain⟩ := run_untilError (fun locator => ih (source.resolve locator))
        own.imports (chain ++ [l.nameOf source])
      cases hall : (untilError (fun locator => l.loadWithin room (source.resolve locator))
          own.imports).run (chain ++ [l.nameOf source]) with
      | mk result last =>
        rw [hall] at h hchain
        cases result with
        | error e => cases h
        | ok imported =>
          obtain rfl : last = chain ++ [l.nameOf source] := hchain imported rfl
          exact List.dropLast_concat

/-- What a load behind a chain comes to. -/
def loadBehind (l : Loader Id) (room : Nat) (chain : List String) (source : Source) :
    Except Error Document :=
  ((l.loadWithin room source).run chain).1

/-- How the imports of a document are loaded. -/
def loadImport (l : Loader Id) (room : Nat) (chain : List String) (source : Source)
    (locator : String) : Id (Except Error Document) :=
  l.loadBehind room (chain ++ [l.nameOf source]) (source.resolve locator)

theorem loadBehind_of_mem (h : l.nameOf source ∈ chain) :
    l.loadBehind (room + 1) chain source = .error (cycle source chain (l.nameOf source)) :=
  congrArg Prod.fst (loadWithin_of_mem h)

theorem loadBehind_of_unreadable {e : Error} (h : l.nameOf source ∉ chain)
    (hread : l.read source = .error e) :
    l.loadBehind (room + 1) chain source =
      .error (if chain.isEmpty then e else importError source e) :=
  congrArg Prod.fst (loadWithin_of_unreadable h hread)

/-- A document that can be read is composed over its imports. One that imports nothing is no
exception, although it is not composed at all. -/
theorem loadBehind_of_readable {document : Document} (h : l.nameOf source ∉ chain)
    (hread : l.read source = .ok document) :
    l.loadBehind (room + 1) chain source =
      match untilError (l.loadImport room chain source) document.imports with
      | .error e => .error e
      | .ok imported => .ok (Document.compose imported document) := by
  rw [loadBehind]
  by_cases himports : document.imports = []
  · rw [loadWithin_of_leaf h hread himports, himports, untilError_nil]
    exact congrArg Except.ok (Document.compose_nil document).symm
  · obtain ⟨hall, -⟩ := run_untilError
      (fun locator => restores_loadWithin l room (source.resolve locator)) document.imports
      (chain ++ [l.nameOf source])
    have hloaded : ((untilError (fun locator => l.loadWithin room (source.resolve locator))
        document.imports).run (chain ++ [l.nameOf source])).1 =
        untilError (l.loadImport room chain source) document.imports := hall
    rw [loadWithin_of_node h hread himports, ← hloaded]
    cases (untilError (fun locator => l.loadWithin room (source.resolve locator))
      document.imports).run (chain ++ [l.nameOf source]) with
    | mk result last => cases result <;> rfl

end Loader

end Scaffold

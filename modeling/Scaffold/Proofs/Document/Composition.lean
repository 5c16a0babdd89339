import Scaffold.Import.Loading
import Scaffold.Proofs.OrderedMap

/-!
# Composition — documents laid over each other

Composing lays a document over its imports, and each of the four merged sections goes its own way:
what is declared for it, document after document, is written into one map. `gather` is that map
for any row of sections, and `compose_section` says that a composed document has it.
`compose_gathers` says of every composed document which keys a section has, in which order and with
which values, when it is absent, and what the document keeps of its own.

Merging documents is associative, and a document that is laid over itself stays what it is; below
and above a document without declarations nothing changes. So it does not matter whether a document
is composed over what an import has been composed to or over everything that the import was composed
of: imports that are nested come to the same as a flat row of them (`compose_flattens`). It does not
matter either that a document without imports is not composed at all when it is loaded
(`loadComposing_eq`).
-/

set_option autoImplicit false

namespace Scaffold

namespace Document

variable {α : Type}

/-! ## A row of sections -/

/-- Everything that a row of sections declares, in order; an absent section declares nothing. -/
def declarations (parts : List (Option (OrderedMap α))) : List (String × α) :=
  parts.flatMap fun part => (part.map (·.entries)).getD []

/-- What a row of sections makes together: all their declarations, or nothing where no section is
there. -/
def gather (parts : List (Option (OrderedMap α))) : Option (OrderedMap α) :=
  if parts.all (·.isNone) then none else some (.ofList (declarations parts))

theorem declarations_concat (parts : List (Option (OrderedMap α)))
    (part : Option (OrderedMap α)) :
    declarations (parts ++ [part]) = declarations parts ++ (part.map (·.entries)).getD [] := by
  simp only [declarations, List.flatMap_append, List.flatMap_singleton]

/-- Absent sections declare nothing. -/
theorem declarations_eq_nil {parts : List (Option (OrderedMap α))}
    (h : parts.all (·.isNone) = true) : declarations parts = [] := by
  refine List.flatMap_eq_nil_iff.2 fun part hpart => ?_
  rw [Option.isNone_iff_eq_none.1 (List.all_eq_true.1 h part hpart)]
  rfl

/-- One more section lies over those before it. -/
theorem overlay_gather (parts : List (Option (OrderedMap α))) (part : Option (OrderedMap α)) :
    overlay (gather parts) part = gather (parts ++ [part]) := by
  simp only [gather, List.all_append, declarations_concat]
  cases hall : parts.all (·.isNone) with
  | true =>
    rw [declarations_eq_nil hall]
    cases part with
    | none => rfl
    | some m => exact (congrArg some m.ofList_entries).symm
  | false =>
    cases part with
    | none => simp [overlay]
    | some m => exact congrArg some (OrderedMap.ofList_append ..).symm

/-- Laying sections over each other writes what they declare into one map. -/
theorem foldl_overlay (parts : List (Option (OrderedMap α))) :
    parts.foldl overlay none = gather parts := by
  induction parts using List.reverseRecOn with
  | nil => rfl
  | append_singleton parts part ih =>
    rw [List.foldl_append, ih]
    exact overlay_gather parts part

/-- An empty section below others that are there changes nothing. -/
theorem gather_empty_cons {parts : List (Option (OrderedMap α))} {m : OrderedMap α}
    (hm : some m ∈ parts) : gather (some .empty :: parts) = gather parts := by
  have hall : parts.all (·.isNone) = false :=
    List.all_eq_false.2 ⟨some m, hm, Bool.false_ne_true⟩
  simp only [gather, List.all_cons, hall, Bool.and_false, Bool.false_eq_true, if_false]
  rfl

/-- What a section holds of a row of sections: it is absent if all of them are; its keys are those
declared, each where it stands first; and the last declaration of a key gives its value. -/
structure Gathers (parts : List (Option (OrderedMap α))) (whole : Option (OrderedMap α)) :
    Prop where
  eq_none_iff : whole = none ↔ ∀ part ∈ parts, part = none
  keys_eq : (whole.map (·.keys)).getD [] = ((declarations parts).map Prod.fst).eraseDups
  get?_eq : ∀ key, whole.bind (·.get? key) = (declarations parts).reverse.lookup key

theorem gathers_gather (parts : List (Option (OrderedMap α))) : Gathers parts (gather parts) := by
  cases hall : parts.all (·.isNone) with
  | true =>
    have hnone : gather parts = none := if_pos hall
    have habsent : ∀ part ∈ parts, part = none := fun part hpart =>
      Option.isNone_iff_eq_none.1 (List.all_eq_true.1 hall part hpart)
    rw [hnone]
    refine ⟨⟨fun _ => habsent, fun _ => rfl⟩, ?_, ?_⟩
    · rw [declarations_eq_nil hall]
      rfl
    · intro key
      rw [declarations_eq_nil hall]
      rfl
  | false =>
    have hsome : gather parts = some (.ofList (declarations parts)) :=
      if_neg (by rw [hall]; exact Bool.false_ne_true)
    obtain ⟨part, hpart, hne⟩ := List.all_eq_false.1 hall
    rw [hsome]
    refine ⟨⟨nofun, fun h => ?_⟩, ?_, ?_⟩
    · exact absurd (Option.isNone_iff_eq_none.2 (h part hpart)) hne
    · exact OrderedMap.keys_ofList (declarations parts)
    · exact OrderedMap.get?_ofList (declarations parts)

/-! ## Sections of a document -/

/-- A section that merging lays over the one below it, whatever a document has besides. -/
structure IsMerged (part : Document → Option (OrderedMap α)) : Prop where
  merge_eq : ∀ d other, part (d.merge other) = overlay (part d) (part other)
  own_irrelevant : ∀ d imports executes shell comments,
    part { d with imports, executes, shell, comments } = part d

theorem isMerged_envs : IsMerged (·.envs) := ⟨fun _ _ => rfl, fun _ _ _ _ _ => rfl⟩

theorem isMerged_vars : IsMerged (·.vars) := ⟨fun _ _ => rfl, fun _ _ _ _ _ => rfl⟩

theorem isMerged_remoteVars : IsMerged (·.remoteVars) := ⟨fun _ _ => rfl, fun _ _ _ _ _ => rfl⟩

theorem isMerged_templates : IsMerged (fun d => some d.templates) :=
  ⟨fun _ _ => rfl, fun _ _ _ _ _ => rfl⟩

/-- Merging documents in a row lays a section over itself time after time. -/
theorem foldl_merge_section {part : Document → Option (OrderedMap α)} (h : IsMerged part)
    (imported : List Document) (d : Document) :
    part (imported.foldl merge d) = (imported.map part).foldl overlay (part d) := by
  induction imported generalizing d with
  | nil => rfl
  | cons other imported ih =>
    rw [List.foldl_cons, ih, h.merge_eq, List.map_cons, List.foldl_cons]

/-- A merged section of a composed document lies over those of the imports, from the left. -/
theorem compose_section {part : Document → Option (OrderedMap α)} (h : IsMerged part)
    (imported : List Document) (d : Document) :
    part (compose imported d) = ((imported ++ [d]).map part).foldl overlay (part {}) := by
  rw [compose, h.merge_eq, h.own_irrelevant, foldl_merge_section h, List.map_append,
    List.foldl_append]
  rfl

/-- A section that documents may leave out is gathered from the imports and the document. -/
theorem compose_gathers_section {part : Document → Option (OrderedMap α)} (h : IsMerged part)
    (hnone : part {} = none) (imported : List Document) (d : Document) :
    Gathers ((imported ++ [d]).map part) (part (compose imported d)) := by
  rw [compose_section h, hnone, foldl_overlay]
  exact gathers_gather _

/-- The templates, which no document leaves out, are gathered all the same. -/
theorem compose_gathers_templates (imported : List Document) (d : Document) :
    Gathers ((imported ++ [d]).map fun d => some d.templates)
      (some (compose imported d).templates) := by
  have hmem : some d.templates ∈ (imported ++ [d]).map fun d => some d.templates :=
    List.mem_map_of_mem (List.mem_append_right _ List.mem_cons_self)
  have hfold := compose_section isMerged_templates imported d
  have hempty : ((imported ++ [d]).map fun d => some d.templates).foldl overlay (some .empty) =
      gather ((imported ++ [d]).map fun d => some d.templates) :=
    (foldl_overlay (some .empty :: _)).trans (gather_empty_cons hmem)
  rw [hfold]
  exact hempty ▸ gathers_gather _

/-- A document without imports is composed of itself. -/
theorem compose_nil (d : Document) : compose [] d = d := by
  have htemplates : OrderedMap.empty.setAll d.templates.entries = d.templates :=
    d.templates.ofList_entries
  simp only [compose, merge, List.foldl_nil, overlay, htemplates]

/-- What a composed document is: its four merged sections are gathered from the imports in order
and then the document itself, and everything else is the document's own. A remote variable that is
declared without a request is a declaration like any other. -/
theorem compose_gathers (imported : List Document) (d : Document) :
    Gathers ((imported ++ [d]).map (·.envs)) (compose imported d).envs ∧
      Gathers ((imported ++ [d]).map (·.vars)) (compose imported d).vars ∧
      Gathers ((imported ++ [d]).map (·.remoteVars)) (compose imported d).remoteVars ∧
      Gathers ((imported ++ [d]).map fun d => some d.templates)
        (some (compose imported d).templates) ∧
      (compose imported d).imports = d.imports ∧
      (compose imported d).executes = d.executes ∧
      (compose imported d).shell = d.shell ∧
      (compose imported d).comments = d.comments := by
  refine ⟨compose_gathers_section isMerged_envs rfl imported d,
    compose_gathers_section isMerged_vars rfl imported d,
    compose_gathers_section isMerged_remoteVars rfl imported d,
    compose_gathers_templates imported d, rfl, rfl, rfl, rfl⟩

/-! ## Sections over each other -/

/-- An absent section changes nothing of the one below it. -/
theorem overlay_none (lower : Option (OrderedMap α)) : overlay lower none = lower := by
  cases lower <;> rfl

theorem overlay_assoc (a b c : Option (OrderedMap α)) :
    overlay (overlay a b) c = overlay a (overlay b c) := by
  cases a with
  | none => rfl
  | some a =>
    cases b with
    | none => rfl
    | some b =>
      cases c with
      | none => rfl
      | some c => exact congrArg some (OrderedMap.setAll_entries_setAll a b c.entries).symm

theorem overlay_self (a : Option (OrderedMap α)) : overlay a a = a := by
  cases a with
  | none => rfl
  | some a => exact congrArg some (OrderedMap.setAll_eq_self fun _ h => h)

/-! ## Documents over each other -/

theorem merge_assoc (a b c : Document) : (a.merge b).merge c = a.merge (b.merge c) := by
  have htemplates := OrderedMap.setAll_entries_setAll a.templates b.templates c.templates.entries
  simp only [merge, overlay_assoc, htemplates]

theorem merge_self (a : Document) : a.merge a = a := by
  have htemplates : a.templates.setAll a.templates.entries = a.templates :=
    OrderedMap.setAll_eq_self fun _ h => h
  simp only [merge, overlay_self, htemplates]

/-- A document without declarations changes nothing of the one below it. -/
theorem merge_default (a : Document) : a.merge {} = a := by
  have htemplates : a.templates.setAll OrderedMap.empty.entries = a.templates := rfl
  simp only [merge, overlay_none, htemplates]

/-- The declarations of two documents are the same. -/
structure SameDeclarations (a b : Document) : Prop where
  envs : a.envs = b.envs
  vars : a.vars = b.vars
  remoteVars : a.remoteVars = b.remoteVars
  templates : a.templates = b.templates

/-- Over a document without declarations every document declares what it declares by itself. -/
theorem default_merge (a : Document) : SameDeclarations (merge {} a) a :=
  ⟨rfl, rfl, rfl, a.templates.ofList_entries⟩

/-- Nothing but the declarations of a document counts when it is laid over another one. -/
theorem merge_congr {b b' : Document} (h : SameDeclarations b b') (a : Document) :
    a.merge b = a.merge b' := by
  simp only [merge, h.envs, h.vars, h.remoteVars, h.templates]

/-- A composed document declares what its imports and the document declare in a row. -/
theorem sameDeclarations_compose (imported : List Document) (d : Document) :
    SameDeclarations (compose imported d) ((imported.foldl merge {}).merge d) :=
  ⟨rfl, rfl, rfl, rfl⟩

/-- Documents in a row can be merged before they are laid over another one. -/
theorem foldl_merge (a b : Document) (ds : List Document) :
    ds.foldl merge (a.merge b) = a.merge (ds.foldl merge b) := by
  induction ds generalizing b with
  | nil => rfl
  | cons d ds ih => rw [List.foldl_cons, List.foldl_cons, merge_assoc, ih]

/-- What is composed can be laid over a document, or else everything that it is composed of, one
after the other. -/
theorem merge_compose (a : Document) (imported : List Document) (d : Document) :
    a.merge (compose imported d) = (imported ++ [d]).foldl merge a := by
  calc a.merge (compose imported d)
      = a.merge ((imported.foldl merge {}).merge d) :=
        merge_congr (sameDeclarations_compose imported d) a
    _ = (a.merge (imported.foldl merge {})).merge d := (merge_assoc a _ d).symm
    _ = (imported.foldl merge (a.merge {})).merge d := by rw [foldl_merge]
    _ = (imported.foldl merge a).merge d := by rw [merge_default]
    _ = (imported ++ [d]).foldl merge a := by rw [List.foldl_append]; rfl

/-- Imports that are merged to the same are composed to the same. -/
theorem compose_congr {imported imported' : List Document}
    (h : imported.foldl merge {} = imported'.foldl merge {}) (d : Document) :
    compose imported d = compose imported' d := by
  rw [compose, compose, h]

/-- An import that is composed itself can be replaced by everything that it is composed of. -/
theorem compose_compose (xs ys zs : List Document) (m d : Document) :
    compose (xs ++ [compose ys m] ++ zs) d = compose (xs ++ ys ++ [m] ++ zs) d := by
  refine compose_congr ?_ d
  calc (xs ++ [compose ys m] ++ zs).foldl merge {}
      = zs.foldl merge ((xs.foldl merge {}).merge (compose ys m)) := by
        rw [List.foldl_append, List.foldl_append]
        rfl
    _ = zs.foldl merge ((ys ++ [m]).foldl merge (xs.foldl merge {})) := by rw [merge_compose]
    _ = (xs ++ ys ++ [m] ++ zs).foldl merge {} := by
        rw [← List.foldl_append, ← List.foldl_append, List.append_assoc xs ys, List.append_assoc xs]

end Document

/-! ## Loads without a short cut -/

namespace Loader

variable {m : Type → Type} [Monad m]

/-- Loading a document like `loadWithin`, but every document that can be read is put on the chain
and composed, those that import nothing too. -/
def loadComposing (l : Loader m) : Nat → Source → StateT (List String) m (Except Error Document)
  | 0, _ => pure (.error .aborted)
  | room + 1, source => do
    let identity ← l.identity source
    let chain ← get
    if chain.contains identity then return .error (cycle source chain identity)
    else
      match ← l.read source with
      | .error e => return .error (if chain.isEmpty then e else importError source e)
      | .ok document =>
        set (chain ++ [identity])
        let below (locator : String) : StateT (List String) m (Except Error Document) :=
          loadComposing l room (source.resolve locator)
        match ← untilError below document.imports with
        | .error e => return .error e
        | .ok imported =>
          modify List.dropLast
          return .ok (Document.compose imported document)

/-- A document that imports nothing is loaded as if it were composed. -/
theorem loadComposing_eq [LawfulMonad m] (l : Loader m) (room : Nat) (source : Source) :
    l.loadComposing room source = l.loadWithin room source := by
  induction room generalizing source with
  | zero => rfl
  | succ room ih =>
    have hbelow : (fun locator => l.loadComposing room (source.resolve locator)) =
        fun locator => l.loadWithin room (source.resolve locator) :=
      funext fun locator => ih (source.resolve locator)
    rw [loadComposing, loadWithin]
    refine StateT.ext fun start => ?_
    rw [StateT.run_bind, StateT.run_bind]
    refine bind_congr fun ⟨identity, chain⟩ => ?_
    rw [StateT.run_bind, StateT.run_bind, StateT.run_get, pure_bind, pure_bind]
    dsimp only
    split
    · rfl
    simp only [StateT.run_bind, liftM, StateT.run_monadLift, monadLift_self, bind_assoc, pure_bind,
      hbelow]
    refine bind_congr fun r => ?_
    cases r with
    | error e => rfl
    | ok document =>
      dsimp only
      split
      next hleaf =>
        rw [List.isEmpty_iff.1 hleaf]
        -- the document is put on the chain and taken off again, and composed of itself
        simp only [untilError, pure_bind, StateT.run_bind, StateT.run_set, StateT.run_modify,
          StateT.run_pure, List.dropLast_concat, Document.compose_nil]
      next => rfl

end Loader

/-! ## Nesting -/

namespace Document

/-- Merging is associative and idempotent, and a document without declarations is neutral for it. So
a document without imports is composed of itself, and whether it is composed at all makes no
difference to a load; and documents that are composed of nested imports are those that are composed
of the same imports in a flat row. -/
theorem compose_flattens {m : Type → Type} [Monad m] [LawfulMonad m] (l : Loader m) :
    (∀ a b c : Document, (a.merge b).merge c = a.merge (b.merge c)) ∧
      (∀ a : Document, a.merge a = a) ∧
      (∀ a : Document, a.merge {} = a ∧ SameDeclarations (merge {} a) a) ∧
      (∀ d : Document, compose [] d = d) ∧
      (∀ room source, l.loadComposing room source = l.loadWithin room source) ∧
      ∀ (xs ys zs : List Document) (middle d : Document),
        compose (xs ++ [compose ys middle] ++ zs) d = compose (xs ++ ys ++ [middle] ++ zs) d :=
  ⟨merge_assoc, merge_self, fun a => ⟨merge_default a, default_merge a⟩, compose_nil,
    l.loadComposing_eq, compose_compose⟩

/-- A document that declares one variable. -/
def declaring (name value : String) : Document where
  vars := some (.ofList [(name, .text value)])

/-- A loader for which every document is without declarations. -/
def blank : Loader Id where
  fetch _ := pure (.ok [])
  identity source := pure source.text

/-- An import with an import of its own, between the document and another import. -/
theorem compose_flattens_declaring :
    compose [declaring "a" "1", compose [declaring "b" "2"] (declaring "a" "3")]
        (declaring "b" "4") =
      compose [declaring "a" "1", declaring "b" "2", declaring "a" "3"] (declaring "b" "4") ∧
    (compose [declaring "a" "1", declaring "b" "2", declaring "a" "3"]
        (declaring "b" "4")).vars.map (·.entries) = some [("a", .text "3"), ("b", .text "4")] ∧
    blank.loadComposing 1 (.file "a") = blank.loadWithin 1 (.file "a") := by
  obtain ⟨-, -, -, -, hload, hflat⟩ := compose_flattens blank
  exact ⟨hflat [declaring "a" "1"] [declaring "b" "2"] [] (declaring "a" "3") (declaring "b" "4"),
    rfl, hload 1 (.file "a")⟩

end Document

end Scaffold

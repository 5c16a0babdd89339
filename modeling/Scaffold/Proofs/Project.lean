import Scaffold.Evaluation
import Scaffold.Proofs.Json.Printing

/-!
# Project — what is told about it, and how it is read and written

Two methods of the run answer with dependencies of current groups, one with the regular ones and one
with the plugins, and their arguments name the groups. The answer is what the arguments bring, one
behind the other (`currentGroups_flatMap`): an argument that names a current group brings the
dependencies of this group in their order, as often as it is given, and every other one brings none.
This holds as soon as one argument is a text, of whatever group. Where none is, the answer is that
for the first group, and that is so without arguments and also for arguments that are no texts
(`tells_dependencies`, `unnamed_argument_falls_back`).

The text of a project is read as the project, record by record from the metadata of its dependencies
up (`Project.recovers`). Each record, list and map takes one level of collections, eight of them
around the metadata, and no more than 127 levels are read: so a project whose metadata holds no
floating point number is read from its own text if its metadata has no more than 119 levels, and
only then (`reads_back`). What is read from any text has no more of them (`Project.gives`).
-/

set_option autoImplicit false

/-! ## Questions for dependencies -/

namespace Scaffold

open Scaffold.Expr (Value)

/-- The kinds of dependencies of a group. -/
inductive DependencyKind
  | regular
  | plugin

namespace DependencyKind

/-- The method of the run that answers with dependencies of a kind. -/
def method : DependencyKind → String
  | .regular => "currentDepends"
  | .plugin => "currentPluginDepends"

/-- The dependencies of a group of one kind, in their order. -/
def ofGroup (kind : DependencyKind) (g : DependGroup) : List Dependency :=
  match kind with
  | .regular => g.depends.regular
  | .plugin => g.depends.plugin

/-- The question for dependencies of a kind. -/
def question : DependencyKind → List String → Expr.ProjectQuestion
  | .regular => .currentDepends
  | .plugin => .currentPluginDepends

end DependencyKind

namespace Project

variable (p : Project) (kind : DependencyKind)

/-- What an argument brings: the dependencies of the current group that it names. An argument that
is no text names none. -/
def brought (v : Value) : List Dependency :=
  match v.text?.bind p.depends.current.get? with
  | some g => kind.ofGroup g
  | none => []

/-- The dependencies of the current group that is declared first. -/
def ofFirstGroup : List Dependency :=
  match p.depends.current.entries with
  | [] => []
  | (_, g) :: _ => kind.ofGroup g

theorem flatMap_eq_brought (values : List Value) :
    ((values.filterMap Value.text?).filterMap p.depends.current.get?).flatMap kind.ofGroup =
      values.flatMap (p.brought kind) := by
  induction values with
  | nil => rfl
  | cons v values ih =>
    rw [List.flatMap_cons, ← ih, brought]
    cases htext : v.text? with
    | none => simp [htext]
    | some name =>
      cases hgroup : p.depends.current.get? name with
      | none => simp [htext, hgroup]
      | some g => simp [htext, hgroup]

/-- The groups that arguments stand for have the dependencies that the arguments bring, unless no
argument is a text; then they are the first group alone. -/
theorem currentGroups_flatMap (values : List Value) :
    (p.currentGroups (values.filterMap Value.text?)).flatMap kind.ofGroup =
      if values.all (·.text?.isNone) then p.ofFirstGroup kind
      else values.flatMap (p.brought kind) := by
  have hempty : (values.filterMap Value.text?).isEmpty = values.all (·.text?.isNone) := by
    rw [Bool.eq_iff_iff, List.isEmpty_iff, List.filterMap_eq_nil_iff, List.all_eq_true]
    simp only [Option.isNone_iff_eq_none]
  rw [currentGroups, hempty]
  split
  · rw [ofFirstGroup]
    cases p.depends.current.entries with
    | nil => rfl
    | cons entry entries => exact List.append_nil _
  · exact p.flatMap_eq_brought kind values

/-- Dependencies as the answer to an expression. -/
def dependencyValue (dependencies : List Dependency) : Value :=
  .seq (dependencies.map (·.toJson.toValue))

theorem aboutProject_dependencies (names : List String) :
    Context.aboutProject p (kind.question names) =
      dependencyValue ((p.currentGroups names).flatMap kind.ofGroup) := by
  cases kind <;> rfl

open Expr.Evaluate (callMethod) in
/-- A method of the run that answers with dependencies of current groups puts together what its
arguments bring, in the order of the arguments, and changes nothing. If no argument is a text, it
answers with the dependencies of the first group instead. -/
theorem tells_dependencies (tree : Expr.Exprs) (body : Expr.Stmts) (line : Nat)
    (args : Expr.Arguments) (s : Expr.Evaluation) (c : Context) :
    (callMethod tree body line .context kind.method args s).run Context.answer c =
      (.ok (dependencyValue
        (if args.flat.all (·.text?.isNone) then c.project.ofFirstGroup kind
          else args.flat.flatMap (c.project.brought kind)), s), c) := by
  have hasked : (callMethod tree body line .context kind.method args s).run Context.answer c =
      (.ok (Context.aboutProject c.project
        (kind.question (args.flat.filterMap Value.text?)), s), c) := by
    cases kind <;> rfl
  rw [hasked, aboutProject_dependencies, currentGroups_flatMap]

/-- A project with one current group, which has one dependency. -/
def web : Project where
  depends.current := .ofList [("web", { depends.regular := [{ name := "serde" }] })]

/-- An argument that is no text names no group and should bring nothing; but the only argument being
so, the answer is the dependency of the first group. -/
theorem unnamed_argument_falls_back :
    web.brought .regular .none = [] ∧
      (evaluate "\x7b\x7b this.currentDepends(none) | map(attribute='name') | join(',') \x7d\x7d"
        (.standard web) { document := {}, project := web }).1.toOption.map (·.text) =
        some "serde" := by
  refine ⟨rfl, ?_⟩
  decide +kernel

end Project

end Scaffold

/-! ## Reading and writing -/

namespace Scaffold

open Json.Reading

/-! ### All metadata -/

/-- The metadata of a dependency, without the names. -/
def Dependency.data (d : Dependency) : List Metadata :=
  d.metadata.entries.map Prod.snd

/-- The metadata of the dependencies of a group. -/
def Depends.data (d : Depends) : List Metadata :=
  (d.plugin ++ d.regular).flatMap Dependency.data

/-- The metadata of a group. -/
def DependGroup.data (g : DependGroup) : List Metadata :=
  g.depends.data

/-- The metadata of the groups of a project. -/
def DependsContainer.data (c : DependsContainer) : List Metadata :=
  (c.current.entries ++ c.group.entries).flatMap fun entry => entry.2.data

/-- The metadata of a project. -/
def Project.data (p : Project) : List Metadata :=
  p.depends.data

variable {P : Metadata → Prop} {depth : Nat}

theorem Dependency.forall_data {d : Dependency} : (∀ j ∈ d.data, P j) ↔ d.metadata.All P := by
  rw [OrderedMap.all_iff_forall_mem]
  exact List.forall_mem_map

theorem Depends.forall_data {d : Depends} :
    (∀ j ∈ d.data, P j) ↔
      (∀ x ∈ d.plugin, ∀ j ∈ x.data, P j) ∧ ∀ x ∈ d.regular, ∀ j ∈ x.data, P j := by
  rw [Depends.data, List.forall_mem_flatMap, List.forall_mem_append]

theorem DependsContainer.forall_data {c : DependsContainer} :
    (∀ j ∈ c.data, P j) ↔
      c.current.All (fun g => ∀ j ∈ g.data, P j) ∧ c.group.All (fun g => ∀ j ∈ g.data, P j) := by
  rw [DependsContainer.data, List.forall_mem_flatMap, List.forall_mem_append,
    OrderedMap.all_iff_forall_mem, OrderedMap.all_iff_forall_mem]

/-! ### From text to text -/

/-- Metadata that is recovered within so many levels. -/
def Metadata.Recoverable (depth : Nat) (j : Metadata) : Prop :=
  j.1.IsWithin depth ∧ j.1.isFloatless = true

theorem Metadata.recovers {j : Metadata} (h : j.Recoverable depth) :
    Recovers Metadata.reading depth j.1 j := by
  have hvalue := recovers_value h.1 h.2
  refine ⟨hvalue.begins, fun rest hrest => (hvalue.takes rest hrest).bind ?_⟩
  rw [dif_pos j.2]
  exact takes_pure j rest

theorem Dependency.recovers {d : Dependency} (h : ∀ j ∈ d.data, j.Recoverable depth) :
    Recovers Dependency.reading (depth + 2) d.toJson d := by
  have hmetadata : Recovers (Json.Reading.map Metadata.reading) (depth + 1)
      (d.metadata.toJson (·.1)) d.metadata :=
    recovers_map fun entry hmem => Metadata.recovers ((forall_data.1 h).of_mem hmem)
  refine recovers_record ?_ (by simp)
  exact .cons rfl (recovers_string d.name).set <|
    .cons rfl (recovers_string d.version).set <|
    .cons rfl (recovers_string d.desc).set <|
    .cons rfl hmetadata.set .nil

theorem Depends.recovers {d : Depends} (h : ∀ j ∈ d.data, j.Recoverable depth) :
    Recovers Depends.reading (depth + 4) d.toJson d := by
  obtain ⟨hplugin, hregular⟩ := forall_data.1 h
  have hlist {ds : List Dependency} (hds : ∀ d ∈ ds, ∀ j ∈ d.data, j.Recoverable depth) :
      Recovers (list Dependency.reading) (depth + 3) (.array (ds.map Dependency.toJson)) ds := by
    refine recovers_list (List.forall₂_map_left_iff.2 (List.forall₂_same.2 fun d hmem => ?_))
    exact Dependency.recovers (hds d hmem)
  refine recovers_record ?_ (by simp)
  exact .cons rfl (hlist hplugin).set <| .cons rfl (hlist hregular).set .nil

theorem DependGroup.recovers {g : DependGroup} (h : ∀ j ∈ g.data, j.Recoverable depth) :
    Recovers DependGroup.reading (depth + 5) g.toJson g := by
  refine recovers_record ?_ (by simp)
  exact .cons rfl (recovers_string g.name).set <|
    .cons rfl (recovers_string g.desc).set <|
    .cons rfl (Depends.recovers h).set .nil

theorem DependsContainer.recovers {c : DependsContainer}
    (h : ∀ j ∈ c.data, j.Recoverable depth) :
    Recovers DependsContainer.reading (depth + 7) c.toJson c := by
  obtain ⟨hcurrent, hgroup⟩ := forall_data.1 h
  have hmap {m : OrderedMap DependGroup} (hm : m.All fun g => ∀ j ∈ g.data, j.Recoverable depth) :
      Recovers (Json.Reading.map DependGroup.reading) (depth + 6) (m.toJson DependGroup.toJson) m :=
    recovers_map fun entry hmem => DependGroup.recovers (hm.of_mem hmem)
  refine recovers_record ?_ (by simp)
  exact .cons rfl (hmap hcurrent).set <| .cons rfl (hmap hgroup).set .nil

theorem ModuleInfo.recovers (m : ModuleInfo) :
    Recovers ModuleInfo.reading (depth + 1) m.toJson m := by
  refine recovers_record ?_ (by simp)
  exact .cons rfl (recovers_string m.name).set <| .cons rfl (recovers_string m.desc).set .nil

theorem VersionInfo.recovers (v : VersionInfo) :
    Recovers VersionInfo.reading (depth + 1) v.toJson v := by
  refine recovers_record ?_ (by simp)
  exact .cons rfl (recovers_string v.name).set <| .cons rfl (recovers_string v.desc).set .nil

theorem ProductInfo.recovers (p : ProductInfo) :
    Recovers ProductInfo.reading (depth + 1) p.toJson p := by
  refine recovers_record ?_ (by simp)
  exact .cons rfl (recovers_string p.name).set <|
    .cons rfl (recovers_string p.codeName).set <|
    .cons rfl (recovers_string p.type).set <|
    .cons rfl (recovers_string p.desc).set <|
    .cons rfl (recovers_string p.background).set .nil

namespace Project

variable {p : Project}

/-- A project is recovered from its text, eight levels around its metadata. -/
theorem recovers (h : ∀ j ∈ p.data, j.Recoverable depth) :
    Recovers reading (depth + 8) p.toJson p := by
  have hmodules : Recovers (Json.Reading.map ModuleInfo.reading) (depth + 7)
      (p.modules.toJson ModuleInfo.toJson) p.modules :=
    recovers_map fun entry _ => entry.2.recovers
  refine recovers_record ?_ (by simp)
  exact .cons rfl (recovers_string p.name).set <|
    .cons rfl (recovers_string p.desc).set <|
    .cons rfl p.product.recovers.set <|
    .cons rfl p.version.recovers.set <|
    .cons rfl (DependsContainer.recovers h).set <|
    .cons rfl hmodules.set .nil

end Project

/-! ### From any text -/

theorem Metadata.gives : Gives (fun j => j.1.IsWithin depth) Metadata.reading depth := by
  refine gives_value.bind fun j hj => ?_
  split
  · exact gives_pure hj
  · exact gives_fail _

section Giving

variable (h : Gives P Metadata.reading depth)
include h

theorem Dependency.gives :
    Gives (fun d => ∀ j ∈ d.data, P j) Dependency.reading (depth + 2) := by
  refine gives_record nofun ?_
  simp only [List.forall_mem_cons]
  refine ⟨fun d hd => ?_, fun d hd => ?_, fun d hd => ?_, fun d hd => ?_, nofun⟩
  · exact (gives_true _).put fun name _ => hd
  · exact (gives_true _).put fun version _ => hd
  · exact (gives_true _).put fun desc _ => hd
  · exact h.map.put fun metadata hmetadata => forall_data.2 hmetadata

theorem Depends.gives : Gives (fun d => ∀ j ∈ d.data, P j) Depends.reading (depth + 4) := by
  have hlist : Gives (fun ds => ∀ d ∈ ds, ∀ j ∈ d.data, P j) (list Dependency.reading)
      (depth + 3) :=
    (Dependency.gives h).list
  refine gives_record nofun ?_
  simp only [List.forall_mem_cons]
  refine ⟨fun d hd => ?_, fun d hd => ?_, nofun⟩
  · exact hlist.put fun plugin hplugin => forall_data.2 ⟨hplugin, (forall_data.1 hd).2⟩
  · exact hlist.put fun regular hregular => forall_data.2 ⟨(forall_data.1 hd).1, hregular⟩

theorem DependGroup.gives :
    Gives (fun g => ∀ j ∈ g.data, P j) DependGroup.reading (depth + 5) := by
  refine gives_record nofun ?_
  simp only [List.forall_mem_cons]
  refine ⟨fun g hg => ?_, fun g hg => ?_, fun g hg => ?_, nofun⟩
  · exact (gives_true _).put fun name _ => hg
  · exact (gives_true _).put fun desc _ => hg
  · exact (Depends.gives h).put fun depends hdepends => hdepends

theorem DependsContainer.gives :
    Gives (fun c => ∀ j ∈ c.data, P j) DependsContainer.reading (depth + 7) := by
  have hmap : Gives (OrderedMap.All fun g => ∀ j ∈ g.data, P j)
      (Json.Reading.map DependGroup.reading) (depth + 6) :=
    (DependGroup.gives h).map
  refine gives_record nofun ?_
  simp only [List.forall_mem_cons]
  refine ⟨fun c hc => ?_, fun c hc => ?_, nofun⟩
  · exact hmap.put fun current hcurrent => forall_data.2 ⟨hcurrent, (forall_data.1 hc).2⟩
  · exact hmap.put fun group hgroup => forall_data.2 ⟨(forall_data.1 hc).1, hgroup⟩

/-- What is so of all metadata that is read is so of the metadata of a project that is read. -/
theorem Project.gives : Gives (fun p => ∀ j ∈ p.data, P j) Project.reading (depth + 8) := by
  refine gives_record nofun ?_
  simp only [List.forall_mem_cons]
  refine ⟨fun p hp => ?_, fun p hp => ?_, fun p hp => ?_, fun p hp => ?_, fun p hp => ?_,
    fun p hp => ?_, nofun⟩
  · exact (gives_true _).put fun name _ => hp
  · exact (gives_true _).put fun desc _ => hp
  · exact (gives_true _).put fun product _ => hp
  · exact (gives_true _).put fun version _ => hp
  · exact (DependsContainer.gives h).put fun depends hdepends => hdepends
  · exact (gives_true _).put fun modules _ => hp

end Giving

/-! ### Both -/

namespace Project

theorem run_of_ofJson {p : Project} {text : String} (h : ofJson text = .ok p) :
    run reading text = .ok p := by
  rw [ofJson] at h
  split at h
  next hrun => rw [hrun, Except.ok.inj h]
  next => cases h

/-- The metadata of a project that is read can be read within 119 levels. -/
theorem isWithin_of_ofJson {p : Project} {text : String} (h : ofJson text = .ok p) :
    ∀ j ∈ p.data, j.1.IsWithin 119 :=
  (gives Metadata.gives).run (run_of_ofJson h)

theorem ofJson_print {p : Project} (h : ∀ j ∈ p.data, j.Recoverable 119) :
    ofJson p.toJson.print = .ok p := by
  have hrun : run reading p.toJson.print = .ok p := (recovers h).run
  rw [ofJson, hrun]

/-- A project whose metadata holds no floating point number is read from its own text just when none
of its metadata has more than 119 levels of collections. A project that was read from any text is
read again from its own. -/
theorem reads_back (p : Project) (hfloatless : ∀ j ∈ p.data, j.1.isFloatless = true) :
    ((∀ j ∈ p.data, j.1.fits = true) →
      (ofJson p.toJson.print = .ok p ↔ ∀ j ∈ p.data, j.1.levels ≤ 119)) ∧
    ∀ text, ofJson text = .ok p → ofJson p.toJson.print = .ok p := by
  refine ⟨fun hfits => ⟨fun h j hmem => ?_, fun hlevels => ?_⟩, fun text h => ?_⟩
  · exact (isWithin_of_ofJson h j hmem).levels
  · refine ofJson_print fun j hmem => ⟨⟨j.2, hfits j hmem, hlevels j hmem⟩, ?_⟩
    exact hfloatless j hmem
  · exact ofJson_print fun j hmem => ⟨isWithin_of_ofJson h j hmem, hfloatless j hmem⟩

/-- A project with one dependency, which has nested metadata. -/
def shop : Project where
  name := "shop"
  product.codeName := "bazaar"
  depends.current := .ofList [("web", { depends.regular := [{
    name := "serde"
    metadata := .ofList [
      ("features", ⟨.array [.string "derive", .object [("since", .int 1), ("std", .bool true)]],
        by decide⟩),
      ("lock", ⟨.null, by decide⟩)] }] })]
  modules := .ofList [("core", { name := "Core" }), ("api", { desc := "What is \"public\"" })]

theorem shop_reads_back :
    (∀ j ∈ shop.data, j.1.isFloatless = true ∧ j.1.fits = true ∧ j.1.levels ≤ 119) ∧
      ofJson shop.toJson.print = .ok shop := by
  have hdata : ∀ j ∈ shop.data, j.1.isFloatless = true ∧ j.1.fits = true ∧ j.1.levels ≤ 119 := by
    decide
  refine ⟨hdata, ?_⟩
  have hback := reads_back shop fun j hmem => (hdata j hmem).1
  exact (hback.1 fun j hmem => (hdata j hmem).2.1).2 fun j hmem => (hdata j hmem).2.2

/-- So many arrays in each other, the innermost one around `null`. -/
def arrays : Nat → Json
  | 0 => .null
  | n + 1 => .array [arrays n]

theorem arrays_within (n : Nat) : (arrays n).IsWithin n ∧ (arrays n).isFloatless = true := by
  induction n with
  | zero => exact ⟨⟨rfl, rfl, Nat.le_refl 0⟩, rfl⟩
  | succ n ih =>
    refine ⟨Json.isWithin_array.2 (List.forall_mem_singleton.2 ih.1), ?_⟩
    exact Json.everyItem_iff.2 (List.forall_mem_singleton.2 ih.2)

theorem levels_arrays (n : Nat) : (arrays n).levels = n := by
  induction n with
  | zero => rfl
  | succ n ih => rw [arrays, Json.levels, Json.itemLevels, Json.itemLevels, ih, Nat.max_zero]

/-- A project whose only metadata are 120 arrays in each other. -/
def deep : Project where
  depends.current := .ofList [("web", { depends.regular := [{
    metadata := .ofList [("deep", ⟨arrays 120, (arrays_within 120).1.sorted⟩)] }] })]

/-- Metadata with one level more is written, but not read. -/
theorem deep_is_not_read_back :
    (∀ j ∈ deep.data, j.1.isFloatless = true ∧ j.1.fits = true) ∧
      ofJson deep.toJson.print ≠ .ok deep := by
  have hdata : deep.data = [⟨arrays 120, (arrays_within 120).1.sorted⟩] := rfl
  rw [hdata, List.forall_mem_singleton]
  refine ⟨⟨(arrays_within 120).2, (arrays_within 120).1.fits⟩, fun h => ?_⟩
  have hlevels : (arrays 120).levels ≤ 119 :=
    (isWithin_of_ofJson h _ (hdata ▸ List.mem_singleton_self _)).levels
  rw [levels_arrays] at hlevels
  exact absurd hlevels (by decide)

end Project

end Scaffold

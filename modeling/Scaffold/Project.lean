import Scaffold.Error
import Scaffold.Expr.Value
import Scaffold.Json.Reading

/-!
# Project — what the caller says about the project

Names, product, version, dependency groups and modules of the project that is generated. A
project is given as JSON; whatever is left out is empty. The readers and the writer go through
the same fields in the same order.
-/

set_option autoImplicit false

namespace Scaffold

/-- Generic JSON whose objects are sorted. -/
abbrev Metadata := { j : Json // j.isSorted = true }

/-- One dependency. -/
structure Dependency where
  name : String := ""
  version : String := ""
  desc : String := ""
  metadata : OrderedMap Metadata := .empty

/-- The dependencies of a group. -/
structure Depends where
  plugin : List Dependency := []
  regular : List Dependency := []

/-- A named group of dependencies. -/
structure DependGroup where
  name : String := ""
  desc : String := ""
  depends : Depends := {}

/-- The groups of the project itself and those it knows. -/
structure DependsContainer where
  current : OrderedMap DependGroup := .empty
  group : OrderedMap DependGroup := .empty

/-- A module of the project. -/
structure ModuleInfo where
  name : String := ""
  desc : String := ""
  deriving DecidableEq, Repr

/-- The version of the project. -/
structure VersionInfo where
  name : String := ""
  desc : String := ""
  deriving DecidableEq, Repr

/-- The product that the project belongs to. -/
structure ProductInfo where
  name : String := ""
  codeName : String := ""
  type : String := ""
  desc : String := ""
  background : String := ""
  deriving DecidableEq, Repr

/-- A project. -/
structure Project where
  name : String := ""
  desc : String := ""
  product : ProductInfo := {}
  version : VersionInfo := {}
  depends : DependsContainer := {}
  modules : OrderedMap ModuleInfo := .empty

namespace Project

/-! ## Dependencies -/

/-- The current groups that names stand for, in the order of the names; a name of no group stands
for none, and no name at all for the first group. -/
def currentGroups (p : Project) (names : List String) : List DependGroup :=
  if names.isEmpty then ((p.depends.current.entries.map Prod.snd).take 1)
  else names.filterMap p.depends.current.get?

/-- The regular dependencies of current groups. -/
def currentDepends (p : Project) (names : List String) : List Dependency :=
  (p.currentGroups names).flatMap (·.depends.regular)

/-- The plugin dependencies of current groups. -/
def currentPluginDepends (p : Project) (names : List String) : List Dependency :=
  (p.currentGroups names).flatMap (·.depends.plugin)

/-- A known group. -/
def dependGroup? (p : Project) (name : String) : Option DependGroup :=
  p.depends.group.get? name

end Project

/-! ## Reading -/

open Json (Reading)
open Json.Reading (FieldReader)

/-- Sorted generic JSON; what is read generically is sorted. -/
def Metadata.reading : Reading Metadata := do
  let j ← Reading.value
  if h : j.isSorted = true then return ⟨j, h⟩ else Reading.fail "unsorted object"

/-- A dependency. -/
def Dependency.reading : Reading Dependency :=
  Reading.record "Dependency" {} [
    ⟨"name", fun d => return { d with name := ← Reading.string }⟩,
    ⟨"version", fun d => return { d with version := ← Reading.string }⟩,
    ⟨"desc", fun d => return { d with desc := ← Reading.string }⟩,
    ⟨"metadata", fun d => return { d with metadata := ← Reading.map Metadata.reading }⟩]

/-- The dependencies of a group. -/
def Depends.reading : Reading Depends :=
  Reading.record "Depends" {} [
    ⟨"plugin", fun d => return { d with plugin := ← Reading.list Dependency.reading }⟩,
    ⟨"default", fun d => return { d with regular := ← Reading.list Dependency.reading }⟩]

/-- A group. -/
def DependGroup.reading : Reading DependGroup :=
  Reading.record "DependGroup" {} [
    ⟨"name", fun g => return { g with name := ← Reading.string }⟩,
    ⟨"desc", fun g => return { g with desc := ← Reading.string }⟩,
    ⟨"depends", fun g => return { g with depends := ← Depends.reading }⟩]

/-- The groups of a project. -/
def DependsContainer.reading : Reading DependsContainer :=
  Reading.record "DependsContainer" {} [
    ⟨"current", fun c => return { c with current := ← Reading.map DependGroup.reading }⟩,
    ⟨"group", fun c => return { c with group := ← Reading.map DependGroup.reading }⟩]

/-- A module. -/
def ModuleInfo.reading : Reading ModuleInfo :=
  Reading.record "ModuleInfo" {} [
    ⟨"name", fun m => return { m with name := ← Reading.string }⟩,
    ⟨"desc", fun m => return { m with desc := ← Reading.string }⟩]

/-- A version. -/
def VersionInfo.reading : Reading VersionInfo :=
  Reading.record "VersionInfo" {} [
    ⟨"name", fun v => return { v with name := ← Reading.string }⟩,
    ⟨"desc", fun v => return { v with desc := ← Reading.string }⟩]

/-- A product. -/
def ProductInfo.reading : Reading ProductInfo :=
  Reading.record "ProductInfo" {} [
    ⟨"name", fun p => return { p with name := ← Reading.string }⟩,
    ⟨"codeName", fun p => return { p with codeName := ← Reading.string }⟩,
    ⟨"type", fun p => return { p with type := ← Reading.string }⟩,
    ⟨"desc", fun p => return { p with desc := ← Reading.string }⟩,
    ⟨"background", fun p => return { p with background := ← Reading.string }⟩]

/-- A project. -/
def Project.reading : Reading Project :=
  Reading.record "ProjectInfo" {} [
    ⟨"name", fun p => return { p with name := ← Reading.string }⟩,
    ⟨"desc", fun p => return { p with desc := ← Reading.string }⟩,
    ⟨"product", fun p => return { p with product := ← ProductInfo.reading }⟩,
    ⟨"version", fun p => return { p with version := ← VersionInfo.reading }⟩,
    ⟨"depends", fun p => return { p with depends := ← DependsContainer.reading }⟩,
    ⟨"modules", fun p => return { p with modules := ← Reading.map ModuleInfo.reading }⟩]

/-- The project of a JSON text. -/
def Project.ofJson (text : String) : Except Error Project :=
  match Json.Reading.run Project.reading text with
  | .ok p => .ok p
  | .error fault => .error (.parse fault.line fault.column fault.message)

/-! ## Writing -/

/-- A map as JSON. -/
def OrderedMap.toJson {α : Type} (f : α → Json) (m : OrderedMap α) : Json :=
  .object (m.entries.map fun (name, a) => (name, f a))

/-- A dependency as JSON. -/
def Dependency.toJson (d : Dependency) : Json :=
  .object [
    ("name", .string d.name),
    ("version", .string d.version),
    ("desc", .string d.desc),
    ("metadata", d.metadata.toJson (·.1))]

/-- The dependencies of a group as JSON. -/
def Depends.toJson (d : Depends) : Json :=
  .object [
    ("plugin", .array (d.plugin.map Dependency.toJson)),
    ("default", .array (d.regular.map Dependency.toJson))]

/-- A group as JSON. -/
def DependGroup.toJson (g : DependGroup) : Json :=
  .object [
    ("name", .string g.name),
    ("desc", .string g.desc),
    ("depends", g.depends.toJson)]

/-- The groups of a project as JSON. -/
def DependsContainer.toJson (c : DependsContainer) : Json :=
  .object [
    ("current", c.current.toJson DependGroup.toJson),
    ("group", c.group.toJson DependGroup.toJson)]

/-- A module as JSON. -/
def ModuleInfo.toJson (m : ModuleInfo) : Json :=
  .object [("name", .string m.name), ("desc", .string m.desc)]

/-- A version as JSON. -/
def VersionInfo.toJson (v : VersionInfo) : Json :=
  .object [("name", .string v.name), ("desc", .string v.desc)]

/-- A product as JSON. -/
def ProductInfo.toJson (p : ProductInfo) : Json :=
  .object [
    ("name", .string p.name),
    ("codeName", .string p.codeName),
    ("type", .string p.type),
    ("desc", .string p.desc),
    ("background", .string p.background)]

/-- A project as JSON. -/
def Project.toJson (p : Project) : Json :=
  .object [
    ("name", .string p.name),
    ("desc", .string p.desc),
    ("product", p.product.toJson),
    ("version", p.version.toJson),
    ("depends", p.depends.toJson),
    ("modules", p.modules.toJson ModuleInfo.toJson)]

end Scaffold

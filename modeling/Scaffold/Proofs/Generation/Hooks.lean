import Scaffold.Proofs.Emission.Splicing
import Scaffold.Proofs.Generation.Environment
import Scaffold.Proofs.Generation.Order

/-!
# Hooks — commands find in their environment what expressions are told

A command is handed the environment of the process with the texts on top that the document declares.
Expressions look a variable up in the document first, and then in the process. Both come to the same
(`Hook.variables_get?`), in every state in which commands are run (`commands_find`).

An environment reaches a command as texts with a `=` between name and value, and a declared name may
hold one itself. Such a name is cut short: the command finds its first part as the name, which an
expression does not (`declared_name_is_cut_short`). So a variable is found as it is declared unless a
declared name begins with its name and a `=`.
-/

set_option autoImplicit false

namespace Scaffold

open Scaffold.Expr (Value Run)
open Scaffold.Emission (idle)
open Scaffold.Expr.Library (call callMethod? get_bind oneText theRun)

/-! ## Names and environments -/

/-- A name that a variable of an environment can have. -/
structure IsVariableName (name : String) : Prop where
  nonempty : name ≠ ""
  undivided : '=' ∉ name.toList
  unbroken : '\x00' ∉ name.toList

/-- What a process can have as its environment: variables, each of them once. As an environment is
read, the first character belongs to the name also if it is a `=`. -/
structure IsEnvironment (environment : List (String × String)) : Prop where
  undivided : ∀ entry ∈ environment, '=' ∉ entry.1.toList.tail
  distinct : (environment.map Prod.fst).Nodup

/-- A name begins with another one and a `=`. -/
def BeginsWithName (name key : String) : Prop :=
  name.toList ++ ['='] <+: key.toList

instance (name key : String) : Decidable (BeginsWithName name key) :=
  inferInstanceAs (Decidable (_ <+: _))

/-- The document declares no text under a name that begins with another name and a `=`. -/
def Document.LeavesWhole (d : Document) (name : String) : Prop :=
  ∀ key text, d.declaredEnv? key = some (.text text) → ¬ BeginsWithName name key

namespace OrderedMap

variable {α : Type}

/-- Where a key has one value at most, looking it up finds that value. -/
theorem lookup_eq_some_iff_mem {entries : List (String × α)} {key : String}
    (hunique : ∀ v v', (key, v) ∈ entries → (key, v') ∈ entries → v = v') (value : α) :
    entries.lookup key = some value ↔ (key, value) ∈ entries := by
  refine ⟨mem_of_lookup, fun hmem => ?_⟩
  cases hlookup : entries.lookup key with
  | none =>
    have hne := List.lookup_eq_none_iff.1 hlookup _ hmem
    simp at hne
  | some v => rw [hunique v value (mem_of_lookup hlookup) hmem]

/-- A key that no two entries have has one value at most. -/
theorem value_unique {entries : List (String × α)} (h : (entries.map Prod.fst).Nodup)
    (key : String) (v v' : α) (hv : (key, v) ∈ entries) (hv' : (key, v') ∈ entries) : v = v' :=
  Option.some.inj ((get?_of_mem (m := ⟨entries, h⟩) hv).symm.trans
    (get?_of_mem (m := ⟨entries, h⟩) hv'))

end OrderedMap

open OrderedMap (lookup_eq_some_iff_mem value_unique)

/-! ## What a command finds -/

namespace Hook

theorem found_of_undivided {key : String} (h : '=' ∉ key.toList) (value : String) :
    found (key, value) = (key, value) := by
  have hall : ∀ c ∈ key.toList, (c != '=') = true := fun c hc =>
    bne_iff_ne.2 fun heq => h (heq ▸ hc)
  simp [found, List.takeWhile_append_of_pos hall, List.dropWhile_append_of_pos hall]

/-- An entry is found under its own name, or under one that its name begins with. -/
theorem name_of_found {entry : String × String} {name : String} (h : (found entry).1 = name) :
    entry.1 = name ∨ BeginsWithName name entry.1 := by
  obtain ⟨key, value⟩ := entry
  by_cases hkey : '=' ∈ key.toList
  · obtain ⟨front, behind, hsplit, hfront⟩ := List.eq_append_cons_of_mem hkey
    have hall : ∀ c ∈ front, (c != '=') = true := fun c hc =>
      bne_iff_ne.2 fun heq => hfront (heq ▸ hc)
    have hname : name.toList = front := by
      rw [← h]
      simp [found, hsplit, List.takeWhile_append_of_pos hall]
    refine .inr ⟨behind, ?_⟩
    rw [hname, hsplit]
    simp
  · rw [found_of_undivided hkey] at h
    exact .inl h

/-- A variable is found as it stands in the environment, where no name begins with its name and
a `=`. -/
theorem found_mem_iff {entries : List (String × String)} {name : String}
    (hname : IsVariableName name) (hwhole : ∀ entry ∈ entries, ¬ BeginsWithName name entry.1)
    (value : String) : (name, value) ∈ entries.map found ↔ (name, value) ∈ entries := by
  constructor
  · intro hmem
    obtain ⟨⟨key, v⟩, hentry, hfound⟩ := List.mem_map.1 hmem
    rcases name_of_found (congrArg Prod.fst hfound) with rfl | hbegins
    · rw [found_of_undivided hname.undivided] at hfound
      exact hfound ▸ hentry
    · exact absurd hbegins (hwhole _ hentry)
  · intro hmem
    exact List.mem_map.2 ⟨_, hmem, found_of_undivided hname.undivided value⟩

theorem handedOver_perm (command : Command) (process : List (String × String)) :
    (command.handedOver process).Perm (command.environment process) := by
  rw [Command.handedOver]
  split
  · exact .refl _
  · exact List.mergeSort_perm _ _

/-- The environment of a command holds what the command adds, and of that of the process what has
another name. -/
theorem mem_environment_iff {command : Command} {process : List (String × String)}
    {entry : String × String} : entry ∈ command.environment process ↔
      entry ∈ command.envs ∨ entry ∈ process ∧ entry.1 ∉ command.envs.map Prod.fst := by
  have hkept : (!command.envs.any (·.1 == entry.1)) = true ↔
      entry.1 ∉ command.envs.map Prod.fst := by
    rw [Bool.not_eq_true', List.any_eq_false, List.mem_map]
    constructor
    · rintro hnone ⟨e, he, hsame⟩
      exact hnone e he (beq_iff_eq.2 hsame)
    · exact fun hnone e he hsame => hnone ⟨e, he, beq_iff_eq.1 hsame⟩
  rw [Command.environment, List.mem_append, List.mem_filter, hkept]

theorem environment_nodup {command : Command} {process : List (String × String)}
    (henvs : (command.envs.map Prod.fst).Nodup) (hprocess : (process.map Prod.fst).Nodup) :
    ((command.environment process).map Prod.fst).Nodup := by
  rw [Command.environment, List.map_append]
  refine List.nodup_append.2 ⟨henvs, (List.filter_sublist.map Prod.fst).nodup hprocess, ?_⟩
  rintro name hname _ hother rfl
  obtain ⟨entry, hentry, rfl⟩ := List.mem_map.1 hother
  obtain ⟨e, he, hsame⟩ := List.mem_map.1 hname
  have hadded : command.envs.any (·.1 == entry.1) = true :=
    List.any_eq_true.2 ⟨e, he, beq_iff_eq.2 hsame⟩
  have hkept : (!command.envs.any (·.1 == entry.1)) = true := (List.mem_filter.1 hentry).2
  rw [hadded] at hkept
  cases hkept

/-- A command finds the variable that the command adds, and else that of the process. -/
theorem variables_get?_iff {command : Command} {process : List (String × String)} {name : String}
    (henvs : (command.envs.map Prod.fst).Nodup) (hprocess : IsEnvironment process)
    (hname : IsVariableName name)
    (hwhole : ∀ entry ∈ command.envs, ¬ BeginsWithName name entry.1) (value : String) :
    (command.variables process).get? name = some value ↔
      (name, value) ∈ command.envs ∨
        (name, value) ∈ process ∧ name ∉ command.envs.map Prod.fst := by
  have hperm := handedOver_perm command process
  have hmem (v : String) : (name, v) ∈ ((command.handedOver process).map found).reverse ↔
      (name, v) ∈ command.environment process := by
    rw [List.mem_reverse, found_mem_iff hname, hperm.mem_iff]
    intro entry hentry
    rcases mem_environment_iff.1 (hperm.mem_iff.1 hentry) with hadded | ⟨hinherited, -⟩
    · exact hwhole entry hadded
    · -- a `=` behind a name that is not empty stands behind the first character
      rintro ⟨behind, hbegins⟩
      refine hprocess.undivided entry hinherited ?_
      obtain ⟨first, rest, hfirst⟩ := List.exists_cons_of_ne_nil
        (String.toList_eq_nil_iff.not.2 hname.nonempty)
      rw [← hbegins, hfirst]
      simp
  rw [Command.variables, OrderedMap.get?_ofList, lookup_eq_some_iff_mem, hmem, mem_environment_iff]
  intro v v' hv hv'
  exact value_unique (environment_nodup henvs hprocess.distinct) name v v' ((hmem v).1 hv)
    ((hmem v').1 hv')

end Hook

/-! ## What expressions are told -/

namespace Generation

/-- A command is handed the texts that the document declares. -/
theorem mem_commandEnvs_iff {d : Document} {name text : String} :
    (name, text) ∈ commandEnvs d ↔ d.declaredEnv? name = some (.text text) := by
  rw [commandEnvs, Document.declaredEnv?, List.mem_filterMap]
  cases henvs : d.envs with
  | none => simp [OrderedMap.empty]
  | some m =>
    rw [Option.getD_some, Option.bind_some]
    constructor
    · rintro ⟨⟨key, field⟩, hentry, htext⟩
      cases field with
      | text value =>
        cases htext
        exact OrderedMap.get?_of_mem hentry
      | list values => cases htext
    · intro hget
      exact ⟨(name, .text text), OrderedMap.mem_of_lookup hget, rfl⟩

theorem commandEnvs_nodup (d : Document) : ((commandEnvs d).map Prod.fst).Nodup := by
  refine List.Sublist.nodup ?_ (d.envs.getD .empty).nodup
  rw [commandEnvs]
  induction (d.envs.getD .empty).entries with
  | nil => exact .slnil
  | cons entry entries ih =>
    obtain ⟨key, field⟩ := entry
    cases field with
    | text value => exact ih.cons_cons key
    | list values => exact ih.cons key

/-- A context tells an expression what is declared as a text, and else what the process has. -/
theorem env?_eq_some_iff {c : Context} (hprocess : IsEnvironment c.environment)
    {name value : String} : c.env? name = some value ↔
      (name, value) ∈ commandEnvs c.document ∨
        (name, value) ∈ c.environment ∧ name ∉ (commandEnvs c.document).map Prod.fst := by
  have hdeclared (text : String) : c.declaredEnv? name = some text ↔
      (name, text) ∈ commandEnvs c.document := by
    rw [mem_commandEnvs_iff, Context.declaredEnv?, Document.declaredEnv?]
    cases c.document.envs.bind (·.get? name) with
    | none => simp
    | some field => cases field <;> simp [Field.text?]
  have hinherited := lookup_eq_some_iff_mem (value_unique hprocess.distinct name) value
  rw [Context.env?, ← hinherited]
  cases htext : c.declaredEnv? name with
  | some text =>
    have hmem := (hdeclared text).1 htext
    have hkey : name ∈ (commandEnvs c.document).map Prod.fst := List.mem_map_of_mem hmem
    rw [← hdeclared, htext]
    simp [hkey]
  | none =>
    have hkey : name ∉ (commandEnvs c.document).map Prod.fst := by
      intro hkey
      obtain ⟨⟨key, text⟩, hmem, rfl⟩ := List.mem_map.1 hkey
      rw [(hdeclared text).2 hmem] at htext
      cases htext
    rw [← hdeclared, htext]
    simp [hkey]

theorem leavesWhole_iff {d : Document} {name : String} :
    d.LeavesWhole name ↔ ∀ entry ∈ commandEnvs d, ¬ BeginsWithName name entry.1 :=
  ⟨fun h _ hentry => h _ _ (mem_commandEnvs_iff.1 hentry),
    fun h _ _ htext => h _ (mem_commandEnvs_iff.2 htext)⟩

/-- A command finds a variable as expressions are told it, if no name that is declared for a text
begins with the name of the variable and a `=`. -/
theorem variables_get? {c : Context} (hprocess : IsEnvironment c.environment)
    {command : Hook.Command} (henvs : command.envs = commandEnvs c.document) {name : String}
    (hname : IsVariableName name) (hwhole : c.document.LeavesWhole name) :
    (command.variables c.environment).get? name = c.env? name := by
  have hnodup := commandEnvs_nodup c.document
  have hentries := leavesWhole_iff.1 hwhole
  rw [← henvs] at hnodup hentries
  refine Option.ext fun value => ?_
  rw [Hook.variables_get?_iff hnodup hprocess hname hentries, env?_eq_some_iff hprocess, henvs]

/-! ## In a run -/

/-- What expressions are told in a context when they ask for a variable, by either way to ask. -/
structure Told (c : Context) (name : String) (value : Option String) : Prop where
  context : c.env? name = value
  /-- The function finds the run under the name `this`. -/
  function : ∀ line args s, oneText args = .ok name → s.lookup? "this" = some .context →
    (call line "env" args s).run Context.answer c = (.ok (.text (value.getD ""), s), c)
  method : ∀ line args s, oneText args = .ok name →
    (callMethod? line "env" args s).run Context.answer c =
      (.ok (some (.text (value.getD "")), s), c)

theorem env_told (c : Context) (name : String) : Told c name (c.env? name) where
  context := rfl
  function := by
    intro line args s hargs hthis
    change ((Run.lift line (oneText args) >>= _) s).run Context.answer c = _
    rw [hargs]
    change ((theRun line s).bind _).run Context.answer c = _
    rw [theRun, get_bind, hthis]
    rfl
  method := by
    intro line args s hargs
    change ((Run.lift line (oneText args) >>= _) s).run Context.answer c = _
    rw [hargs]
    rfl

/-- A name that begins with another one and a `=` is declared as a text at any time of a run, or
never. -/
theorem leavesWhole_of_shape {d d' : Document} (h : d'.declaredShape = d.declaredShape)
    {name : String} (hname : d.LeavesWhole name) : d'.LeavesWhole name := by
  intro key text htext
  have hshape : d.declaredShape key = some none := by
    rw [← h, Document.declaredShape, htext]
    rfl
  obtain ⟨text₀, htext₀⟩ := Document.exists_text_of_shape hshape
  exact hname key text₀ htext₀

section Running

variable {σ : Type}

/-- What is handed to a command of a run is what its deed finds declared. -/
theorem envs_of_commands {roots : Emission.Roots} {names : Bindings} {d : Deed} {c : Context}
    {command : Hook.Command} (h : command ∈ d.commands roots names c) :
    command.envs = commandEnvs c.document := by
  cases d with
  | command hooks text =>
    rw [Deed.commands] at h
    split at h
    · split at h
      · cases h
      · rw [List.mem_singleton.1 h]
    · cases h
  | _ => cases h

/-- In every state of a run in which a command is run, before or after the templates, the command
finds a variable as expressions are told it in this state: with the value that they are told, and
not at all if there is none. -/
theorem commands_find (roots : Emission.Roots) (answer : (q : SystemCall) → σ → q.Answer × σ)
    (c : Context) (w : σ) (hprocess : IsEnvironment c.environment) :
    ∃ history,
      Performs answer roots (.standard c.project) (schedule (outline c.document)) c w history
        ((run roots c).run answer w).1.1 ((run roots c).run answer w).1.2
        ((run roots c).run answer w).2 ∧
      (run roots c).asked answer w = history.flatMap Performed.calls ∧
      ∀ p ∈ history, p.start.environment = c.environment ∧
        ∀ command, .execute command ∈ p.calls →
        ∀ name, IsVariableName name → c.document.LeavesWhole name →
        ∀ c' : Context, c'.document = p.start.document → c'.environment = c.environment →
          Told c' name ((command.variables c.environment).get? name) := by
  have henacts : Enacts answer roots (.standard c.project) (run roots)
      (schedule (outline c.document)) c := enacts_run roots c
  obtain ⟨history, hperforms, hcalls⟩ := henacts w
  obtain ⟨hshapes, -⟩ := hperforms.keeps perform_keeps_declaredShape
  refine ⟨history, hperforms, hcalls, fun p hp => ⟨?_, ?_⟩⟩
  · exact (hperforms.keeps perform_keeps_environment).1 p hp
  intro command hcommand name hname hwhole c' hdocument henvironment
  have hmem : command ∈ p.deed.commands roots (.standard c.project) p.start := by
    rw [← (hperforms.conforms p hp).2]
    exact List.mem_filterMap.2 ⟨_, hcommand, rfl⟩
  have henvs : command.envs = commandEnvs c'.document := by
    rw [hdocument]
    exact envs_of_commands hmem
  have hwhole' : c'.document.LeavesWhole name := by
    rw [hdocument]
    exact leavesWhole_of_shape (hshapes p hp) hwhole
  rw [← henvironment] at hprocess ⊢
  rw [variables_get? hprocess henvs hname hwhole']
  exact env_told c' name

/-- What a command of a run is called for by. -/
theorem exists_performed {calls : List SystemCall} {history : List Performed}
    (hcalls : calls = history.flatMap Performed.calls) (command : Hook.Command)
    (h : command ∈ calls.filterMap SystemCall.command?) :
    ∃ p ∈ history, .execute command ∈ p.calls := by
  obtain ⟨call, hcall, hcommand⟩ := List.mem_filterMap.1 h
  rw [hcalls] at hcall
  obtain ⟨p, hp, hcall⟩ := List.mem_flatMap.1 hcall
  refine ⟨p, hp, ?_⟩
  cases call with
  | execute _ =>
    cases hcommand
    exact hcall
  | _ => cases hcommand

end Running

/-- A document that declares variables in all ways, and a command in front of the templates. -/
def declaring : Context where
  document :=
    { envs := some ⟨[("GREETING", .text "\x7b\x7b 'good ' ~ 'day' \x7d\x7d"),
        ("SHELLS", .list ["one", "two"])], by decide⟩
      executes := some { pre := ["env"] } }
  project := {}
  environment := [("GREETING", "hello"), ("SHELLS", "leaked")]

/-- Its command as it is run. -/
def declared : Hook.Command where
  block := "executes-pre"
  shell := "bash -c"
  text := "env"
  envs := [("GREETING", "good day")]
  directory := "out"

/-- It finds the text that was made of the declared one, in place of what the process has; for the
list what the process has; and else nothing. -/
theorem commands_find_declaring :
    ∃ history result c' w', Performs (Machine.answer idle) ⟨"out", "."⟩ (.standard {})
        (schedule (outline declaring.document)) declaring ⟨{}, []⟩ history result c' w' ∧
      ∃ p ∈ history, .execute declared ∈ p.calls ∧ Told p.start "GREETING" (some "good day") ∧
        Told p.start "SHELLS" (some "leaked") ∧ Told p.start "HOME" none := by
  have hprocess : IsEnvironment declaring.environment := ⟨by decide, by decide⟩
  obtain ⟨history, hperforms, hcalls, hfind⟩ := commands_find ⟨"out", "."⟩ (Machine.answer idle)
    declaring ⟨{}, []⟩ hprocess
  obtain ⟨p, hp, hcommand⟩ := exists_performed hcalls declared (by decide +kernel)
  obtain ⟨henvironment, hfind⟩ := hfind p hp
  have htold (name : String) (hname : IsVariableName name)
      (hwhole : ∀ entry ∈ declared.envs ++ commandEnvs declaring.document,
        ¬ BeginsWithName name entry.1)
      (value : Option String)
      (hvalue : ∀ v, (name, v) ∈ declared.envs ∨ (name, v) ∈ declaring.environment ∧
        name ∉ declared.envs.map Prod.fst ↔ value = some v) : Told p.start name value := by
    have hfound : (declared.variables declaring.environment).get? name = value := by
      refine Option.ext fun v => ?_
      rw [Hook.variables_get?_iff (by decide) hprocess hname
        fun entry hentry => hwhole entry (List.mem_append_left _ hentry)]
      exact hvalue v
    rw [← hfound]
    exact hfind declared hcommand name hname
      (leavesWhole_iff.2 fun entry hentry => hwhole entry (List.mem_append_right _ hentry))
      p.start rfl henvironment
  refine ⟨history, _, _, _, hperforms, p, hp, hcommand, ?_, ?_, ?_⟩
  · refine htold _ ⟨by decide, by decide, by decide⟩ (by decide) _ fun v => ?_
    simp [declared, eq_comm]
  · refine htold _ ⟨by decide, by decide, by decide⟩ (by decide) _ fun v => ?_
    simp [declared, declaring, eq_comm]
  · refine htold _ ⟨by decide, by decide, by decide⟩ (by decide) _ fun v => ?_
    simp [declared, declaring]

/-- A document that declares a name with a `=` in it, and a command in front of the templates. -/
def dividing : Context where
  document :=
    { envs := some ⟨[("A=B", .text "c")], by decide⟩
      executes := some { pre := ["env"] } }
  project := {}

/-- Its command as it is run. -/
def divided : Hook.Command := { declared with envs := [("A=B", "c")] }

/-- It finds a variable of which expressions are told nothing. -/
theorem declared_name_is_cut_short :
    IsVariableName "A" ∧
    ∃ history result c' w', Performs (Machine.answer idle) ⟨"out", "."⟩ (.standard {})
        (schedule (outline dividing.document)) dividing ⟨{}, []⟩ history result c' w' ∧
      ∃ p ∈ history, .execute divided ∈ p.calls ∧ p.start.env? "A" = none ∧
        (divided.variables p.start.environment).get? "A" = some "B=c" := by
  have henacts : Enacts (Machine.answer idle) ⟨"out", "."⟩ (.standard {}) (run ⟨"out", "."⟩)
      (schedule (outline dividing.document)) dividing := enacts_run ⟨"out", "."⟩ dividing
  obtain ⟨history, hperforms, hcalls⟩ := henacts ⟨{}, []⟩
  obtain ⟨p, hp, hcommand⟩ := exists_performed hcalls divided (by decide +kernel)
  have henvironment : p.start.environment = [] :=
    (hperforms.keeps perform_keeps_environment).1 p hp
  have hdeclared : p.start.document.declaredEnv? "A" = none :=
    Option.map_eq_none_iff.1
      (congrFun ((hperforms.keeps perform_keeps_declaredShape).1 p hp) "A")
  refine ⟨⟨by decide, by decide, by decide⟩, history, _, _, _, hperforms, p, hp, hcommand, ?_, ?_⟩
  · rw [Context.env?, Context.declaredEnv?, henvironment]
    rw [Document.declaredEnv?] at hdeclared
    rw [hdeclared]
    rfl
  · rw [henvironment]
    decide +kernel

end Generation

end Scaffold

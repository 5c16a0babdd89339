import Scaffold.Document.Read
import Scaffold.Proofs.Failure
import Scaffold.Proofs.Generation.Responses
import Scaffold.Proofs.Import.Acts
import Scaffold.Proofs.OrderedMap
import Scaffold.Proofs.Yaml.Reading
import Scaffold.Script.Executor
import Scaffold.Text.Blank

/-!
# Soundness — what a run over a loaded document cannot end in

Every document that is loaded is sound (`Loader.load_sound`), and no deed of a run makes it unsound
(`perform_keeps_sound`), since the urls and the shell are never written. From a sound document every
deed ends in ordinary errors (`perform_ordinary`): its requests have urls, and its shell has a word
that can be started. So a run over what was loaded never comes to the checks for a missing url or a
missing shell.
-/

set_option autoImplicit false

/-!
## Sound documents

A document is sound if every remote variable that is declared with a request has a url, and its
shell has a word that can be started. That a url is there is checked where a remote variable is
read, and a shell that says nothing is not taken for one; so every document that is read is sound
(`sound_of_ofBytes`), and since remote variables are only ever written over each other, what is
composed of sound documents is sound again (`Sound.compose`).
-/

namespace Scaffold

open Yaml (Reading)

/-- Every remote variable of the section that is declared with a request has a url. -/
def RemoteVars.HaveUrls (vars : RemoteVars) : Prop :=
  vars.All fun spec? => ∀ spec, spec? = some spec → Text.isBlankText spec.url = false

/-- The shell has a word. -/
def Shell.HasWord (shell : Shell) : Prop := Text.words shell.effective ≠ []

/-- Every request of the document has a url, and its shell has a word. -/
structure Document.Sound (d : Document) : Prop where
  urls : ∀ vars, d.remoteVars = some vars → vars.HaveUrls
  shell : d.shell.HasWord

namespace Document

/-- Every request that a run can find has a url. -/
theorem Sound.url {d : Document} (h : d.Sound) {name : String} {spec : RemoteSpec}
    (hspec : d.remoteSpec? name = some spec) : Text.isBlankText spec.url = false := by
  obtain ⟨vars, hvars, hjoin⟩ := Option.bind_eq_some_iff.1 hspec
  exact h.urls vars hvars name (some spec) (Option.join_eq_some_iff.1 hjoin) spec rfl

theorem sound_of_url {d : Document}
    (hurl : ∀ name spec, d.remoteSpec? name = some spec → Text.isBlankText spec.url = false)
    (hshell : d.shell.HasWord) : d.Sound where
  urls vars hvars name spec? hget spec hspec := by
    refine hurl name spec (Option.bind_eq_some_iff.2 ⟨vars, hvars, ?_⟩)
    rw [hget, hspec]
    rfl
  shell := hshell

end Document

/-! ### What is read -/

theorem RemoteVars.reading_gives : Reading.Gives RemoteVars.HaveUrls RemoteVars.reading := by
  refine Yaml.Reading.gives_mapping OrderedMap.all_empty fun vars path hvars => ?_
  refine Yaml.Reading.gives_bind fun name => Yaml.Reading.gives_bind fun spec? => ?_
  by_cases hmissing : (spec?.any fun spec => Text.isBlankText spec.url) = true
  · rw [if_pos hmissing]
    exact (Yaml.Reading.gives_refuse (R := fun _ => False) _).bind nofun
  · rw [if_neg hmissing]
    refine Yaml.Reading.gives_pure (hvars.set name fun spec hspec => ?_)
    rw [hspec, Option.any_some] at hmissing
    exact Bool.eq_false_iff.2 hmissing

/-- A shell that is declared has a word, since one that is blank counts as none. -/
theorem Shell.hasWord_declare (text : Option String) :
    Shell.HasWord ⟨(text.map Text.trim).filter (!·.isEmpty)⟩ := by
  rw [HasWord, effective]
  cases hdeclared : (text.map Text.trim).filter (!·.isEmpty) with
  | none =>
    have hstandard : Text.isBlankText standard = false := by decide
    exact Text.words_ne_nil hstandard
  | some declared =>
    obtain ⟨htrimmed, hsome⟩ := Option.filter_eq_some_iff.1 hdeclared
    obtain ⟨own, -, rfl⟩ := Option.map_eq_some_iff.1 htrimmed
    exact Text.words_ne_nil (Text.isBlankText_trim (by simpa using hsome))

theorem Shell.hasWord_of_ofYaml? {value : Yaml.Value} {shell : Shell}
    (h : Shell.ofYaml? value = some shell) : shell.HasWord := by
  cases value with
  | null | string | mapping =>
    obtain rfl := Option.some.inj h
    exact hasWord_declare _
  | _ => cases h

theorem Shell.reading_gives : Reading.Gives Shell.HasWord Shell.reading := by
  refine Yaml.Reading.gives_bind fun value => ?_
  split
  next h => exact Yaml.Reading.gives_pure (hasWord_of_ofYaml? h)
  next => exact Yaml.Reading.gives_refuse _

namespace Document

/-- Nothing is missing in the document that declares nothing. -/
theorem sound_default : Sound {} where
  urls := nofun
  shell := Shell.hasWord_declare none

/-- Each field is read on its own: those for remote variables and the shell are checked, and the
others leave these two alone. -/
theorem reading_gives : Reading.Gives Sound Document.reading := by
  refine Yaml.Reading.gives_record sound_default fun name r hfield d hd => ?_
  have hother {α : Type} (x : Reading α) (put : Document → α → Document)
      (hput : ∀ a, (put d a).remoteVars = d.remoteVars ∧ (put d a).shell = d.shell) :
      Reading.Gives Sound (x >>= fun a => pure (put d a)) := by
    refine Yaml.Reading.gives_bind fun a => Yaml.Reading.gives_pure ?_
    exact ⟨(hput a).1 ▸ hd.urls, (hput a).2 ▸ hd.shell⟩
  split at hfield <;> cases hfield
  · exact hother _ (fun d imports => { d with imports }) fun _ => ⟨rfl, rfl⟩
  · exact hother _ (fun d envs => { d with envs }) fun _ => ⟨rfl, rfl⟩
  · exact hother _ (fun d vars => { d with vars }) fun _ => ⟨rfl, rfl⟩
  · exact RemoteVars.reading_gives.optional.bind fun vars hvars =>
      Yaml.Reading.gives_pure ⟨hvars, hd.shell⟩
  · exact hother _ (fun d templates => { d with templates }) fun _ => ⟨rfl, rfl⟩
  · exact hother _ (fun d executes => { d with executes }) fun _ => ⟨rfl, rfl⟩
  · exact Shell.reading_gives.bind fun shell hshell =>
      Yaml.Reading.gives_pure ⟨hd.urls, hshell⟩
  · exact hother _ (fun d comments => { d with comments }) fun _ => ⟨rfl, rfl⟩

/-- Every document that is read is sound. -/
theorem sound_of_ofBytes {content : Bytes} {d : Document} (h : Document.ofBytes content = .ok d) :
    d.Sound := by
  rw [ofBytes] at h
  split at h
  · cases h
    exact sound_default
  · rw [readYaml] at h
    split at h
    next hread =>
      cases h
      exact Yaml.Stream.read_gives reading_gives hread
    next => cases h

/-! ### What is composed -/

/-- A section over another one has the urls of both. -/
theorem haveUrls_overlay {base upper : Option RemoteVars}
    (hbase : ∀ vars, base = some vars → RemoteVars.HaveUrls vars)
    (hupper : ∀ vars, upper = some vars → RemoteVars.HaveUrls vars) :
    ∀ vars, overlay base upper = some vars → RemoteVars.HaveUrls vars := by
  intro vars h
  cases base with
  | none => exact hupper vars h
  | some base =>
    cases upper with
    | none => exact hbase vars h
    | some upper =>
      cases h
      exact OrderedMap.All.setAll (hbase base rfl) fun entry hmem =>
        OrderedMap.All.of_mem (hupper upper rfl) hmem

theorem Sound.merge {d other : Document} (hd : d.Sound) (hother : other.Sound) :
    (d.merge other).Sound where
  urls := haveUrls_overlay hd.urls hother.urls
  shell := hd.shell

/-- A sound document on top of sound imports is sound. -/
theorem Sound.compose {imported : List Document} {d : Document}
    (himported : ∀ i ∈ imported, i.Sound) (hd : d.Sound) : (Document.compose imported d).Sound := by
  have hbase (start : Document) (hstart : start.Sound) :
      (imported.foldl Document.merge start).Sound := by
    induction imported generalizing start with
    | nil => exact hstart
    | cons i imported ih =>
      exact ih (fun j hj => himported j (List.mem_cons_of_mem i hj)) _
        (hstart.merge (himported i List.mem_cons_self))
  exact Sound.merge ⟨(hbase {} sound_default).urls, hd.shell⟩ hd

end Document

end Scaffold

namespace Scaffold

/-! ## The shell -/

namespace Hook

/-- What comes of a command in its shell: the first word of the shell is started with the other
words. -/
def viaShell (start : String → List String → Except FileFault Finished) (c : Command) : Outcome :=
  match c.shellWords with
  | [] => ⟨[], some .noShell⟩
  | program :: words => c.outcome program (start program words)

/-- A shell that has a word is not missing. -/
theorem viaShell_fault_ne (start : String → List String → Except FileFault Finished) {c : Command}
    (h : c.shellWords ≠ []) : (viaShell start c).fault ≠ some .noShell := by
  rw [viaShell]
  split
  next hnone => exact absurd hnone h
  next program words _ =>
    cases start program words with
    | error fault => exact nofun
    | ok finished =>
      rw [Command.outcome]
      dsimp only
      split <;> exact nofun

end Hook

/-- Commands are run in their shells, whatever comes of starting a program. -/
def RunsInShells {σ : Type} (answer : (q : SystemCall) → σ → q.Answer × σ) : Prop :=
  ∀ command s, ∃ start, (answer (.execute command) s).1 = Hook.viaShell start command

/-- A machine on which commands are scripts runs them in their shells. -/
theorem Machine.runsInShells
    (network : List SystemCall → Http.Request → Except String Http.Reply)
    (process : List (String × String)) :
    RunsInShells (Machine.answer ⟨network, Script.execute process⟩) := by
  intro command m
  refine ⟨fun program words => (Script.start process command program words m.tree).map Prod.fst, ?_⟩
  change (Script.execute process command m.tree).1 = _
  rw [Script.execute, Hook.viaShell]
  cases command.shellWords with
  | nil => rfl
  | cons program words =>
    dsimp only
    cases Script.start process command program words m.tree <;> rfl

/-! ## Loading -/

/-- Every document that is loaded is sound, whatever it imports. -/
theorem Loader.load_sound {σ : Type} (l : Loader (StateM σ)) {source : Source} {room : Nat} {s : σ}
    {d : Document} (h : ((l.load source room).run s).1 = .ok d) : d.Sound :=
  l.load_gives (fun _ _ => Document.sound_of_ofBytes)
    (fun _ _ himported hd => Document.Sound.compose himported hd) h

namespace Generation

/-! ## Deeds leave documents sound -/

/-- A document with the same declarations of remote variables and the same shell is sound too. -/
theorem sound_congr {d d' : Document}
    (hvars : d'.withoutResponses.remoteVars = d.withoutResponses.remoteVars)
    (hshell : d'.shell = d.shell) (h : d.Sound) : d'.Sound := by
  refine Document.sound_of_url (fun name spec hspec => ?_) (hshell ▸ h.shell)
  have hsame : (d'.remoteSpec? name).map RemoteSpec.withoutResponse =
      (d.remoteSpec? name).map RemoteSpec.withoutResponse := by
    rw [← Document.remoteSpec?_withoutResponses, ← Document.remoteSpec?_withoutResponses,
      Document.remoteSpec?, Document.remoteSpec?, hvars]
  rw [hspec, Option.map_some] at hsame
  obtain ⟨declared, hdeclared, hurl⟩ := Option.map_eq_some_iff.1 hsame.symm
  have hsameUrl : declared.withoutResponse.url = spec.withoutResponse.url :=
    congrArg RemoteSpec.url hurl
  exact (show declared.url = spec.url from hsameUrl) ▸ h.url hdeclared

section Deeds

variable {roots : Emission.Roots} {names : Bindings}

/-- No deed makes a document unsound: what it writes are values of fields and responses. -/
theorem perform_keeps_sound (d : Deed) {c : Context} (h : c.document.Sound) :
    (d.perform roots names c).Yields fun r => r.2.document.Sound := by
  have hset (s : Section) (d : Document) (key : String) (field : Field) :
      ((s.set d key field).withoutResponses.remoteVars, (s.set d key field).shell) =
        (d.withoutResponses.remoteVars, d.shell) := by cases s <;> rfl
  have hresponse (d : Document) (name : String) (response : Response) :
      ((d.setResponse name response).withoutResponses.remoteVars,
          (d.setResponse name response).shell) = (d.withoutResponses.remoteVars, d.shell) := by
    have hsame := Document.withoutResponses_setResponse d name response
    exact congrArg (fun d : Document => (d.remoteVars, d.shell)) hsame
  refine (perform_keeps_of_set (g := fun d => (d.withoutResponses.remoteVars, d.shell)) hset
    hresponse d c).mono fun r hr => ?_
  exact sound_congr (Prod.mk.inj hr).1 (Prod.mk.inj hr).2 h

/-! ## Deeds end in ordinary errors -/

section Running

variable {σ : Type} {answer : (q : SystemCall) → σ → q.Answer × σ}

/-- A command fails as what has run it says. -/
theorem run_perform (command : Hook.Command) (w : σ) :
    ((perform command).run answer w).1 =
      match (answer (.execute command) w).1.fault with
      | none => .ok ()
      | some fault => .error (.hook fault) := by
  rw [perform]
  refine (congrArg Prod.fst (Dialogue.run_bind answer (System.reportAll _) _ _)).trans ?_
  cases (answer (.execute command) w).1.fault <;> rfl

/-- A command whose shell has a word is not said to have no shell. -/
theorem runCommand_ordinary (hshells : RunsInShells answer) (phase : Phase) (output : String)
    (envs : List (String × String)) (text : String) {c : Context} (h : c.document.Sound) (w : σ) :
    ErrorIn Error.Ordinary ((runCommand phase output envs names text c).run answer w).1.1 := by
  have hthrows := Prepared.trimmed_throws text names (c.enter phase phase.text (.text text))
  cases hline : Prepared.trimmed text names (c.enter phase phase.text (.text text)) with
  | mk result c' =>
    rw [hline] at hthrows
    cases result with
    | error e =>
      rw [runCommand_of_error hline]
      exact Error.OfEvaluation.ordinary hthrows
    | ok line =>
      rw [runCommand_of_ok hline]
      split
      · trivial
      · rw [Work.run_ofSystem, run_perform]
        obtain ⟨start, hstart⟩ := hshells ⟨phase.text, c.document.shell.effective, line, envs,
          output⟩ w
        rw [hstart]
        cases hfault : (Hook.viaShell start _).fault with
        | none => trivial
        | some fault =>
          cases fault with
          | noShell => exact absurd hfault (Hook.viaShell_fault_ne start h.shell)
          | _ => trivial

/-- From a sound document, every deed ends in ordinary errors. -/
theorem perform_ordinary (hshells : RunsInShells answer) (d : Deed) {c : Context}
    (h : c.document.Sound) (w : σ) :
    ErrorIn Error.Ordinary ((d.perform roots names c).run answer w).1.1 := by
  have hends : ErrorIn (d.EndsIn c.document) ((d.perform roots names c).run answer w).1.1 :=
    (perform_throws d c).run w
  cases d with
  | resolve s key => exact hends.mono fun _ => Error.OfEvaluation.ordinary
  | request name =>
    refine hends.mono fun e he => ?_
    obtain ⟨spec, hspec, he⟩ := he
    exact he.ordinary (h.url hspec)
  | makeOutput =>
    refine hends.mono fun e he => ?_
    obtain ⟨reason, rfl⟩ := he
    trivial
  | command hooks text =>
    exact Work.errorIn_bind_pure (runCommand_ordinary hshells hooks.phase roots.output
      (commandEnvs c.document) text h w)
  | survey template spec => exact hends.mono fun _ => Error.OfTemplate.ordinary
  | emit template spec row => exact hends.mono fun _ => Error.OfTemplate.ordinary

/-- Deeds that are performed from a sound document come to an ordinary error at most. -/
theorem Performs.ordinary (hshells : RunsInShells answer)
    {ds : List Deed} {c c' : Context} {w w' : σ} {history : List Performed}
    {result : Except Error Unit}
    (h : Performs answer roots names ds c w history result c' w') (hc : c.document.Sound) :
    ErrorIn Error.Ordinary result := by
  induction h with
  | finished => trivial
  | @failed d ds c c' w w' e h =>
    have hd : ErrorIn Error.Ordinary ((d.perform roots names c).run answer w).1.1 :=
      perform_ordinary hshells d hc w
    rw [h] at hd
    exact hd
  | next h rest ih => exact ih ((perform_keeps_sound _ hc).of_run_eq h)

end Running

end Deeds

/-! ## Runs over what was loaded -/

/-- A loaded document has a url for every request and a shell that can be started; a run over it,
in which commands are run in their shells, finds neither a url nor a shell missing. -/
theorem loaded_run_lacks_nothing {σ : Type} (l : Loader (StateM σ)) {source : Source} {room : Nat}
    {s : σ} {d : Document} (h : ((l.load source room).run s).1 = .ok d) :
    (∀ name spec, d.remoteSpec? name = some spec → Text.isBlankText spec.url = false) ∧
    Text.words d.shell.effective ≠ [] ∧
    ∀ {τ : Type} (answer : (q : SystemCall) → τ → q.Answer × τ), RunsInShells answer →
      ∀ (roots : Emission.Roots) (c : Context) (w : τ), c.document = d →
        (∀ name, ((run roots c).run answer w).1.1 ≠ .error (.remoteVar name .missingUrl)) ∧
        ((run roots c).run answer w).1.1 ≠ .error (.hook .noShell) := by
  have hsound : d.Sound := l.load_sound h
  refine ⟨fun name spec hspec => hsound.url hspec, hsound.shell, ?_⟩
  rintro τ answer hshells roots c w rfl
  have henacts : Enacts answer roots (.standard c.project) (run roots)
      (schedule (outline c.document)) c := enacts_run roots c
  obtain ⟨history, hperforms, -⟩ := henacts w
  have hordinary := hperforms.ordinary hshells hsound
  constructor
  · intro name hmissing
    rw [hmissing] at hordinary
    exact hordinary
  · intro hmissing
    rw [hmissing] at hordinary
    exact hordinary

/-- A loader of two documents: one that declares a shell for another platform and a command, and one
with a request that it imports. -/
def equipped : Loader (StateM Nat) where
  fetch source n :=
    (match source with
      | .file "a" => .ok (Utf8.ofString
          "import: [b]\nshell: \x7bwindows: cmd\x7d\nexecutes: \x7bpre: [pwd]\x7d\n")
      | _ => .ok (Utf8.ofString "remoteVars: \x7br: \x7burl: x\x7d\x7d\n"), n + 1)
  identity source := pure source.text

/-- The request that is imported has a url, the command falls back on a shell, and a run over the
document lacks neither. -/
theorem loaded_run_lacks_nothing_equipped :
    ∃ d spec, ((equipped.load (.file "a") 2).run 0).1 = .ok d ∧
      d.remoteSpec? "r" = some spec ∧ Text.isBlankText spec.url = false ∧
      Text.words d.shell.effective ≠ [] ∧
      ∀ m : Machine,
        ((run ⟨"out", "."⟩ { document := d, project := {} }).run
          (Machine.answer ⟨fun _ _ => .error "offline", Script.execute []⟩) m).1.1 ≠
            .error (.hook .noShell) := by
  have hloads : (((equipped.load (.file "a") 2).run 0).1.toOption.bind
      (·.remoteSpec? "r")).isSome = true := by decide +kernel
  cases h : ((equipped.load (.file "a") 2).run 0).1 with
  | error e =>
    rw [h] at hloads
    cases hloads
  | ok d =>
    rw [h] at hloads
    obtain ⟨spec, hspec⟩ := Option.isSome_iff_exists.1 hloads
    obtain ⟨hurls, hwords, hruns⟩ := loaded_run_lacks_nothing equipped h
    refine ⟨d, spec, rfl, hspec, hurls "r" spec hspec, hwords, fun m => ?_⟩
    exact (hruns _ (Machine.runsInShells _ []) ⟨"out", "."⟩ _ m rfl).2

end Generation

end Scaffold

import Scaffold.Proofs.Encoding
import Scaffold.Proofs.Occurrences
import Scaffold.Remote.Pipeline

/-!
# Stages — what a pipeline carries from stage to stage

A payload remembers no more than its value shows: what a stage does with it, it does with the bytes
that the value spells (`Stage.run_spelled`). The one exception is a JSON stage behind a JSON stage,
which hands the value on and does not read its text again. So two parser texts in a row are the
second one run on what the first one spells (`run_bar`).

How a parser text is written does not matter beyond the names of its stages in lower case: pieces
of blanks name no stage, and blanks around a name and the case of its letters make no other stage
(`stageNames_of_respelled`). An unknown stage is a fault of its own, which is met behind stages that
were all passed (`foldlM_eq_unknownStage_iff`).
-/

set_option autoImplicit false

namespace Scaffold

/-! ## JSON values are told apart -/

mutual

/-- No two JSON values become the same value. -/
theorem Json.toValue_inj : ∀ {j k : Json}, j.toValue = k.toValue → j = k
  | .null, k, h => by cases k <;> simp_all [Json.toValue, Expr.Value.number, Expr.Value.text]
  | .bool b, k, h => by cases k <;> simp_all [Json.toValue, Expr.Value.number, Expr.Value.text]
  | .int n, k, h => by cases k <;> simp_all [Json.toValue, Expr.Value.number, Expr.Value.text]
  | .float x, k, h => by cases k <;> simp_all [Json.toValue, Expr.Value.number, Expr.Value.text]
  | .string s, k, h => by cases k <;> simp_all [Json.toValue, Expr.Value.number, Expr.Value.text]
  | .array items, k, h => by
    cases k with
    | array items' =>
      simp only [Json.toValue, Expr.Value.seq.injEq, and_true] at h
      rw [Json.itemsToValues_inj h]
    | _ => simp [Json.toValue, Expr.Value.number, Expr.Value.text] at h
  | .object members, k, h => by
    cases k with
    | object members' =>
      simp only [Json.toValue, Expr.Value.map.injEq, and_true] at h
      rw [Json.membersToValues_inj h]
    | _ => simp [Json.toValue, Expr.Value.number, Expr.Value.text] at h

theorem Json.itemsToValues_inj :
    ∀ {js ks : List Json}, Json.itemsToValues js = Json.itemsToValues ks → js = ks
  | [], ks, h => by cases ks <;> simp_all [Json.itemsToValues]
  | j :: js, ks, h => by
    cases ks with
    | nil => simp [Json.itemsToValues] at h
    | cons k ks =>
      simp only [Json.itemsToValues, List.cons.injEq] at h
      rw [Json.toValue_inj h.1, Json.itemsToValues_inj h.2]

theorem Json.membersToValues_inj : ∀ {ms ns : List (String × Json)},
    Json.membersToValues ms = Json.membersToValues ns → ms = ns
  | [], ns, h => by
    cases ns with
    | nil => rfl
    | cons n ns =>
      obtain ⟨name, k⟩ := n
      simp [Json.membersToValues] at h
  | (name, j) :: ms, ns, h => by
    cases ns with
    | nil => simp [Json.membersToValues] at h
    | cons n ns =>
      obtain ⟨name', k⟩ := n
      simp only [Json.membersToValues, List.cons.injEq, Prod.mk.injEq, Expr.Value.text,
        Expr.Value.string.injEq, and_true] at h
      rw [h.1.1, Json.toValue_inj h.1.2, Json.membersToValues_inj h.2]

end

namespace Pipeline

open Scaffold.Text (Blanks)

/-! ## What a value spells -/

/-- The bytes that a value of a pipeline spells: bytes themselves, a text in UTF-8, and a JSON value
that is not a text as its compact text. -/
inductive Spells : Expr.Value → Bytes → Prop
  | bytes (b : Bytes) : Spells (.bytes b) b
  | text (s : String) : Spells (.text s) (Utf8.ofString s)
  | json {j : Json} (h : ∀ s, j ≠ .string s) : Spells j.toValue (Utf8.ofString j.print)

/-- The bytes that the value of a payload spells. -/
def Payload.spelled : Payload → Bytes
  | .bytes b => b
  | p => Utf8.ofString p.readable

theorem Payload.spells_spelled (p : Payload) : Spells p.toValue p.spelled := by
  cases p with
  | bytes b => exact .bytes b
  | text s => exact .text s
  | json j =>
    cases j with
    | string s => exact .text s
    | null => exact Spells.json (j := .null) nofun
    | bool b => exact Spells.json (j := .bool b) nofun
    | int n => exact Spells.json (j := .int n) nofun
    | float x => exact Spells.json (j := .float x) nofun
    | array items => exact Spells.json (j := .array items) nofun
    | object members => exact Spells.json (j := .object members) nofun

/-- What a JSON value that is a text stands for is told apart from what every other one does. -/
theorem eq_string_of_toValue {j : Json} {s : String} (h : j.toValue = .text s) : j = .string s :=
  Json.toValue_inj (k := .string s) h

theorem toValue_ne_bytes (j : Json) (b : Bytes) : j.toValue ≠ .bytes b := by
  cases j <;> simp [Json.toValue, Expr.Value.number, Expr.Value.text]

/-- Payloads with the same value spell the same. -/
theorem Payload.spelled_eq {p p' : Payload} (h : p.toValue = p'.toValue) :
    p.spelled = p'.spelled := by
  cases p with
  | bytes b =>
    cases p' with
    | bytes b' => exact Expr.Value.bytes.inj h
    | text s' => exact nomatch (show Expr.Value.bytes b = .string s' false from h)
    | json j' => exact absurd h.symm (toValue_ne_bytes j' b)
  | text s =>
    cases p' with
    | bytes b' => exact nomatch (show Expr.Value.string s false = .bytes b' from h)
    | text s' => rw [(Expr.Value.string.inj h).1]
    | json j' =>
      rw [eq_string_of_toValue h.symm]
      rfl
  | json j =>
    cases p' with
    | bytes b' => exact absurd h (toValue_ne_bytes j b')
    | text s' =>
      rw [eq_string_of_toValue h]
      rfl
    | json j' => rw [Json.toValue_inj h]

theorem Spells.exists_payload {v : Expr.Value} {b : Bytes} (h : Spells v b) :
    ∃ p : Payload, p.toValue = v ∧ p.spelled = b := by
  cases h with
  | bytes b => exact ⟨.bytes b, rfl, rfl⟩
  | text s => exact ⟨.text s, rfl, rfl⟩
  | @json j h =>
    refine ⟨.json j, rfl, ?_⟩
    cases j with
    | string s => exact absurd rfl (h s)
    | _ => rfl

/-- A value spells one byte string. -/
theorem Spells.unique {v : Expr.Value} {b b' : Bytes} (h : Spells v b) (h' : Spells v b') :
    b' = b := by
  obtain ⟨p, hp, rfl⟩ := h.exists_payload
  obtain ⟨p', hp', rfl⟩ := h'.exists_payload
  exact Payload.spelled_eq (hp'.trans hp.symm)

/-! ## Stages -/

/-- A payload is read as the bytes that it spells are. -/
theorem Payload.readable_spelled (p : Payload) :
    (Payload.bytes p.spelled).readable = p.readable := by
  cases p with
  | bytes b => rfl
  | text s => exact Utf8.toStringLossy_ofString s
  | json j => exact Utf8.toStringLossy_ofString _

/-- A stage does with a payload what it does with the bytes that the payload spells, unless it
would read a JSON value again. -/
theorem Stage.run_spelled {stage : Stage} {p : Payload}
    (h : stage = .json → ∀ j, p ≠ .json j) :
    stage.run p = stage.run (.bytes p.spelled) := by
  have hread := p.readable_spelled
  have htrimmed : (Payload.bytes p.spelled).trimmed = p.trimmed := by
    rw [Payload.trimmed, hread, Payload.trimmed]
  cases stage with
  | json =>
    cases p with
    | json j => exact absurd rfl (h rfl j)
    | bytes b => rfl
    | text s => simp only [Stage.run, hread]
  | text => simp only [Stage.run, hread]
  | hex => simp only [Stage.run, htrimmed]
  | base64 => simp only [Stage.run, htrimmed]

theorem Stage.ofName?_eq_json_iff {name : String} :
    Stage.ofName? name = some .json ↔ name = "json" := by
  unfold Stage.ofName?
  split
  next h => simp [eq_of_beq h]
  next h =>
    refine ⟨fun hname => ?_, fun hname => absurd (beq_iff_eq.2 hname) h⟩
    split at hname
    · cases hname
    · split at hname
      · cases hname
      · split at hname <;> cases hname

theorem runNamed_spelled {name : String} {p : Payload} (h : name = "json" → ∀ j, p ≠ .json j) :
    runNamed p name = runNamed (.bytes p.spelled) name := by
  unfold runNamed
  split
  next stage hstage =>
    refine Stage.run_spelled fun hjson => h (Stage.ofName?_eq_json_iff.1 ?_)
    rw [hstage, hjson]
  next => rfl

/-- Only a JSON stage ends with a JSON value, and no stage ends with the fault of an unknown one. -/
theorem Stage.run_result (stage : Stage) (p : Payload) :
    (∀ j, stage.run p = .ok (.json j) → stage = .json) ∧
      ∀ n, stage.run p ≠ .error (.unknownStage n) := by
  cases stage with
  | json =>
    refine ⟨fun _ _ => rfl, fun n => ?_⟩
    cases p with
    | json j => exact nofun
    | bytes b =>
      simp only [Stage.run]
      split <;> exact nofun
    | text s =>
      simp only [Stage.run]
      split <;> exact nofun
  | text => exact ⟨nofun, nofun⟩
  | hex =>
    simp only [Stage.run]
    split <;> exact ⟨nofun, nofun⟩
  | base64 =>
    simp only [Stage.run]
    split <;> exact ⟨nofun, nofun⟩

theorem eq_json_of_runNamed {name : String} {p : Payload} {j : Json}
    (h : runNamed p name = .ok (.json j)) : name = "json" := by
  unfold runNamed at h
  split at h
  next stage hstage =>
    rw [(stage.run_result p).1 j h] at hstage
    exact Stage.ofName?_eq_json_iff.1 hstage
  next => cases h

theorem runNamed_eq_unknownStage_iff {p : Payload} {name n : String} :
    runNamed p name = .error (.unknownStage n) ↔ name = n ∧ Stage.ofName? name = none := by
  unfold runNamed
  split
  next stage hstage =>
    refine ⟨fun h => absurd h ((stage.run_result p).2 n), fun h => ?_⟩
    rw [hstage] at h
    cases h.2
  next hnone => simp [hnone]

/-! ## Rows of stages -/

/-- A row of stages that ends with a JSON value ends in a JSON stage. -/
theorem getLast?_of_foldlM {names : List String} {body : Bytes} {j : Json}
    (h : names.foldlM runNamed (.bytes body) = .ok (.json j)) :
    names.getLast? = some "json" := by
  cases names using List.reverseRecOn with
  | nil => cases h
  | append_singleton front name =>
    rw [List.foldlM_append] at h
    rw [List.getLast?_append, List.getLast?_singleton, Option.some_or]
    cases hfront : front.foldlM runNamed (.bytes body) with
    | error fault =>
      rw [hfront] at h
      cases h
    | ok p =>
      rw [hfront] at h
      change [name].foldlM runNamed p = .ok (.json j) at h
      simp only [List.foldlM_cons, List.foldlM_nil, bind_pure] at h
      exact congrArg some (eq_json_of_runNamed h)

/-- A row of stages does with a payload what it does with the bytes that the payload spells, unless
it begins by reading a JSON value again. -/
theorem foldlM_spelled {names : List String} {p : Payload} (hne : names ≠ [])
    (h : names.head? = some "json" → ∀ j, p ≠ .json j) :
    names.foldlM runNamed p = names.foldlM runNamed (.bytes p.spelled) := by
  cases names with
  | nil => exact absurd rfl hne
  | cons name names =>
    rw [List.foldlM_cons, List.foldlM_cons,
      runNamed_spelled fun hname => h (congrArg some hname)]

/-- The stages of two parser texts with a bar between them are those of one and then those of the
other. -/
theorem stageNames_bar (p q : String) :
    stageNames (p ++ "|" ++ q) = stageNames p ++ stageNames q := by
  have hchars : (p ++ "|" ++ q).toList = p.toList ++ '|' :: q.toList := by
    rw [String.toList_append, String.toList_append, List.append_assoc]
    rfl
  rw [stageNames, hchars, Occurrences.split_append_cons, List.map_append, List.filter_append]
  rfl

theorem run_eq (parser : String) (body : Bytes) :
    run parser body =
      ((stageNames parser).foldlM runNamed (.bytes body)).map Payload.toValue := by
  unfold run
  cases (stageNames parser).foldlM runNamed (.bytes body) <;> rfl

/-- What fails in front fails the whole. -/
theorem run_bar_of_error {p q : String} {body : Bytes} {fault : Fault}
    (h : run p body = .error fault) : run (p ++ "|" ++ q) body = .error fault := by
  rw [run_eq] at h ⊢
  rw [stageNames_bar, List.foldlM_append]
  cases hp : (stageNames p).foldlM runNamed (.bytes body) with
  | error fault' =>
    rw [hp] at h
    exact h
  | ok payload =>
    rw [hp] at h
    cases h

/-- What is behind a bar runs on the bytes that the value in front of it spells. -/
theorem run_bar_of_ok {p q : String} {body : Bytes} {v : Expr.Value} (hq : stageNames q ≠ [])
    (hjson : ¬((stageNames p).getLast? = some "json" ∧ (stageNames q).head? = some "json"))
    (h : run p body = .ok v) :
    ∃ b, Spells v b ∧ run (p ++ "|" ++ q) body = run q b := by
  rw [run_eq] at h
  cases hp : (stageNames p).foldlM runNamed (.bytes body) with
  | error fault =>
    rw [hp] at h
    cases h
  | ok payload =>
    rw [hp] at h
    obtain rfl : payload.toValue = v := Except.ok.inj h
    refine ⟨payload.spelled, payload.spells_spelled, ?_⟩
    have hfront : (stageNames q).head? = some "json" → ∀ j, payload ≠ .json j := by
      rintro hfirst j rfl
      exact hjson ⟨getLast?_of_foldlM hp, hfirst⟩
    rw [run_eq, run_eq, stageNames_bar, List.foldlM_append, hp, ← foldlM_spelled hq hfront]
    rfl

/-! ## Unknown stages -/

/-- An unknown stage is a fault exactly where it stands behind stages that were all passed. -/
theorem foldlM_eq_unknownStage_iff {names : List String} {p : Payload} {n : String} :
    names.foldlM runNamed p = .error (.unknownStage n) ↔
      ∃ before after payload, names = before ++ n :: after ∧
        before.foldlM runNamed p = .ok payload ∧ Stage.ofName? n = none := by
  constructor
  · intro h
    induction names generalizing p with
    | nil => cases h
    | cons name names ih =>
      rw [List.foldlM_cons] at h
      cases hname : runNamed p name with
      | error fault =>
        rw [hname] at h
        obtain rfl : fault = .unknownStage n := Except.error.inj h
        obtain ⟨rfl, hnone⟩ := runNamed_eq_unknownStage_iff.1 hname
        exact ⟨[], names, p, rfl, rfl, hnone⟩
      | ok payload =>
        rw [hname] at h
        obtain ⟨before, after, payload', rfl, hbefore, hnone⟩ := ih h
        refine ⟨name :: before, after, payload', rfl, ?_, hnone⟩
        rw [List.foldlM_cons, hname]
        exact hbefore
  · rintro ⟨before, after, payload, rfl, hbefore, hnone⟩
    rw [List.foldlM_append, hbefore]
    change (n :: after).foldlM runNamed payload = _
    rw [List.foldlM_cons, runNamed_eq_unknownStage_iff.2 ⟨rfl, hnone⟩]
    rfl

theorem run_eq_unknownStage_iff {parser : String} {body : Bytes} {n : String} :
    run parser body = .error (.unknownStage n) ↔
      ∃ before after payload, stageNames parser = before ++ n :: after ∧
        before.foldlM runNamed (.bytes body) = .ok payload ∧ Stage.ofName? n = none := by
  rw [← foldlM_eq_unknownStage_iff, run_eq]
  cases (stageNames parser).foldlM runNamed (.bytes body) with
  | error fault =>
    constructor
    · exact fun h => congrArg _ (Except.error.inj h)
    · exact fun h => congrArg _ (Except.error.inj h)
  | ok payload => exact ⟨nofun, nofun⟩

/-! ## Spelling of parser texts -/

/-- A parser text with bars between its pieces. -/
def joined (pieces : List (List Char)) : String :=
  String.ofList (List.intercalate ['|'] pieces)

/-- The name of the stage of a piece; empty if the piece is blank. -/
def nameOf (piece : List Char) : String :=
  Text.lower (String.ofList (Text.trimChars piece))

theorem split_intercalate {pieces : List (List Char)} (hne : pieces ≠ [])
    (h : ∀ piece ∈ pieces, '|' ∉ piece) :
    Occurrences.split ['|'] (List.intercalate ['|'] pieces) = pieces := by
  induction pieces with
  | nil => exact absurd rfl hne
  | cons piece pieces ih =>
    have hpiece : Occurrences.split ['|'] piece = [piece] := by
      refine Occurrences.split_of_cut_none ((Occurrences.cut_eq_none_iff (by simp)).2 ?_)
      rintro ⟨before, after, rfl⟩
      exact h _ List.mem_cons_self (by simp)
    cases pieces with
    | nil => rw [List.intercalate_singleton, hpiece]
    | cons piece' pieces =>
      rw [List.intercalate_cons_cons, List.append_assoc, List.singleton_append,
        Occurrences.split_append_cons, hpiece,
        ih (List.cons_ne_nil _ _) fun piece hmem => h piece (List.mem_cons_of_mem _ hmem)]
      rfl

theorem stageNames_joined {pieces : List (List Char)} (h : ∀ piece ∈ pieces, '|' ∉ piece) :
    stageNames (joined pieces) = (pieces.map nameOf).filter (!·.isEmpty) := by
  rw [stageNames, joined, String.toList_ofList]
  cases pieces with
  | nil =>
    have hsplit : Occurrences.split ['|'] (List.intercalate ['|'] []) = [[]] :=
      Occurrences.split_of_cut_none rfl
    rw [hsplit]
    rfl
  | cons piece pieces =>
    rw [split_intercalate (List.cons_ne_nil _ _) h]
    rfl

/-! ### Case of letters -/

/-- A character is its own small letter, or one of the capital letters of ASCII. -/
theorem toLower_eq_or (c : Char) : c.toLower = c ∨ ∃ n < 26, c = Char.ofNat (65 + n) := by
  unfold Char.toLower
  split
  next h =>
    have hlow : 65 ≤ c.toNat := UInt32.le_iff_toNat_le.1 h.1
    have hhigh : c.toNat ≤ 90 := UInt32.le_iff_toNat_le.1 h.2
    refine .inr ⟨c.toNat - 65, by omega, ?_⟩
    rw [Nat.add_sub_cancel' hlow, Char.ofNat_toNat]
  next => exact .inl rfl

/-- What tells no capital letter of ASCII from its small one tells no two characters apart that
differ in ASCII case. -/
theorem eq_of_toLower {β : Type} (f : Char → β)
    (hf : ∀ n < 26, f (Char.ofNat (65 + n)).toLower = f (Char.ofNat (65 + n))) {c d : Char}
    (h : c.toLower = d.toLower) : f c = f d := by
  have hlower : ∀ c : Char, f c.toLower = f c := by
    intro c
    rcases toLower_eq_or c with hc | ⟨n, hn, rfl⟩
    · rw [hc]
    · exact hf n hn
  rw [← hlower c, h, hlower d]

/-- Characters differ in ASCII case at most. -/
def SameLetter (c d : Char) : Prop := c.toLower = d.toLower

theorem meetsCased_congr {xs ys : List Char} (h : List.Forall₂ SameLetter xs ys) :
    Text.meetsCased xs = Text.meetsCased ys := by
  have hfacts : ∀ {c d : Char}, SameLetter c d →
      (Text.isCaseIgnorable c, Text.isCased c) = (Text.isCaseIgnorable d, Text.isCased d) :=
    eq_of_toLower (fun c => (Text.isCaseIgnorable c, Text.isCased c)) (by decide +kernel)
  unfold Text.meetsCased
  induction h with
  | nil => rfl
  | @cons c d xs ys hletter _ ih =>
    obtain ⟨hignored, hcased⟩ := Prod.mk.inj (hfacts hletter)
    rw [List.dropWhile_cons, List.dropWhile_cons, hignored]
    split
    · exact ih
    · simp [hcased]

/-- The lower case of a text does not depend on the ASCII case of its letters. -/
theorem lowerAfter_congr {before before' xs ys : List Char}
    (hbefore : List.Forall₂ SameLetter before before') (h : List.Forall₂ SameLetter xs ys) :
    Text.lowerAfter before xs = Text.lowerAfter before' ys := by
  have hfacts : ∀ {c d : Char}, SameLetter c d →
      (c == '\u03A3', Text.lowerChar c) = (d == '\u03A3', Text.lowerChar d) :=
    eq_of_toLower (fun c => (c == '\u03A3', Text.lowerChar c)) (by decide +kernel)
  induction h generalizing before before' with
  | nil => rfl
  | @cons c d xs ys hletter hrest ih =>
    obtain ⟨hsigma, hlower⟩ := Prod.mk.inj (hfacts hletter)
    rw [Text.lowerAfter, Text.lowerAfter, hsigma, hlower, meetsCased_congr hbefore,
      meetsCased_congr hrest, ih (hbefore.cons hletter)]

/-- Names that differ in the case of their letters at most: letter by letter in ASCII, or else in
what their lower case is as a whole, since a sigma is lowered by what stands around it. -/
def SameLetters (name name' : List Char) : Prop :=
  List.Forall₂ SameLetter name name' ∨
    Text.lower (String.ofList name) = Text.lower (String.ofList name')

theorem SameLetters.lower_eq {name name' : List Char} (h : SameLetters name name') :
    Text.lower (String.ofList name) = Text.lower (String.ofList name') := by
  rcases h with hletters | hlower
  · rw [Text.lower, Text.lower, String.toList_ofList, String.toList_ofList,
      lowerAfter_congr .nil hletters]
  · exact hlower

/-! ### Respelled pieces -/

/-- What can stand between bars as a name: no bar, and no blank at either end. -/
structure IsName (name : List Char) : Prop where
  undivided : '|' ∉ name
  trimmed : Text.trimChars name = name

/-- Pieces that spell the same stages: a piece of blanks may stand anywhere, blanks may stand around
a name, and its letters may be in another case. -/
inductive Respelled : List (List Char) → List (List Char) → Prop
  | nil : Respelled [] []
  | blankLeft {blanks : List Char} {pieces pieces' : List (List Char)} (h : Blanks blanks) :
      Respelled pieces pieces' → Respelled (blanks :: pieces) pieces'
  | blankRight {blanks : List Char} {pieces pieces' : List (List Char)} (h : Blanks blanks) :
      Respelled pieces pieces' → Respelled pieces (blanks :: pieces')
  | stage {front name behind front' name' behind' : List Char} {pieces pieces' : List (List Char)}
      (hfront : Blanks front) (hbehind : Blanks behind) (hfront' : Blanks front')
      (hbehind' : Blanks behind') (hname : IsName name) (hname' : IsName name')
      (hletters : SameLetters name name') :
      Respelled pieces pieces' →
        Respelled ((front ++ name ++ behind) :: pieces) ((front' ++ name' ++ behind') :: pieces')

theorem undivided_of_blanks {blanks : List Char} (h : Blanks blanks) : '|' ∉ blanks :=
  fun hmem => absurd (h '|' hmem) (by decide)

theorem IsName.undivided_pad {front name behind : List Char} (h : IsName name)
    (hfront : Blanks front) (hbehind : Blanks behind) : '|' ∉ front ++ name ++ behind := by
  simp only [List.mem_append, not_or]
  exact ⟨⟨undivided_of_blanks hfront, h.undivided⟩, undivided_of_blanks hbehind⟩

theorem Respelled.undivided {pieces pieces' : List (List Char)} (h : Respelled pieces pieces') :
    (∀ piece ∈ pieces, '|' ∉ piece) ∧ ∀ piece ∈ pieces', '|' ∉ piece := by
  induction h with
  | nil => exact ⟨nofun, nofun⟩
  | blankLeft h _ ih => exact ⟨List.forall_mem_cons.2 ⟨undivided_of_blanks h, ih.1⟩, ih.2⟩
  | blankRight h _ ih => exact ⟨ih.1, List.forall_mem_cons.2 ⟨undivided_of_blanks h, ih.2⟩⟩
  | stage hfront hbehind hfront' hbehind' hname hname' _ _ ih =>
    exact ⟨List.forall_mem_cons.2 ⟨hname.undivided_pad hfront hbehind, ih.1⟩,
      List.forall_mem_cons.2 ⟨hname'.undivided_pad hfront' hbehind', ih.2⟩⟩

theorem nameOf_blanks {blanks : List Char} (h : Blanks blanks) : nameOf blanks = "" := by
  rw [nameOf, Text.trimChars_eq_nil_iff.2 h]
  rfl

theorem nameOf_pad {front name behind : List Char} (hfront : Blanks front)
    (hbehind : Blanks behind) (hname : IsName name) :
    nameOf (front ++ name ++ behind) = Text.lower (String.ofList name) := by
  rw [nameOf, Text.trimChars_pad hfront hbehind, hname.trimmed]

/-- Respelled pieces name the same stages. -/
theorem stageNames_of_respelled {pieces pieces' : List (List Char)}
    (h : Respelled pieces pieces') : stageNames (joined pieces) = stageNames (joined pieces') := by
  rw [stageNames_joined h.undivided.1, stageNames_joined h.undivided.2]
  induction h with
  | nil => rfl
  | blankLeft h _ ih =>
    rw [List.map_cons, nameOf_blanks h]
    exact ih
  | blankRight h _ ih =>
    rw [List.map_cons, nameOf_blanks h]
    exact ih
  | stage hfront hbehind hfront' hbehind' hname hname' hletters _ ih =>
    rw [List.map_cons, List.map_cons, nameOf_pad hfront hbehind hname,
      nameOf_pad hfront' hbehind' hname', hletters.lower_eq, List.filter_cons, List.filter_cons, ih]

/-! ## Parser texts in a row -/

/-- Two parser texts in a row fail as the first one does, and otherwise do what the second one does
with the bytes that the value of the first one spells, unless one JSON stage hands its value on to
another. What stages a text names does not depend on blanks and on the case of letters, and an
unknown stage is met exactly behind stages that were all passed. -/
theorem run_bar {p q : String} (hq : stageNames q ≠ [])
    (hjson : ¬((stageNames p).getLast? = some "json" ∧ (stageNames q).head? = some "json"))
    (body : Bytes) :
    (∀ fault, run p body = .error fault → run (p ++ "|" ++ q) body = .error fault) ∧
    (∀ v, run p body = .ok v →
      ∃ b, (∀ b', Spells v b' ↔ b' = b) ∧ run (p ++ "|" ++ q) body = run q b) ∧
    (∀ pieces pieces', Respelled pieces pieces' →
      run (joined pieces) body = run (joined pieces') body) ∧
    ∀ parser n, run parser body = .error (.unknownStage n) ↔
      ∃ before after payload, stageNames parser = before ++ n :: after ∧
        before.foldlM runNamed (.bytes body) = .ok payload ∧ Stage.ofName? n = none := by
  refine ⟨fun fault => run_bar_of_error, fun v hv => ?_, fun pieces pieces' h => ?_,
    fun parser n => run_eq_unknownStage_iff⟩
  · obtain ⟨b, hspells, hrun⟩ := run_bar_of_ok hq hjson hv
    refine ⟨b, fun b' => ⟨hspells.unique, ?_⟩, hrun⟩
    rintro rfl
    exact hspells
  · rw [run_eq, run_eq, stageNames_of_respelled h]

/-- Digits that spell a letter of two bytes are read, and then the letter is. -/
theorem run_hex_text :
    stageNames "text" ≠ [] ∧
    ¬((stageNames "hex").getLast? = some "json" ∧ (stageNames "text").head? = some "json") ∧
    run ("hex" ++ "|" ++ "text") (Utf8.ofString "c3a9") = run "text" [0xC3, 0xA9] := by
  have hhex : stageNames "hex" = ["hex"] := by
    have hone : stageNames (joined ["hex".toList]) = _ := stageNames_joined (by decide)
    exact hone.trans (by decide)
  have htext : stageNames "text" = ["text"] := by
    have hone : stageNames (joined ["text".toList]) = _ := stageNames_joined (by decide)
    exact hone.trans (by decide)
  have hq : stageNames "text" ≠ [] := by
    rw [htext]
    decide
  have hjson : ¬((stageNames "hex").getLast? = some "json" ∧
      (stageNames "text").head? = some "json") := by
    rw [hhex, htext]
    decide
  refine ⟨hq, hjson, ?_⟩
  obtain ⟨-, hok, -⟩ := run_bar hq hjson (Utf8.ofString "c3a9")
  have hrun : run "hex" (Utf8.ofString "c3a9") = .ok (.bytes [0xC3, 0xA9]) := by
    have htrimmed : (Payload.bytes (Utf8.ofString "c3a9")).trimmed = Utf8.ofString "c3a9" := by
      rw [Payload.trimmed, Payload.readable, Utf8.toStringLossy_ofString]
      decide
    have hdecode : Hex.decode (Utf8.ofString "c3a9") = .ok [0xC3, 0xA9] := by decide
    have hstage : runNamed (.bytes (Utf8.ofString "c3a9")) "hex" = .ok (.bytes [0xC3, 0xA9]) := by
      change Stage.hex.run (.bytes (Utf8.ofString "c3a9")) = _
      simp only [Stage.run, htrimmed, hdecode]
    rw [run_eq, hhex, List.foldlM_cons, hstage]
    rfl
  obtain ⟨b, hb, hbar⟩ := hok _ hrun
  rw [hbar, ← (hb _).1 (.bytes _)]

end Pipeline

end Scaffold

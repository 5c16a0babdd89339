import Scaffold.Proofs.Evaluation.Rows

/-!
# Preparation — the expressions of a request in their order

A request that is declared is a draft: its texts are expressions, and evaluating them one after the
other gives a draft of the same form (`Draft.Fits`) whose texts are what is sent. The order is that
of the draft: type, address, method, headers, parameters, and then the texts of one body, the first
that is declared (`Draft.firstBody`). What the preparation evaluates is named by `Prepared.visits`,
and that its result and its context come of that alone is `Prepared.prepares_in_order`.
-/

set_option autoImplicit false

namespace Scaffold

open Step (Reads)

/-! ## Drafts -/

/-- What the entries of a section stand for: a pair for every text and for every item of a list, in
order. -/
def Prepared.pairsIn (entries : List (String × Field)) : Pairs :=
  entries.flatMap fun (name, field) => field.texts.map (name, ·)

/-- The entries of a section that may be absent. -/
def Prepared.entriesOf (section? : Option FieldMap) : List (String × Field) :=
  (section?.map (·.entries)).getD []

/-- Pairs are determined by their names and their values. -/
theorem Pairs.eq_of_map_eq {ps qs : Pairs} (hnames : ps.map Prod.fst = qs.map Prod.fst)
    (hvalues : ps.map Prod.snd = qs.map Prod.snd) : ps = qs :=
  (List.zip_of_prod hnames hvalues).trans (List.zip_of_prod rfl rfl).symm

theorem Pairs.length_values_eq {ps qs : Pairs} (hnames : ps.map Prod.fst = qs.map Prod.fst) :
    (ps.map Prod.snd).length = (qs.map Prod.snd).length := by
  simpa using congrArg List.length hnames

namespace PreparedBody

/-- The texts of a body, in the order of their evaluation: those of files before those of fields. -/
def texts : PreparedBody → List String
  | .none => []
  | .raw text => [text]
  | .form pairs => pairs.map Prod.snd
  | .multipart files fields => files.map Prod.snd ++ fields.map Prod.snd

/-- A body is of the kind of another one, with the same names. -/
def Fits : PreparedBody → PreparedBody → Prop
  | .none, .none => True
  | .raw _, .raw _ => True
  | .form pairs, .form pairs' => pairs.map Prod.fst = pairs'.map Prod.fst
  | .multipart files fields, .multipart files' fields' =>
    files.map Prod.fst = files'.map Prod.fst ∧ fields.map Prod.fst = fields'.map Prod.fst
  | _, _ => False

/-- A kind, names and texts determine a body. -/
theorem eq_of_fits {b b' e : PreparedBody} (h : b.Fits e) (h' : b'.Fits e)
    (htexts : b.texts = b'.texts) : b = b' := by
  match b, b', e, h, h' with
  | .none, .none, .none, _, _ => rfl
  | .raw _, .raw _, .raw _, _, _ => exact congrArg raw (List.cons.inj htexts).1
  | .form _, .form _, .form _, h, h' =>
    exact congrArg form (Pairs.eq_of_map_eq (h.trans h'.symm) htexts)
  | .multipart _ _, .multipart _ _, .multipart _ _, h, h' =>
    have hfiles := h.1.trans h'.1.symm
    obtain ⟨hpaths, hvalues⟩ := List.append_inj htexts (Pairs.length_values_eq hfiles)
    rw [Pairs.eq_of_map_eq hfiles hpaths, Pairs.eq_of_map_eq (h.2.trans h'.2.symm) hvalues]

/-- The files are looked up below a directory. -/
def under (root : String) : PreparedBody → PreparedBody
  | .multipart files fields =>
    .multipart (files.map fun (name, path) => (name, Path.join root path)) fields
  | body => body

end PreparedBody

open Prepared (pairsIn entriesOf)

/-- A request by its texts: as they are declared, or as they are evaluated. -/
@[ext]
structure Draft where
  type : String
  url : String
  method : String
  headers : Pairs
  params : Pairs
  body : PreparedBody

namespace Draft

/-- The first body that is declared: a text that is not blank, a form with entries, or files and
fields of which one has entries. -/
def firstBody (spec : RemoteSpec) : PreparedBody :=
  let form := entriesOf spec.requestFormData
  let files := entriesOf (spec.requestUploadFiles.bind (·.files))
  let fields := entriesOf (spec.requestUploadFiles.bind (·.data))
  if !Text.isBlankText spec.requestBody then .raw spec.requestBody
  else if form ≠ [] then .form (pairsIn form)
  else if files ≠ [] ∨ fields ≠ [] then .multipart (pairsIn files) (pairsIn fields)
  else .none

/-- A request as it is declared. -/
def ofSpec (spec : RemoteSpec) : Draft where
  type := spec.type
  url := spec.url
  method := spec.method
  headers := pairsIn (entriesOf spec.headers)
  params := pairsIn (entriesOf spec.requestParams)
  body := firstBody spec

/-- The texts behind the type, in the order of their evaluation. -/
def behindType (d : Draft) : List String :=
  d.url :: d.method :: (d.headers.map Prod.snd ++ (d.params.map Prod.snd ++ d.body.texts))

/-- The texts of a draft, in the order of their evaluation. -/
def texts (d : Draft) : List String :=
  d.type :: d.behindType

/-- A draft has the form of another one: the same names, and a body of the same kind. -/
structure Fits (d e : Draft) : Prop where
  headers : d.headers.map Prod.fst = e.headers.map Prod.fst
  params : d.params.map Prod.fst = e.params.map Prod.fst
  body : d.body.Fits e.body

/-- The draft holds what the expressions of a request are evaluated to, from a context to another
one. -/
structure Holds (d : Draft) (spec : RemoteSpec) (names : Bindings) (c c' : Context) : Prop where
  form : d.Fits (ofSpec spec)
  texts : evaluateTexts names (ofSpec spec).texts (c.setData spec.toValue) = (.ok d.texts, c')

/-- A form and texts determine a draft. -/
theorem Fits.eq_of_texts {d d' e : Draft} (h : d.Fits e) (h' : d'.Fits e)
    (htexts : d.texts = d'.texts) : d = d' := by
  have hheaders := h.headers.trans h'.headers.symm
  have hparams := h.params.trans h'.params.symm
  obtain ⟨htype, hrest⟩ := List.cons.inj htexts
  obtain ⟨hurl, hrest⟩ := List.cons.inj hrest
  obtain ⟨hmethod, hrest⟩ := List.cons.inj hrest
  obtain ⟨hheaderTexts, hrest⟩ := List.append_inj hrest (Pairs.length_values_eq hheaders)
  obtain ⟨hparamTexts, hbody⟩ := List.append_inj hrest (Pairs.length_values_eq hparams)
  exact Draft.ext htype hurl hmethod (Pairs.eq_of_map_eq hheaders hheaderTexts)
    (Pairs.eq_of_map_eq hparams hparamTexts) (PreparedBody.eq_of_fits h.body h'.body hbody)

/-- There is one draft only that holds what the expressions of a request are evaluated to. -/
theorem Holds.unique {d d' : Draft} {spec : RemoteSpec} {names : Bindings} {c c₁ c₂ : Context}
    (h : d.Holds spec names c c₁) (h' : d'.Holds spec names c c₂) : d = d' :=
  h.form.eq_of_texts h'.form
    (Except.ok.inj (congrArg Prod.fst (h.texts.symm.trans h'.texts)))

/-- The scheme that a draft asks for. -/
def kind (d : Draft) : String := Text.lower (Text.trim d.type)

/-- The address of a draft, without scheme and parameters that are added to it. -/
def address (d : Draft) : String := Text.trim d.url

/-- The request that a draft with all texts evaluated stands for. -/
def finish (sourceRoot : String) (skipVerify : Bool) (d : Draft) : Prepared :=
  let method := Text.upper (Text.trim d.method)
  { kind := d.kind
    method := if method.isEmpty then "GET" else method
    url := Prepared.withParams (Prepared.withKind d.kind d.address) d.params
    headers := d.headers
    body := d.body.under sourceRoot
    skipVerify := d.kind == "https" && skipVerify }

@[simp] theorem finish_kind (sourceRoot : String) (skipVerify : Bool) (d : Draft) :
    (d.finish sourceRoot skipVerify).kind = d.kind := rfl

@[simp] theorem finish_url (sourceRoot : String) (skipVerify : Bool) (d : Draft) :
    (d.finish sourceRoot skipVerify).url =
      Prepared.withParams (Prepared.withKind d.kind d.address) d.params := rfl

end Draft

namespace Prepared

/-! ## Parts of a request -/

theorem reads_trimmed (names : Bindings) (expr : String) :
    Reads names [expr]
      (fun texts text => ∃ written, texts = [written] ∧ text = Text.trim written)
      (trimmed expr names) :=
  (reads_evaluateText names expr).map fun _ text htext => ⟨text, htext, rfl⟩

theorem pairsOf_eq (name : String) (field : Field) :
    pairsOf name field = field.texts.map (name, ·) := by
  cases field <;> rfl

theorem map_fst_pairsIn_cons (entry : String × Field) (entries : List (String × Field)) :
    (pairsIn (entry :: entries)).map Prod.fst =
      List.replicate entry.2.texts.length entry.1 ++ (pairsIn entries).map Prod.fst := by
  simp [pairsIn, Function.comp_def]

theorem map_snd_pairsIn_cons (entry : String × Field) (entries : List (String × Field)) :
    (pairsIn (entry :: entries)).map Prod.snd =
      entry.2.texts ++ (pairsIn entries).map Prod.snd := by
  simp [pairsIn, Function.comp_def]

/-- The texts of a section are evaluated in order, and each of them stands under its name again. -/
theorem reads_pairsOfEntries (names : Bindings) (entries : List (String × Field)) :
    Reads names ((pairsIn entries).map Prod.snd)
      (fun texts pairs => pairs.map Prod.fst = (pairsIn entries).map Prod.fst ∧
        pairs.map Prod.snd = texts)
      (pairsOfEntries names entries) := by
  induction entries with
  | nil => exact Step.reads_pure ⟨rfl, rfl⟩
  | cons entry entries ih =>
    rw [map_snd_pairsIn_cons, map_fst_pairsIn_cons]
    refine (reads_evaluateField names entry.2).bind fun texts field ⟨htexts, hlength⟩ =>
      ih.map fun behind pairs ⟨hnames, hvalues⟩ => ?_
    rw [pairsOf_eq, htexts, ← hlength, ← hnames, ← hvalues]
    simp [Function.comp_def]

theorem reads_pairs (names : Bindings) (section? : Option FieldMap) :
    Reads names ((pairsIn (entriesOf section?)).map Prod.snd)
      (fun texts pairs => pairs.map Prod.fst = (pairsIn (entriesOf section?)).map Prod.fst ∧
        pairs.map Prod.snd = texts)
      (pairs names section?) := by
  cases section? with
  | none => exact Step.reads_pure ⟨rfl, rfl⟩
  | some m => exact reads_pairsOfEntries names m.entries

/-- A section has entries if it is there and not empty. -/
theorem entriesOf_ne_nil_iff {section? : Option FieldMap} :
    entriesOf section? ≠ [] ↔ section?.any (!·.isEmpty) = true := by
  cases section? with
  | none => simp [entriesOf]
  | some m => simp [entriesOf, OrderedMap.isEmpty]

/-- Files and fields are declared if one of them has entries. -/
theorem uploads_iff {upload : Upload} :
    (entriesOf upload.files ≠ [] ∨ entriesOf upload.data ≠ []) ↔ upload.isEmpty = false := by
  rw [entriesOf_ne_nil_iff, entriesOf_ne_nil_iff, Upload.isEmpty]
  cases upload.files <;> cases upload.data <;> simp [imp_iff_not_or]

/-- Only the texts of the first body that is declared are evaluated. -/
theorem reads_chooseBody (sourceRoot : String) (spec : RemoteSpec) (names : Bindings) :
    Reads names (Draft.firstBody spec).texts
      (fun texts body => ∃ evaluated : PreparedBody, evaluated.Fits (Draft.firstBody spec) ∧
        evaluated.texts = texts ∧ body = evaluated.under sourceRoot)
      (chooseBody sourceRoot spec names) := by
  rw [chooseBody, Draft.firstBody]
  by_cases hraw : (!Text.isBlankText spec.requestBody) = true
  · simp only [if_pos hraw]
    exact (reads_evaluateText names spec.requestBody).map fun texts text htext =>
      ⟨.raw text, trivial, htext.symm, rfl⟩
  simp only [if_neg hraw]
  by_cases hform : entriesOf spec.requestFormData ≠ []
  · simp only [if_pos hform, if_pos (entriesOf_ne_nil_iff.1 hform)]
    refine (reads_pairs names spec.requestFormData).map fun texts pairs hpairs => ?_
    exact ⟨.form pairs, hpairs.1, hpairs.2, rfl⟩
  simp only [if_neg hform, if_neg (mt entriesOf_ne_nil_iff.2 hform)]
  cases spec.requestUploadFiles with
  | none =>
    exact Step.reads_pure ⟨.none, trivial, rfl, rfl⟩
  | some upload =>
    by_cases hupload : upload.isEmpty = true
    · have hnone : ¬ (entriesOf upload.files ≠ [] ∨ entriesOf upload.data ≠ []) := by
        rw [uploads_iff, hupload]
        decide
      simp only [Option.bind_some, if_neg hnone, if_pos hupload]
      exact Step.reads_pure ⟨.none, trivial, rfl, rfl⟩
    · simp only [Option.bind_some, if_pos (uploads_iff.2 (Bool.eq_false_iff.2 hupload)),
        if_neg hupload]
      refine (reads_pairs names upload.files).bind fun texts files hfilePairs => ?_
      refine (reads_pairs names upload.data).map fun behind fields hfieldPairs => ?_
      obtain ⟨hfiles, htexts⟩ := hfilePairs
      obtain ⟨hfields, hbehind⟩ := hfieldPairs
      exact ⟨.multipart files fields, ⟨hfiles, hfields⟩, by rw [← htexts, ← hbehind]; rfl, rfl⟩

/-! ## The request -/

/-- The rest of the preparation once the type is known. -/
def ofType (sourceRoot name : String) (spec : RemoteSpec) (names : Bindings) (type : String) :
    Step Prepared :=
  if !kinds.contains (Text.lower type) then
    Step.fail (.remoteVar name (.unsupportedType (Text.lower type)))
  else do
    let address := withKind (Text.lower type) (← trimmed spec.url names)
    let method := Text.upper (← trimmed spec.method names)
    let headers ← pairs names spec.headers
    let params ← pairs names spec.requestParams
    let body ← chooseBody sourceRoot spec names
    return {
      kind := Text.lower type
      headers, body
      method := if method.isEmpty then "GET" else method
      url := withParams address params
      skipVerify := Text.lower type == "https" && spec.skipHttpsVerifyCert }

variable (sourceRoot name : String) (spec : RemoteSpec) (names : Bindings) (c : Context)

/-- The evaluation of the type of a request. -/
def typeVisit : Visit := ⟨{ text := spec.type }, names, c.setData spec.toValue⟩

theorem trimmed_type :
    trimmed spec.type names (c.setData spec.toValue) =
      ((typeVisit spec names c).text.map Text.trim, (typeVisit spec names c).after) := by
  have htrimmed : trimmed spec.type names (c.setData spec.toValue) = (_, _) :=
    Step.bind_pure_apply _ _ _
  rw [htrimmed, evaluateText_eq]
  rfl

/-- What the preparation of a request comes to, by its address as it is declared and its type. -/
inductive Begins : Except Error Prepared × Context → Prop
  | blank (hurl : Text.isBlankText spec.url = true) :
    Begins (.error (.remoteVar name .missingUrl), c.setData spec.toValue)
  | failed {e : Error} (hurl : Text.isBlankText spec.url = false)
    (htype : (typeVisit spec names c).text = .error e) :
    Begins (.error e, (typeVisit spec names c).after)
  | unsupported {type : String} (hurl : Text.isBlankText spec.url = false)
    (htype : (typeVisit spec names c).text = .ok type)
    (hkind : Text.lower (Text.trim type) ∉ kinds) :
    Begins (.error (.remoteVar name (.unsupportedType (Text.lower (Text.trim type)))),
      (typeVisit spec names c).after)
  | supported {type : String} (hurl : Text.isBlankText spec.url = false)
    (htype : (typeVisit spec names c).text = .ok type)
    (hkind : Text.lower (Text.trim type) ∈ kinds) :
    Begins (ofType sourceRoot name spec names (Text.trim type) (typeVisit spec names c).after)

theorem ofSpec_begins :
    Begins sourceRoot name spec names c (ofSpec sourceRoot name spec names c) := by
  have hdata : Step.modify (·.setData spec.toValue) c = (.ok (), c.setData spec.toValue) := rfl
  rw [ofSpec, Step.bind_of_ok hdata]
  by_cases hblank : Text.isBlankText spec.url = true
  · rw [if_pos hblank]
    exact .blank hblank
  rw [if_neg hblank]
  change Begins _ _ _ _ _
    ((trimmed spec.type names >>= ofType sourceRoot name spec names) (c.setData spec.toValue))
  have hurl : Text.isBlankText spec.url = false := Bool.eq_false_iff.2 hblank
  have htrimmed := trimmed_type spec names c
  cases htype : (typeVisit spec names c).text with
  | error e =>
    rw [htype] at htrimmed
    rw [Step.bind_of_error htrimmed]
    exact .failed hurl htype
  | ok type =>
    rw [htype] at htrimmed
    rw [Step.bind_of_ok htrimmed]
    by_cases hkind : Text.lower (Text.trim type) ∈ kinds
    · exact .supported hurl htype hkind
    · rw [ofType, if_pos (by simpa using hkind)]
      exact .unsupported hurl htype hkind

/-- Behind a type that is supported, the other texts of the draft are read. -/
theorem reads_ofType (type : String) (hkind : Text.lower (Text.trim type) ∈ kinds) :
    Reads names (Draft.ofSpec spec).behindType
      (fun texts p => ∃ d : Draft, d.Fits (Draft.ofSpec spec) ∧ d.texts = type :: texts ∧
        p = d.finish sourceRoot spec.skipHttpsVerifyCert)
      (ofType sourceRoot name spec names (Text.trim type)) := by
  rw [ofType, if_neg (by simpa using hkind)]
  change Reads names ([spec.url] ++ ([spec.method] ++ (_ ++ (_ ++ _)))) _ _
  refine (reads_trimmed names spec.url).bind fun _ _ ⟨url, hurl, haddress⟩ => ?_
  refine (reads_trimmed names spec.method).bind fun _ _ ⟨method, hmethod, hverb⟩ => ?_
  refine (reads_pairs names spec.headers).bind fun _ headers ⟨hheaders, hheaderTexts⟩ => ?_
  refine (reads_pairs names spec.requestParams).bind fun _ params ⟨hparams, hparamTexts⟩ => ?_
  refine (reads_chooseBody sourceRoot spec names).map fun _ _ ⟨body, hbody, hbodyTexts, hroot⟩ => ?_
  subst hurl haddress hmethod hverb hheaderTexts hparamTexts hbodyTexts hroot
  exact ⟨⟨type, url, method, headers, params, body⟩, ⟨hheaders, hparams, hbody⟩, rfl, rfl⟩

/-- A request that is prepared is the one that its evaluated draft stands for. -/
theorem ofSpec_eq_ok {p : Prepared} (h : (ofSpec sourceRoot name spec names c).1 = .ok p) :
    ∃ d : Draft, d.Holds spec names c (ofSpec sourceRoot name spec names c).2 ∧ d.kind ∈ kinds ∧
      p = d.finish sourceRoot spec.skipHttpsVerifyCert := by
  have hbegins := ofSpec_begins sourceRoot name spec names c
  generalize ofSpec sourceRoot name spec names c = outcome at h hbegins
  cases hbegins with
  | blank => cases h
  | failed => cases h
  | unsupported => cases h
  | @supported type _ htype hkind =>
    have hreads :=
      reads_ofType sourceRoot name spec names type hkind (typeVisit spec names c).after
    cases hrow : evaluateTexts names (Draft.ofSpec spec).behindType
        (typeVisit spec names c).after with
    | mk row c' =>
      rw [hrow] at hreads
      cases row with
      | error e =>
        rw [show ofType sourceRoot name spec names _ _ = (.error e, c') from hreads] at h
        cases h
      | ok texts =>
        obtain ⟨p', hresult, d, hform, htexts, rfl⟩ := hreads
        obtain ⟨htypeText, -⟩ := List.cons.inj htexts
        rw [hresult] at h ⊢
        refine ⟨d, ⟨hform, ?_⟩, by rwa [Draft.kind, htypeText], (Except.ok.inj h).symm⟩
        have hfirst : evaluateText spec.type names (c.setData spec.toValue) =
            (.ok type, (typeVisit spec names c).after) := by
          rw [evaluateText_eq, ← htype]
          rfl
        change evaluateTexts names (spec.type :: (Draft.ofSpec spec).behindType) _ = _
        rw [evaluateTexts_eq_bind, Step.bind_of_ok hfirst, Step.bind_of_ok hrow, htexts]
        rfl

/-! ## The order of the evaluations -/

/-- The evaluations that the preparation of a request comes to. -/
def visits : List Visit :=
  if Text.isBlankText spec.url then []
  else typeVisit spec names c :: match (typeVisit spec names c).text with
    | .ok type =>
      if Text.lower (Text.trim type) ∈ kinds then
        visitsInRow names (Draft.ofSpec spec).behindType (typeVisit spec names c).after
      else []
    | .error _ => []

/-- How the preparation of a request ends, by the evaluations that it has come to. -/
inductive Outcome : List Visit → Except Error Prepared → Prop
  | missingUrl (hurl : Text.isBlankText spec.url = true) :
    Outcome [] (.error (.remoteVar name .missingUrl))
  | unsupported {first : Visit} {type : String} (hurl : Text.isBlankText spec.url = false)
    (htype : first.text = .ok type) (hkind : Text.lower (Text.trim type) ∉ kinds) :
    Outcome [first]
      (.error (.remoteVar name (.unsupportedType (Text.lower (Text.trim type)))))
  /-- Nothing is evaluated behind the first text that has no value. -/
  | failed {front : List Visit} {last : Visit} {e : Error}
    (hurl : Text.isBlankText spec.url = false)
    (hfront : ∀ v ∈ front, ∃ text, v.text = .ok text)
    (hkind : ∀ type, front.head?.map Visit.text = some (.ok type) →
      Text.lower (Text.trim type) ∈ kinds)
    (hlast : last.text = .error e) :
    Outcome (front ++ [last]) (.error e)
  /-- The texts of all evaluations, in their order, are those of the request. -/
  | ready {visits : List Visit} {d : Draft} (hurl : Text.isBlankText spec.url = false)
    (hform : d.Fits (Draft.ofSpec spec)) (hkind : d.kind ∈ kinds)
    (htexts : visits.map Visit.text = d.texts.map .ok) :
    Outcome visits (.ok (d.finish sourceRoot spec.skipHttpsVerifyCert))

/-- What is known of the evaluations of a preparation, of its result and of the context that it
leaves. -/
structure InOrder (visits : List Visit) (result : Except Error Prepared) (c' : Context) :
    Prop where
  /-- The expressions are those of the draft, up to one of them. -/
  order : visits.map Visit.expression <+: (Draft.ofSpec spec).texts.map ({ text := · })
  /-- The context changes by the evaluations and, before them, by the data of the request. -/
  linked : Linked names visits (c.setData spec.toValue) c'
  outcome : Outcome sourceRoot name spec visits result

/-- Behind a type that is supported, the evaluations are those of the other texts. -/
theorem inOrder_of_supported (hurl : Text.isBlankText spec.url = false) {type : String}
    (htype : (typeVisit spec names c).text = .ok type)
    (hkind : Text.lower (Text.trim type) ∈ kinds) :
    let first := typeVisit spec names c
    let result := ofType sourceRoot name spec names (Text.trim type) first.after
    InOrder sourceRoot name spec names c
      (first :: visitsInRow names (Draft.ofSpec spec).behindType first.after)
      result.1 result.2 := by
  intro first result
  have horder : (first :: visitsInRow names (Draft.ofSpec spec).behindType first.after).map
      Visit.expression <+: (Draft.ofSpec spec).texts.map ({ text := · }) :=
    (List.prefix_cons_inj first.expression).2 (visitsInRow_order names _ first.after)
  have hlinked := visitsInRow_linked names (Draft.ofSpec spec).behindType first.after
  have hends := visitsInRow_ends names (Draft.ofSpec spec).behindType first.after
  have hreads := reads_ofType sourceRoot name spec names type hkind first.after
  cases hrow : evaluateTexts names (Draft.ofSpec spec).behindType first.after with
  | mk row c' =>
    rw [hrow] at hreads hlinked hends
    cases row with
    | error e =>
      have hresult : result = (.error e, c') := hreads
      obtain ⟨front, last, hvisits, hfront, hlast⟩ := visitsInRow_failed (congrArg Prod.fst hrow)
      have hkinds : ∀ text, (first :: front).head?.map Visit.text = some (.ok text) →
          Text.lower (Text.trim text) ∈ kinds := by
        intro text htext
        obtain rfl : type = text := Except.ok.inj (htype.symm.trans (Option.some.inj htext))
        exact hkind
      rw [hresult, hvisits]
      rw [hvisits] at horder hlinked
      exact ⟨horder, .cons rfl hlinked,
        .failed hurl (List.forall_mem_cons.2 ⟨⟨type, htype⟩, hfront⟩) hkinds hlast⟩
    | ok texts =>
      obtain ⟨p, hresult, d, hform, htexts, hp⟩ := hreads
      have hd : type = d.type := (List.cons.inj htexts).1.symm
      have hrowTexts := (hends.ok_iff texts).1 ⟨texts, rfl, rfl⟩
      rw [show result = (.ok p, c') from hresult, hp]
      refine ⟨horder, .cons rfl hlinked, .ready hurl hform (by rwa [Draft.kind, ← hd]) ?_⟩
      rw [htexts, List.map_cons, List.map_cons, hrowTexts]
      exact congrArg (· :: _) htype

/-- A request is prepared by evaluating the expressions of its draft in order, up to the first that
has no value, or none behind a type that is not supported. -/
theorem prepares_in_order :
    InOrder sourceRoot name spec names c (visits spec names c)
      (ofSpec sourceRoot name spec names c).1 (ofSpec sourceRoot name spec names c).2 := by
  have hbegins := ofSpec_begins sourceRoot name spec names c
  have hsingle : [typeVisit spec names c].map Visit.expression <+:
      (Draft.ofSpec spec).texts.map ({ text := · }) := List.prefix_append [_] _
  rw [visits]
  generalize ofSpec sourceRoot name spec names c = outcome at hbegins
  cases hbegins with
  | blank hurl =>
    rw [if_pos hurl]
    exact ⟨List.nil_prefix, .nil _, .missingUrl hurl⟩
  | failed hurl htype =>
    have hfails : Outcome sourceRoot name spec ([] ++ [typeVisit spec names c]) (.error _) :=
      .failed hurl (by simp) (by simp) htype
    simp only [hurl, htype]
    exact ⟨hsingle, .cons rfl (.nil _), hfails⟩
  | unsupported hurl htype hkind =>
    simp only [hurl, htype, if_neg hkind]
    exact ⟨hsingle, .cons rfl (.nil _), .unsupported hurl htype hkind⟩
  | supported hurl htype hkind =>
    simp only [hurl, htype, if_pos hkind]
    exact inOrder_of_supported sourceRoot name spec names c hurl htype hkind

/-- Of two bodies, only the first one is evaluated. -/
example :
    (visits
      { type := "http", url := "example.test", requestBody := "text"
        requestFormData := some ⟨[("a", .text "b")], by decide⟩ }
      (.standard {}) Emission.pristine).map (·.expression.text) =
        ["http", "example.test", "", "text"] := by
  decide +kernel

end Prepared

end Scaffold

import Mathlib.Data.List.TakeWhile
import Scaffold.Proofs.Encoding
import Scaffold.Proofs.Remote.Preparation

/-!
# Address — scheme and query of the address that a request is sent to

The address of a request is the one that its draft names, with a scheme in front of it and with
parameters behind it. Both are put there by looking at the text alone. The scheme is taken to be
there if the address begins with its bare word, so that an address whose host has a name that begins
like that is left without one (`scheme_of_prepared`, `scheme_missing`). The parameters are put at
the very end, so that behind a fragment they belong to the fragment and not to the query
(`query_of_prepared`, `params_in_fragment`).
-/

set_option autoImplicit false

namespace Scaffold.Prepared

open Scaffold.Emission (pristine)

variable {kind address : String} {params : Pairs}

/-! ## What stands behind an address -/

/-- The character between an address and the parameters that are put behind it. -/
def mark (address : String) : Char :=
  if '?' ∈ address.toList then '&' else '?'

theorem mark_mem (address : String) : mark address ∈ ['?', '&'] := by
  rw [mark]
  split <;> decide

theorem withParams_nil (address : String) : withParams address [] = address := rfl

theorem toList_withParams (h : params ≠ []) :
    (withParams address params).toList =
      address.toList ++ mark address :: (FormUrl.encode params).toList := by
  have hsome : params.isEmpty = false := List.isEmpty_eq_false_iff.2 h
  by_cases hquery : '?' ∈ address.toList <;> simp [withParams, mark, hsome, hquery]

theorem prefix_withParams (address : String) (params : Pairs) :
    address.toList <+: (withParams address params).toList := by
  by_cases h : params = []
  · rw [h, withParams_nil]
  · rw [toList_withParams h]
    exact List.prefix_append _ _

/-! ## The scheme -/

/-- The address begins with a scheme. -/
def HasScheme (kind address : String) : Prop :=
  (kind ++ "://").toList <+: address.toList

instance (kind address : String) : Decidable (HasScheme kind address) :=
  inferInstanceAs (Decidable (_ <+: _))

/-- An address with a scheme begins with the word of it. -/
theorem HasScheme.word (h : HasScheme kind address) : kind.toList <+: address.toList := by
  rw [HasScheme, String.toList_append] at h
  exact (List.prefix_append _ _).trans h

theorem withKind_of_word (h : kind.toList <+: address.toList) : withKind kind address = address :=
  if_pos (List.isPrefixOf_iff_prefix.2 h)

theorem toList_withKind_of_no_word (h : ¬ kind.toList <+: address.toList) :
    (withKind kind address).toList = (kind ++ "://").toList ++ address.toList := by
  rw [withKind, if_neg (mt List.isPrefixOf_iff_prefix.1 h), ← String.toList_append]

/-- A scheme holds none of the characters that divide an address. -/
theorem not_mem_of_mem_dividers (hkind : kind ∈ kinds) :
    ∀ d ∈ FormUrl.dividers, d ∉ (kind ++ "://").toList := by
  have hall : ∀ kind ∈ kinds, (FormUrl.dividers.all fun d =>
      !(kind ++ "://").toList.contains d) = true := by decide +kernel
  intro d hd hmem
  have hnot := List.all_eq_true.1 (hall kind hkind) d hd
  rw [List.contains_iff_mem.2 hmem] at hnot
  cases hnot

/-- Nothing that is put behind an address makes up a scheme. -/
theorem hasScheme_withParams (hkind : kind ∈ kinds) :
    HasScheme kind (withParams address params) ↔ HasScheme kind address := by
  refine ⟨fun h => ?_, fun h => h.trans (prefix_withParams address params)⟩
  by_cases hparams : params = []
  · rwa [hparams, withParams_nil] at h
  rw [HasScheme, toList_withParams hparams] at h
  obtain hshort | ⟨rest, hrest⟩ := List.prefix_or_prefix_of_prefix h (List.prefix_append _ _)
  · exact hshort
  -- A scheme that is longer than the address goes on with the mark, unless it is as long as that.
  rw [← hrest, List.prefix_append_right_inj] at h
  cases rest with
  | nil => rw [HasScheme, ← hrest, List.append_nil]
  | cons c rest =>
    obtain ⟨rfl, -⟩ := List.cons_prefix_cons.1 h
    have hmem : mark address ∈ (kind ++ "://").toList := by rw [← hrest]; simp
    have hdivides : ['?', '&'] ⊆ FormUrl.dividers := by decide
    exact absurd hmem (not_mem_of_mem_dividers hkind _ (hdivides (mark_mem address)))

/-- The address begins with a scheme if it did so before or did not even begin with the word. -/
theorem hasScheme_withKind :
    HasScheme kind (withKind kind address) ↔
      (kind.toList <+: address.toList → HasScheme kind address) := by
  by_cases hword : kind.toList <+: address.toList
  · rw [withKind_of_word hword]
    exact ⟨fun h _ => h, fun h => h hword⟩
  · rw [HasScheme, toList_withKind_of_no_word hword]
    exact ⟨fun _ h => absurd h hword, fun _ => List.prefix_append _ _⟩

/-! ## The query -/

/-- The query of an address: what stands behind its first `?`, and in front of a `#`. -/
def query (address : String) : List Char :=
  ((address.toList.takeWhile (· != '#')).dropWhile (· != '?')).drop 1

/-- The pairs in the query of an address. -/
def queryPairs (address : String) : Pairs :=
  FormUrl.decode (query address)

theorem bne_of_not_mem {d : Char} {text : List Char} (h : d ∉ text) :
    ∀ c ∈ text, (c != d) = true := by
  intro c hc
  refine bne_iff_ne.2 ?_
  rintro rfl
  exact h hc

theorem query_withKind (hkind : kind ∈ kinds) :
    query (withKind kind address) = query address := by
  by_cases hword : kind.toList <+: address.toList
  · rw [withKind_of_word hword]
  have hscheme := not_mem_of_mem_dividers hkind
  rw [query, query, toList_withKind_of_no_word hword,
    List.takeWhile_append_of_pos (bne_of_not_mem (hscheme '#' (by decide))),
    List.dropWhile_append_of_pos (bne_of_not_mem (hscheme '?' (by decide)))]

/-- Behind a fragment, parameters do not change the query. -/
theorem query_withParams_of_fragment (h : '#' ∈ address.toList) :
    query (withParams address params) = query address := by
  by_cases hparams : params = []
  · rw [hparams, withParams_nil]
  have hstops : (address.toList.takeWhile (· != '#')).length ≠ address.toList.length := by
    intro hlength
    have hall := (List.takeWhile_prefix (· != '#')).eq_of_length hlength
    exact bne_iff_ne.1 (List.takeWhile_eq_self_iff.1 hall '#' h) rfl
  rw [query, query, toList_withParams hparams, List.takeWhile_append, if_neg hstops]

/-- In an address without a fragment, they follow the pairs that are there. -/
theorem queryPairs_withParams (h : '#' ∉ address.toList) :
    queryPairs (withParams address params) = queryPairs address ++ params := by
  by_cases hparams : params = []
  · rw [hparams, withParams_nil, List.append_nil]
  have hbehind : '#' ∉ mark address :: (FormUrl.encode params).toList := by
    rw [List.mem_cons, not_or]
    refine ⟨fun hmark => ?_, FormUrl.not_mem_encode params⟩
    exact absurd (hmark ▸ mark_mem address) (by decide)
  have haddress := bne_of_not_mem h
  rw [queryPairs, queryPairs, query, query, toList_withParams hparams,
    List.takeWhile_append_of_pos haddress, List.takeWhile_eq_self_iff.2 haddress,
    List.takeWhile_eq_self_iff.2 (bne_of_not_mem hbehind)]
  by_cases hquery : '?' ∈ address.toList
  · have hne : address.toList.dropWhile (· != '?') ≠ [] := fun hnil =>
      bne_iff_ne.1 (List.dropWhile_eq_nil_iff.1 hnil '?' hquery) rfl
    obtain ⟨c, rest, hrest⟩ := List.exists_cons_of_ne_nil hne
    rw [List.dropWhile_append, hrest, mark, if_pos hquery]
    exact (FormUrl.decode_append rest _).trans
      (congrArg (FormUrl.decode rest ++ ·) (FormUrl.decode_encode params))
  · have hplain := bne_of_not_mem hquery
    rw [List.dropWhile_append_of_pos hplain, List.dropWhile_eq_nil_iff.2 hplain, mark,
      if_neg hquery, List.drop_nil, FormUrl.decode_nil]
    exact FormUrl.decode_encode params

/-! ## Requests -/

section Requests

variable {sourceRoot name : String} {spec : RemoteSpec} {names : Bindings} {c : Context}
  {p : Prepared}

/-- The address of a request begins with its scheme, and holds that only once in front, unless the
address that is declared begins with the word of the scheme and not with the scheme. -/
theorem scheme_of_prepared (h : (ofSpec sourceRoot name spec names c).1 = .ok p) :
    ∃ d : Draft, d.Holds spec names c (ofSpec sourceRoot name spec names c).2 ∧
      p.kind = d.kind ∧ p.kind ∈ ["http", "https"] ∧
      (HasScheme p.kind p.url ↔
        (p.kind.toList <+: d.address.toList → HasScheme p.kind d.address)) ∧
      (p.kind.toList <+: d.address.toList → d.address.toList <+: p.url.toList) ∧
      (¬ p.kind.toList <+: d.address.toList →
        (p.kind ++ "://" ++ d.address).toList <+: p.url.toList) := by
  obtain ⟨d, hholds, hkind, rfl⟩ := ofSpec_eq_ok sourceRoot name spec names c h
  have hbehind := prefix_withParams (withKind d.kind d.address) d.params
  rw [Draft.finish_kind, Draft.finish_url]
  refine ⟨d, hholds, rfl, hkind, ?_, fun hword => ?_, fun hword => ?_⟩
  · exact (hasScheme_withParams hkind).trans hasScheme_withKind
  · rw [withKind_of_word hword] at hbehind ⊢
    exact hbehind
  · rw [toList_withKind_of_no_word hword, ← String.toList_append] at hbehind
    exact hbehind

/-- A request with padding around its type and its address. -/
def padded : RemoteSpec where
  type := " HTTPS "
  url := " example.test/get"

theorem scheme_of_prepared_padded :
    ∃ p, (ofSpec "src" "v" padded (.standard {}) pristine).1 = .ok p ∧
      p.url = "https://example.test/get" ∧ p.kind ∈ ["http", "https"] := by
  have hprepared : (ofSpec "src" "v" padded (.standard {}) pristine).1 =
      .ok { kind := "https", method := "GET", url := "https://example.test/get", headers := [],
            body := .none, skipVerify := false } := by decide +kernel
  obtain ⟨_, -, -, hkind, -⟩ := scheme_of_prepared hprepared
  exact ⟨_, hprepared, rfl, hkind⟩

/-- A request to a host whose name begins like a scheme. -/
def lookalike : RemoteSpec where
  type := "http"
  url := "httpbin.org/get"

/-- It is sent to an address without a scheme. -/
theorem scheme_missing :
    ∃ p, (ofSpec "src" "v" lookalike (.standard {}) pristine).1 = .ok p ∧
      p.kind = "http" ∧ p.url = "httpbin.org/get" ∧ ¬ HasScheme p.kind p.url := by
  have hprepared : (ofSpec "src" "v" lookalike (.standard {}) pristine).1 =
      .ok { kind := "http", method := "GET", url := "httpbin.org/get", headers := [],
            body := .none, skipVerify := false } := by decide +kernel
  exact ⟨_, hprepared, rfl, rfl, by decide⟩

/-- The query of a request holds the pairs of the address that is declared and then the parameters,
unless that address has a fragment, which the parameters become a part of. -/
theorem query_of_prepared (h : (ofSpec sourceRoot name spec names c).1 = .ok p) :
    ∃ d : Draft, d.Holds spec names c (ofSpec sourceRoot name spec names c).2 ∧
      queryPairs p.url =
        queryPairs d.address ++ if '#' ∈ d.address.toList then [] else d.params := by
  obtain ⟨d, hholds, hkind, rfl⟩ := ofSpec_eq_ok sourceRoot name spec names c h
  refine ⟨d, hholds, ?_⟩
  have hfragment : '#' ∈ (withKind d.kind d.address).toList ↔ '#' ∈ d.address.toList := by
    by_cases hword : d.kind.toList <+: d.address.toList
    · rw [withKind_of_word hword]
    · have hscheme := not_mem_of_mem_dividers hkind '#' (by decide)
      rw [toList_withKind_of_no_word hword, List.mem_append, or_iff_right hscheme]
  change queryPairs (withParams (withKind d.kind d.address) d.params) = _
  split
  next h =>
    rw [queryPairs, query_withParams_of_fragment (hfragment.2 h), query_withKind hkind,
      List.append_nil]
    rfl
  next h =>
    rw [queryPairs_withParams (mt hfragment.1 h), queryPairs, query_withKind hkind]
    rfl

/-- A request with a query and a list of parameters. -/
def paged : RemoteSpec where
  type := "http"
  url := "example.test/p?x=1"
  requestParams := some ⟨[("tag", .list ["a&b", "c"])], by decide⟩

theorem query_of_prepared_paged :
    ∃ p, (ofSpec "src" "v" paged (.standard {}) pristine).1 = .ok p ∧
      p.url = "http://example.test/p?x=1&tag=a%26b&tag=c" ∧ ∃ d : Draft,
        queryPairs p.url =
          queryPairs d.address ++ if '#' ∈ d.address.toList then [] else d.params := by
  have hprepared : (ofSpec "src" "v" paged (.standard {}) pristine).1 =
      .ok { kind := "http", method := "GET", url := "http://example.test/p?x=1&tag=a%26b&tag=c",
            headers := [], body := .none, skipVerify := false } := by decide +kernel
  obtain ⟨d, -, hpairs⟩ := query_of_prepared hprepared
  exact ⟨_, hprepared, rfl, d, hpairs⟩

/-- A request to an address with a fragment, with a parameter. -/
def anchored : RemoteSpec where
  type := "http"
  url := "example.test/p?x=1#top"
  requestParams := some ⟨[("a", .text "b")], by decide⟩

/-- The parameter is not in the query that is sent. -/
theorem params_in_fragment :
    ∃ p, (ofSpec "src" "v" anchored (.standard {}) pristine).1 = .ok p ∧
      p.url = "http://example.test/p?x=1#top&a=b" ∧ queryPairs anchored.url = [("x", "1")] ∧
      queryPairs p.url ≠ queryPairs anchored.url ++ [("a", "b")] := by
  have hprepared : (ofSpec "src" "v" anchored (.standard {}) pristine).1 =
      .ok { kind := "http", method := "GET", url := "http://example.test/p?x=1#top&a=b",
            headers := [], body := .none, skipVerify := false } := by decide +kernel
  have hwritten : query anchored.url = (FormUrl.encode [("x", "1")]).toList := by decide +kernel
  have hsent : query "http://example.test/p?x=1#top&a=b" = query anchored.url := by decide +kernel
  have hpairs : queryPairs anchored.url = [("x", "1")] := by
    rw [queryPairs, hwritten, FormUrl.decode_encode]
  refine ⟨_, hprepared, rfl, hpairs, ?_⟩
  rw [queryPairs, hsent, ← queryPairs, hpairs]
  decide

end Requests

end Scaffold.Prepared

import Scaffold.Proofs.Expr.Stops
import Scaffold.Proofs.OrderedMap

/-!
# Filters — what filters and tests can be stopped by

A filter or a test is found in a table by its name and takes what it is applied to as its arguments.
No test can be stopped, whatever it is applied to (`Test.halts_run`), and no filter but two: `format`
follows the directives of a text, which may ask for a width that is too large or for a name outside
of ASCII, and `map` may apply `format` (`Filter.halts_run_of_not_stoppable`). Where one of the two is
stopped, the directive that it names is at fault (`Filter.halts_run`). Each filter is looked at once,
and the tables entry by entry.
-/

set_option autoImplicit false

namespace Scaffold.Expr

variable {S : Stop → Prop} {α : Type}

namespace Escaping

theorem halts_write (e : Escaping) (v : Value) : Halts S (e.write v) := by
  unfold write
  split
  · exact halts_invalid
  · exact halts_ok _
  · exact halts_ok _
  · split <;> exact halts_ok _
  · exact (Value.halts_toJson _).bind fun _ => halts_ok _

theorem halts_ofValue (initial : Escaping) (v : Value) : Halts S (ofValue initial v) := by
  unfold ofValue
  split
  case h_4 => exact halts_invalid
  case h_5 => split <;> exact halts_ok _
  all_goals exact halts_ok _

end Escaping

open Params
open Scaffold.OrderedMap (mem_of_lookup)
open Scaffold.Text (Directive Measure)

/-! ## Tests -/

namespace Test

variable (args : Arguments)

theorem halts_holds (p : Value → Bool) : Halts S (holds p args) :=
  (halts_value.bind fun _ => halts_pure _).positional args

theorem halts_relates (p : Value → Value → Bool) : Halts S (relates p args) :=
  (halts_value.bind fun _ => halts_value.bind fun _ => halts_pure _).positional args

theorem halts_relatesTexts (p : String → String → Bool) : Halts S (relatesTexts p args) :=
  (halts_shown.bind fun _ => halts_shown.bind fun _ => halts_pure _).positional args

theorem halts_holdsText (p : String → Bool) : Halts S (holdsText p args) :=
  ((halts_takeAs halts_asText).bind fun _ => halts_pure _).positional args

theorem halts_hasKind (kind : Kind) : Halts S (hasKind kind args) := halts_holds args _

theorem halts_plainTests : ∀ entry ∈ plainTests, Halts S (entry.2 args) := by
  simp [plainTests, halts_holds, halts_relates, halts_relatesTexts, halts_holdsText, halts_hasKind]

theorem halts_run (name : String) : Halts S (run name args) := by
  unfold run
  split
  next test htest => exact halts_plainTests args _ (mem_of_lookup htest)
  · split
    · exact halts_holdsText args _
    · exact halts_holdsText args _
    · exact halts_of _

end Test

namespace Filter

/-! ## Filters on data and numbers -/

section

variable (args : Arguments)

theorem halts_failWith (detail : String) : Params.Halts S (failWith detail : Params α) :=
  halts_throw trivial

theorem halts_encodeWith (expects : String) (encode : Bytes → List Char) :
    Halts S (encodeWith expects encode args) := by
  refine (halts_value.bind fun v => halts_noMore.bind fun _ => ?_).positional args
  split
  · exact halts_pure _
  · exact halts_failWith _

theorem halts_b64dec : Halts S (b64dec args) := by
  refine ((halts_takeAs halts_asText).bind fun text => halts_noMore.bind fun _ => ?_).positional args
  split
  · exact halts_pure _
  · exact halts_failWith _

theorem halts_hexdec : Halts S (hexdec args) := by
  refine ((halts_takeAs halts_asText).bind fun text => halts_noMore.bind fun _ => ?_).positional args
  split
  · exact halts_pure _
  · exact halts_failWith _

theorem halts_fromJson : Halts S (fromJson args) := by
  refine ((halts_takeAs halts_asText).bind fun text => halts_noMore.bind fun _ => ?_).positional args
  split
  · exact halts_pure _
  · exact halts_failWith _

theorem halts_indentation (v : Value) : Params.Halts S (indentation v) := by
  unfold indentation
  split
  · exact halts_pure _
  · exact halts_pure _
  · exact (halts_asNat v).map _

theorem halts_printed (width : Option Nat) (j : Json) : Params.Halts S (printed width j) := by
  unfold printed
  split
  · exact halts_ite (halts_fail _) (halts_pure _)
  · exact halts_pure _

theorem halts_toJson : Halts S (toJson args) := by
  refine (halts_value.bind fun v => halts_next?.bind fun given => ?_).withNames args
  refine halts_noMore.bind fun _ => ?_
  dsimp only
  -- where the width stands, what it is, and what the value is in JSON
  split
  case' h_1 => refine (halts_pure _).bind fun given => ?_
  case' h_2 => refine (halts_keyword halts_asIs _).bind fun given => ?_
  all_goals
    split
    case' h_1 => refine (halts_indentation _).bind fun width => ?_
    case' h_2 => refine (halts_pure _).bind fun width => ?_
    all_goals
      split
      · exact (halts_pure _).bind fun j => halts_printed width j
      · exact (halts_fail _).bind fun j => halts_printed width j

theorem halts_pattern (source : String) : Params.Halts S (pattern source) := by
  unfold pattern
  split
  · exact halts_pure _
  · exact halts_failWith _

theorem halts_regex : Halts S (regex args) := by
  refine ((halts_takeAs halts_asText).bind fun text => ?_).positional args
  refine (halts_takeAs halts_asText).bind fun source => halts_noMore.bind fun _ => ?_
  exact (halts_pattern source).bind fun p => halts_pure _

theorem halts_regexReplace : Halts S (regexReplace args) := by
  refine ((halts_takeAs halts_asText).bind fun text => ?_).positional args
  refine (halts_takeAs halts_asText).bind fun source => ?_
  refine (halts_takeAs halts_asText).bind fun new => halts_noMore.bind fun _ => ?_
  exact (halts_pattern source).bind fun p => halts_pure _

theorem halts_onName (f : String → String) : Halts S (onName f args) :=
  ((halts_takeAs halts_asText).bind fun _ => halts_pure _).positional args

theorem halts_dataFilters : ∀ entry ∈ dataFilters, Halts S (entry.2 args) := by
  simp [dataFilters, halts_toJson, halts_fromJson, b64enc, hexenc, halts_encodeWith, halts_b64dec,
    halts_hexdec, halts_regex, halts_regexReplace, halts_onName]

theorem halts_abs : Halts S (abs args) := by
  refine (halts_value.bind fun v => halts_noMore.bind fun _ => ?_).positional args
  split
  · split
    · exact halts_lift (Value.halts_intOf _)
    · exact halts_pure _
  · exact halts_pure _
  · exact halts_fail _

theorem halts_int : Halts S (int args) := by
  refine (halts_value.bind fun v => halts_noMore.bind fun _ => ?_).positional args
  split
  case h_6 =>
    split
    · exact halts_pure _
    · exact halts_pure _
    · exact halts_fail _
  case h_7 => exact halts_fail _
  all_goals exact halts_pure _

theorem halts_float : Halts S (float args) := by
  refine (halts_value.bind fun v => halts_noMore.bind fun _ => ?_).positional args
  split
  case h_6 =>
    split
    · exact halts_pure _
    · exact halts_fail _
  case h_7 => exact halts_fail _
  all_goals exact halts_pure _

theorem halts_round : Halts S (round args) := by
  refine (halts_value.bind fun v => (halts_optional halts_asInt).bind fun places => ?_).positional
    args
  refine halts_noMore.bind fun _ => ?_
  split
  · exact halts_pure _
  · split
    · exact halts_pure _
    · exact halts_fail _
  · exact halts_fail _

theorem halts_bool : Halts S (bool args) :=
  (halts_value.bind fun _ => halts_pure _).positional args

theorem halts_numberFilters : ∀ entry ∈ numberFilters, Halts S (entry.2 args) := by
  simp [numberFilters, halts_abs, halts_int, halts_float, halts_round, halts_bool]

/-! ## Filters on rows -/

theorem halts_itemsOf (v : Value) : Params.Halts S (itemsOf v) := by
  unfold itemsOf
  split
  · exact halts_pure _
  · exact halts_fail _

theorem halts_length : Halts S (length args) := by
  refine (halts_value.bind fun v => halts_noMore.bind fun _ => ?_).positional args
  split
  · exact halts_pure _
  · exact halts_fail _

theorem halts_first : Halts S (first args) := by
  refine (halts_value.bind fun v => halts_noMore.bind fun _ => ?_).positional args
  split
  · exact halts_pure _
  · exact halts_pure _
  · exact halts_fail _

theorem halts_last : Halts S (last args) := by
  refine (halts_value.bind fun v => halts_noMore.bind fun _ => ?_).positional args
  split
  · exact halts_pure _
  · split
    · exact halts_pure _
    · exact halts_fail _
  · exact halts_fail _

theorem halts_reverse : Halts S (reverse args) := by
  refine (halts_value.bind fun v => halts_noMore.bind fun _ => ?_).positional args
  split
  case h_6 =>
    split
    · exact halts_pure _
    · exact halts_fail _
  all_goals exact halts_pure _

theorem halts_list : Halts S (list args) :=
  (halts_value.bind fun v => halts_noMore.bind fun _ => (halts_itemsOf v).bind fun _ =>
    halts_pure _).positional args

theorem halts_join (e : Escaping) : Halts S (join e args) := by
  refine (halts_value.bind fun v => halts_label?.bind fun joiner => ?_).positional args
  refine halts_noMore.bind fun _ => ?_
  split
  · exact halts_pure _
  · refine (halts_itemsOf v).bind fun items => ?_
    have hwritten (safe : Bool) (v : Value) : Halts S
        (if safe then e.write v else .ok (v.text?.getD v.print)) := by
      split
      · exact Escaping.halts_write e v
      · exact halts_ok _
    refine (halts_lift (hwritten _ _)).bind fun joiner => ?_
    exact (halts_lift (halts_mapM (hwritten _) items)).bind fun parts => halts_pure _

theorem halts_extreme (better : Ordering) : Halts S (extreme better args) :=
  (halts_value.bind fun v => halts_noMore.bind fun _ => (halts_itemsOf v).bind fun _ =>
    halts_pure _).positional args

theorem halts_sort : Halts S (sort args) := by
  refine (halts_value.bind fun v => halts_noMore.bind fun _ => ?_).withNames args
  refine (halts_itemsOf v).bind fun values => (halts_keyword halts_asBool _).bind fun _ => ?_
  refine (halts_keyword halts_asText _).bind fun given => ?_
  exact (halts_keyword halts_asBool _).bind fun _ => halts_pure _

theorem halts_dictsort : Halts S (dictsort args) := by
  refine (halts_value.bind fun v => halts_noMore.bind fun _ => ?_).withNames args
  split
  · exact halts_fail _
  · refine (halts_keyword halts_asText _).bind fun _ => ?_
    refine (halts_keyword halts_asBool _).bind fun _ => ?_
    exact (halts_keyword halts_asBool _).bind fun _ => halts_pure _

theorem halts_entries : Halts S (entries args) := by
  refine (halts_value.bind fun v => halts_noMore.bind fun _ => ?_).positional args
  split
  · exact halts_pure _
  · exact halts_fail _

theorem halts_groupby : Halts S (groupby args) := by
  refine (halts_value.bind fun v => (halts_optional halts_asText).bind fun given => ?_).withNames
    args
  refine halts_noMore.bind fun _ => (halts_keyword halts_asIs _).bind fun otherwise => ?_
  refine (halts_keyword halts_asBool _).bind fun caseSensitive => ?_
  dsimp only
  split
  · exact (halts_pure _).bind fun path => (halts_itemsOf v).bind fun _ => halts_pure _
  · refine (halts_keyword halts_asText _).bind fun named => ?_
    split
    · exact (halts_pure _).bind fun path => (halts_itemsOf v).bind fun _ => halts_pure _
    · exact (halts_fail _).bind fun path => (halts_itemsOf v).bind fun _ => halts_pure _

theorem halts_unique : Halts S (unique args) := by
  refine (halts_value.bind fun v => halts_noMore.bind fun _ => ?_).withNames args
  refine (halts_itemsOf v).bind fun values => (halts_keyword halts_asText _).bind fun given => ?_
  exact (halts_keyword halts_asBool _).bind fun _ => halts_pure _

theorem halts_sum : Halts S (sum args) := by
  refine (halts_value.bind fun v => halts_noMore.bind fun _ => ?_).positional args
  refine (halts_itemsOf v).bind fun values => ?_
  dsimp only
  split
  · exact halts_lift (halts_foldlM Value.halts_add _ _)
  · exact halts_fail _

theorem halts_batch : Halts S (batch args) := by
  refine (halts_value.bind fun v => (halts_takeAs halts_asNat).bind fun count => ?_).positional args
  refine halts_next?.bind fun filler => halts_noMore.bind fun _ => ?_
  split
  · exact halts_fail _
  · exact (halts_itemsOf v).bind fun values => halts_pure _

theorem halts_columns : Halts S (columns args) := by
  refine (halts_value.bind fun v => (halts_takeAs halts_asNat).bind fun count => ?_).positional args
  refine halts_next?.bind fun filler => halts_noMore.bind fun _ => ?_
  split
  · exact halts_fail _
  · exact (halts_itemsOf v).bind fun values => halts_pure _

theorem halts_attr : Halts S (attr args) :=
  (halts_value.bind fun v => halts_value.bind fun _ => halts_noMore.bind fun _ =>
    halts_lift (Value.halts_orUndefined v _)).positional args

theorem halts_orDefault : Halts S (orDefault args) :=
  (halts_value.bind fun _ => halts_next?.bind fun _ => halts_next?.bind fun _ =>
    halts_pure _).positional args

theorem halts_chain : Halts S (chain args) := by
  refine (halts_rest.bind fun values => ?_).positional args
  split
  · exact halts_pure _
  · split <;> exact halts_pure _

theorem halts_zip : Halts S (zip args) :=
  (halts_rest.bind fun values => (Params.halts_mapM halts_itemsOf values).bind fun _ =>
    halts_pure _).positional args

theorem halts_rowFilters (e : Escaping) : ∀ entry ∈ rowFilters e, Halts S (entry.2 args) := by
  simp [rowFilters, halts_length, halts_first, halts_last, halts_reverse, halts_list, halts_join,
    halts_extreme, halts_sort, halts_dictsort, halts_entries, halts_groupby, halts_unique,
    halts_sum, halts_batch, halts_columns, halts_attr, halts_orDefault, halts_chain, halts_zip]

/-! ## Filters on texts -/

theorem halts_onText (f : String → String) : Halts S (onText f args) :=
  (halts_label.bind fun _ => halts_pure _).positional args

theorem halts_asTitle : Halts S (asTitle args) :=
  (halts_shown.bind fun _ => halts_pure _).positional args

theorem halts_replace (e : Escaping) : Halts S (replace e args) := by
  refine (halts_label.bind fun text => halts_label.bind fun part => ?_).positional args
  refine halts_label.bind fun new => ?_
  have hwritten (safe : Bool) (v : Value) : Halts S
      (if safe then e.write v else .ok (shownText v)) := by
    split
    · exact Escaping.halts_write e v
    · exact halts_ok _
  refine (halts_lift (hwritten _ _)).bind fun text => ?_
  exact (halts_lift (hwritten _ _)).bind fun new => halts_pure _

theorem halts_trim : Halts S (trim args) :=
  (halts_label.bind fun _ => halts_shown?.bind fun _ => halts_pure _).positional args

theorem halts_asReadable (v : Value) : Params.Halts S (asReadable v) := by
  unfold asReadable
  split
  · exact halts_pure _
  · exact halts_asText _

theorem halts_split : Halts S (split args) := by
  refine (halts_value.bind fun v => (halts_asReadable v).bind fun text => ?_).positional args
  refine (halts_optional halts_asText).bind fun part => ?_
  exact (halts_optional halts_asInt).bind fun most => halts_pure _

theorem halts_lines : Halts S (lines args) :=
  (halts_value.bind fun v => (halts_asReadable v).bind fun _ => halts_pure _).positional args

theorem halts_indent : Halts S (indent args) := by
  refine (halts_value.bind fun v => (halts_optional halts_asNat).bind fun width => ?_).withNames args
  refine (halts_optional halts_asBool).bind fun first => ?_
  refine (halts_optional halts_asBool).bind fun blank => halts_noMore.bind fun _ => ?_
  have hnamed {α : Type} (given : Option α) (name : String) {form : Value → Params α}
      (hform : ∀ v, Params.Halts S (form v)) :
      Params.Halts S (if given.isSome then return given else keyword name form) := by
    split
    · exact halts_pure _
    · exact halts_keyword hform name
  refine (hnamed width _ halts_asNat).bind fun width => ?_
  refine (hnamed first _ halts_asBool).bind fun first => ?_
  refine (hnamed blank _ halts_asBool).bind fun blank => ?_
  split
  · exact halts_fail _
  · exact halts_pure _

theorem halts_urlencode : Halts S (urlencode args) := by
  refine (halts_value.bind fun v => ?_).positional args
  split <;> exact halts_pure _

theorem halts_safe : Halts S (safe args) :=
  (halts_shown.bind fun _ => halts_pure _).positional args

theorem halts_escape (e : Escaping) : Halts S (escape e args) := by
  refine (halts_value.bind fun v => halts_noMore.bind fun _ => ?_).positional args
  split
  · exact halts_pure _
  · exact (halts_lift (Escaping.halts_write _ v)).bind fun _ => halts_pure _

theorem halts_string : Halts S (string args) := by
  refine (halts_value.bind fun v => ?_).positional args
  split <;> exact halts_pure _

theorem halts_spelledTall : Halts S (spelledTall args) :=
  (halts_value.bind fun _ => halts_pure _).positional args

/-- Only the filter that follows directives can be stopped. -/
theorem halts_textFilters (e : Escaping) :
    ∀ entry ∈ textFilters e, entry.1 ≠ "format" → Halts S (entry.2 args) := by
  simp [textFilters, halts_onText, halts_asTitle, halts_replace, halts_trim, halts_split,
    halts_lines, halts_indent, halts_urlencode, halts_safe, halts_escape, halts_string,
    halts_spelledTall]

theorem halts_measured (m : Measure) : Params.Halts Stop.Genuine (measured m) := by
  unfold measured
  split
  · split
    · exact halts_fail _
    · split
      next hwide => exact halts_throw hwide
      · exact halts_pure _
  · exact halts_pure _

theorem halts_argumentOf (d : Directive) (named : Value) (values : List Value) :
    Params.Halts Stop.Genuine (argumentOf d named values) := by
  unfold argumentOf
  split
  next name _ =>
    split
    next hforeign =>
      refine halts_throw (show ∃ c ∈ name.toList, 128 ≤ c.toNat from ?_)
      simpa using hforeign
    · split
      · split
        · exact halts_pure _
        · exact halts_fail _
      · exact halts_fail _
  · exact halts_pure _
  · exact halts_fail _

theorem halts_formattedFrom (prepared : Value → Value) (named : Value) (fuel : Nat)
    (values : List Value) (text : List Char) :
    Params.Halts Stop.Genuine (formattedFrom prepared named fuel values text) := by
  induction fuel generalizing values text with
  | zero => exact halts_pure _
  | succ fuel ih =>
    unfold formattedFrom
    split
    · exact halts_pure _
    · exact (ih _ _).bind fun _ => halts_pure _
    · split
      · exact halts_fail _
      · refine (halts_measured _).bind fun width => (halts_measured _).bind fun precision => ?_
        refine (halts_argumentOf _ _ _).bind fun taken => ?_
        dsimp only
        split
        · exact (ih _ _).bind fun _ => halts_pure _
        · exact halts_fail _
    · exact (ih _ _).bind fun _ => halts_pure _

theorem halts_format : Halts Stop.Genuine (format args) := by
  refine (halts_value.bind fun v => (halts_asText v).bind fun text => ?_).positional args
  refine halts_rest.bind fun values => ?_
  exact (halts_formattedFrom _ _ _ _ _).bind fun _ => halts_pure _

/-! ## Filters by name -/

/-- No filter that applies no other can be stopped but the one that follows directives. -/
theorem halts_plainFilters (e : Escaping) :
    ∀ entry ∈ plainFilters e, entry.1 ≠ "format" → Halts S (entry.2 args) := by
  intro entry hentry hname
  simp only [plainFilters, List.mem_append] at hentry
  rcases hentry with ((hentry | hentry) | hentry) | hentry
  · exact halts_textFilters args e entry hentry hname
  · exact halts_rowFilters args e entry hentry
  · exact halts_numberFilters args entry hentry
  · exact halts_dataFilters args entry hentry

theorem halts_plainFilter {e : Escaping} {name : String}
    {filter : Arguments → Except Halt Value} (h : (plainFilters e).lookup name = some filter) :
    Halts Stop.Genuine (filter args) := by
  by_cases hname : name = "format"
  · subst hname
    obtain rfl : format = filter := Option.some.inj h
    exact halts_format args
  · exact halts_plainFilters args e _ (mem_of_lookup h) hname

theorem halts_passes (path test : Option String) (more : List Value) (item : Value) :
    Params.Halts S (passes path test more item) := by
  unfold passes
  dsimp only
  split
  case' h_1 => refine (halts_lift (Value.halts_path item _)).bind fun part => ?_
  case' h_2 => refine (halts_pure item).bind fun part => ?_
  all_goals
    split
    · exact halts_lift (Test.halts_run _ _)
    · exact halts_pure _

theorem halts_selectItems (keep byAttribute : Bool) :
    Halts S (selectItems keep byAttribute args) := by
  refine (halts_value.bind fun v => ?_).positional args
  have hkept (path test : Option String) (more : List Value) : Params.Halts S (do
      let items ← itemsOf v
      let kept ← items.filterM fun item => return (← passes path test more item) == keep
      return .seq kept : Params Value) := by
    refine (halts_itemsOf v).bind fun items => ?_
    refine (halts_filterM (fun item => ?_) items).bind fun kept => halts_pure _
    exact (halts_passes path test more item).bind fun _ => halts_pure _
  dsimp only
  split
  case' isTrue => refine (halts_shown.map some).bind fun path => ?_
  case' isFalse => refine (halts_pure none).bind fun path => ?_
  all_goals
    refine halts_shown?.bind fun test => halts_rest.bind fun more => ?_
    split
    · split
      · exact hkept path _ more
      · exact (halts_fail _).bind fun _ => hkept path _ more
    · exact hkept path none more

theorem halts_partAt (path v : Value) : Halts S (partAt path v) := by
  unfold partAt
  split
  · exact Value.halts_path v _
  · exact Value.halts_orUndefined v _

theorem halts_attributeOf (path otherwise v : Value) : Halts S (attributeOf path otherwise v) := by
  unfold attributeOf
  split
  · exact halts_ok _
  · exact halts_ok _
  next herror => exact halts_error (halts_partAt path v _ herror)
  · exact halts_ok _

theorem halts_mapAttribute (path : Value) : Halts S (mapAttribute path args) := by
  refine (halts_value.bind fun v => halts_noMore.bind fun _ => ?_).withNames args
  refine (halts_keyword? _).bind fun _ => (halts_keyword? _).bind fun otherwise => ?_
  refine halts_noMoreNames.bind fun _ => (halts_itemsOf v).bind fun items => ?_
  exact (halts_lift (halts_mapM (halts_attributeOf path _) items)).bind fun _ => halts_pure _

/-- Whatever a filter is applied to, it can only be stopped by what its stop says. -/
theorem halts_runWithin (e : Escaping) (fuel : Nat) (name : String) (args : Arguments) :
    Halts Stop.Genuine (runWithin e fuel name args) := by
  induction fuel generalizing name args with
  | zero => exact halts_invalid
  | succ fuel ih =>
    unfold runWithin
    split
    next filter hfilter => exact halts_plainFilter args hfilter
    · split
      case h_6 => exact halts_of _
      case h_5 =>
        split
        · exact halts_mapAttribute args _
        · split
          · exact halts_of _
          · exact halts_invalid
          · split
            · exact halts_invalid
            · split
              · split
                · exact halts_invalid
                · exact (halts_mapM (fun item => ih _ _) _).bind fun _ => halts_ok _
              · exact halts_of _
      all_goals exact halts_selectItems args _ _

theorem halts_run (e : Escaping) (name : String) : Halts Stop.Genuine (run e name args) :=
  halts_runWithin e _ name args

/-- The filters that can be stopped: the one that follows directives, and the one that may apply
it. -/
def stoppable : List String := ["format", "map"]

/-- No other filter can be stopped, whatever it is applied to. -/
theorem halts_run_of_not_stoppable (e : Escaping) {name : String} (h : name ∉ stoppable) :
    Halts S (run e name args) := by
  obtain ⟨hformat, hmap⟩ : name ≠ "format" ∧ name ≠ "map" := by simpa [stoppable] using h
  unfold run runWithin
  split
  next filter hfilter =>
    exact halts_plainFilters args e _ (mem_of_lookup hfilter) hformat
  · split
    case h_5 => exact absurd rfl hmap
    case h_6 => exact halts_of _
    all_goals exact halts_selectItems args _ _

end

end Filter

end Scaffold.Expr

import Scaffold.Context
import Scaffold.Proofs.Range

/-!
# Forms — a field map as a source, whichever way it comes

A field map comes to a range as an object of its own kind or as plain data: the variables of the
live document are such an object, and the headers of a declared request are data. An object is a
source by itself. Of data the keys are enumerated and looked up again one by one, and this finds the
entries that there are because the keys of a field map are different texts
(`enumerated?_record`). So the two sources, which are of different kinds, have the same elements,
and at any place among others a walk does not tell them apart (`walk_congr`).
-/

set_option autoImplicit false

namespace Scaffold

open Scaffold.Expr (Value Identity)

namespace Expr.Value

/-! ## Looking up texts -/

theorem same_text (s t : String) : same (text s) (text t) = (s == t) := rfl

theorem sameKey_text (s t : String) : sameKey (text s) (text t) = (s == t) := rfl

/-- Among texts a text is found as itself. -/
theorem lookupEntry_textKeys (entries : List (String × Value)) (key : String) :
    lookupEntry (textKeys entries) (text key) = entries.lookup key := by
  have hfind : ((textKeys entries).find? fun entry => entry.1.sameKey (text key)).map Prod.snd =
      entries.lookup key := by
    induction entries with
    | nil => rfl
    | cons entry entries ih =>
      obtain ⟨k, v⟩ := entry
      rw [OrderedMap.lookup_cons_eq_ite, ← ih, textKeys, List.map_cons, List.find?_cons,
        sameKey_text]
      by_cases hk : key = k
      · subst hk
        simp
      · rw [if_neg hk, beq_eq_false_iff_ne.2 (Ne.symm hk)]
        rfl
  match entries with
  | [] => exact hfind
  | [(k, v)] =>
    rw [← hfind, textKeys, List.map_singleton, lookupEntry, List.find?_singleton, same_text,
      sameKey_text]
    split <;> rfl
  | _ :: _ :: _ => exact hfind

end Expr.Value

/-! ## The two sources -/

namespace RangeSource

/-- Of a record the keys are enumerated and found again with their values. -/
theorem enumerated?_record {entries : List (String × Value)}
    (hnodup : (entries.map Prod.fst).Nodup) :
    enumerated? (.record entries) = some (Value.textKeys entries) := by
  have hfound (entry : String × Value) (hentry : entry ∈ entries) :
      (Value.record entries).at? (.text entry.1) = some entry.2 := by
    change Value.lookupEntry (Value.textKeys entries) (.text entry.1) = _
    rw [Value.lookupEntry_textKeys]
    exact OrderedMap.get?_of_mem (m := ⟨entries, hnodup⟩) hentry
  have helements : (Value.record entries).elements? =
      some ((Value.textKeys entries).map Prod.fst) := rfl
  have hdefined : Value.record entries ≠ .undefined := nofun
  rw [enumerated?_eq hdefined, helements, Option.map_some, Value.textKeys, List.map_map,
    List.map_map]
  refine congrArg some (List.map_congr_left fun entry hentry => ?_)
  simp only [Function.comp_apply, hfound entry hentry, Option.getD_some]

/-- The entries of a field map that is plain data. -/
theorem ofValue?_ofFieldMap (m : FieldMap) :
    ofValue? (.ofFieldMap m) = some (.map (RangeSource.fields m).entries) := by
  have hkeys : (m.entries.map fun entry => (entry.1, Value.ofField entry.2)).map Prod.fst =
      m.entries.map Prod.fst := by
    rw [List.map_map]
    rfl
  change (enumerated? (.record _)).map RangeSource.map = _
  rw [enumerated?_record (hkeys ▸ m.nodup), Option.map_some, Value.textKeys, List.map_map]
  rfl

end RangeSource

namespace Range

section Walking

variable {M : Type → Type} [Monad M] (action : Bindings → M (Except Error Unit))

/-- Only the elements of a source count for a walk. -/
theorem walk_congr {a b : RangeSource} (h : a.entries = b.entries)
    (front behind : List RangeSource) (level : Nat) (names : Bindings) :
    walk action (front ++ a :: behind) level names =
      walk action (front ++ b :: behind) level names := by
  induction front generalizing level names with
  | nil =>
    have hempty : a.isEmpty = b.isEmpty := by
      rw [Bool.eq_iff_iff, isEmpty_iff_entries, isEmpty_iff_entries, h]
    rw [List.nil_append, List.nil_append, walk, walk, hempty, h]
  | cons source front ih =>
    have hbelow : walk action (front ++ a :: behind) (level + 1) =
        walk action (front ++ b :: behind) (level + 1) := funext fun names => ih (level + 1) names
    rw [List.cons_append, List.cons_append, walk, walk, hbelow]

omit [Monad M] in
/-- Behind sources with elements, the first one without elements is met at its place. -/
theorem emptyLevel?_append {front : List RangeSource} (hfront : ∀ s ∈ front, s.isEmpty = false)
    {source : RangeSource} (hsource : source.isEmpty = true) (behind : List RangeSource)
    (level : Nat) : emptyLevel? (front ++ source :: behind) level = some (level + front.length) := by
  induction front generalizing level with
  | nil => rw [List.nil_append, emptyLevel?, if_pos hsource, List.length_nil, Nat.add_zero]
  | cons s front ih =>
    have hs : ¬ s.isEmpty = true := Bool.eq_false_iff.1 (hfront s List.mem_cons_self)
    rw [List.cons_append, emptyLevel?, if_neg hs,
      ih (fun s hmem => hfront s (List.mem_cons_of_mem _ hmem)), List.length_cons]
    exact congrArg some (by omega)

end Walking

/-- The variables of the live document are a field map as an object, and the headers of a declared
request are one as plain data. A field map is a source in both forms; the sources are of different
kinds, and the pairs of key and value are the same in the same order. At any place among other
sources a walk makes of both the same, whatever it does with the combinations; and if the field map
is empty and all sources in front of it have elements, it is reported with its place in both. -/
theorem walk_forms_alike (m : FieldMap) (identity : Identity) :
    (∀ c : Context, c.document.vars = some m → (c.answer (.section "vars")).1 = .fields m) ∧
      (∀ (c : Context) (name : String) (spec : RemoteSpec),
        c.document.remoteSpec? name = some spec → spec.headers = some m →
        (c.answer (.remoteVar name)).1.getAttribute "headers" = .ok (.ofFieldMap m)) ∧
      ∃ entries, RangeSource.ofValue? (.fields m identity) = some (.fields m) ∧
        RangeSource.ofValue? (.ofFieldMap m) = some (.map entries) ∧
        (RangeSource.fields m).entries = (RangeSource.map entries).entries ∧
        entries = m.entries.map (fun entry => (.text entry.1, .ofField entry.2)) ∧
        (∀ {M : Type → Type} [Monad M] (action : Bindings → M (Except Error Unit))
          (front behind : List RangeSource) (level : Nat) (names : Bindings),
          walk action (front ++ .fields m :: behind) level names =
            walk action (front ++ .map entries :: behind) level names) ∧
        (m.isEmpty = true → ∀ {M : Type → Type} [Monad M] [LawfulMonad M]
          (action : Bindings → M (Except Error Unit)) (front behind : List RangeSource)
          (level : Nat) (names : Bindings), (∀ source ∈ front, source.isEmpty = false) →
          ∀ form ∈ [.fields m, .map entries], ∃ after,
            walk action (front ++ form :: behind) level names =
              pure (.error (.range (.empty (level + front.length))), after)) := by
  have hentries : (RangeSource.fields m).entries =
      (RangeSource.map (RangeSource.fields m).entries).entries := rfl
  refine ⟨fun c hvars => ?_, fun c name spec hspec hheaders => ?_, _, rfl,
    RangeSource.ofValue?_ofFieldMap m, hentries, rfl, fun action => walk_congr action hentries,
    fun hempty _ _ _ action front behind level names hfront form hform => ?_⟩
  · rw [Context.answer, Context.aboutDocument, hvars]
    rfl
  · rw [Context.answer, hspec]
    simp only [Value.ofOption, RemoteSpec.toValue, hheaders]
    rfl
  · have hform : form.entries = m.entries.map fun entry => (.text entry.1, .ofField entry.2) := by
      rcases List.mem_pair.1 hform with rfl | rfl <;> rfl
    have hsource : form.isEmpty = true := by
      rw [isEmpty_iff_entries, hform, List.isEmpty_iff.1 hempty, List.map_nil]
    exact ⟨_, walk_of_empty action (emptyLevel?_append hfront hsource behind level) names⟩

/-- A text and a list of texts, in the order of their declaration. -/
example :
    let m : FieldMap := .ofList [("b", .text "1"), ("a", .list ["x", "y"])]
    (RangeSource.ofValue? (.ofFieldMap m)).map RangeSource.entries =
      some [(.text "b", .text "1"), (.text "a", .seq [.text "x", .text "y"])] := rfl

end Range

end Scaffold

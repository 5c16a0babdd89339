import Scaffold.FileSystem.Path
import Scaffold.Proofs.Occurrences

/-!
# Path — where paths lead when dots are resolved

A path is a row of names that are walked one by one: a single dot stays, two dots lead back, and
where there is nothing left to lead back from, out of the start. What is walked in all is the route
of a path. The route of a joined path is that of the base, walked on by the names of the path that
is joined to it (`route_join`), unless that path is absolute; and so a joined path leads below its
base if it comes upon the names again that it has climbed over (`encloses_append_iff`).
-/

set_option autoImplicit false

namespace Scaffold

namespace Path

/-! ## Joined paths -/

theorem toList_slash : "/".toList = ['/'] := rfl

theorem parts_slash (base path : String) :
    parts (base ++ "/" ++ path) = parts base ++ parts path := by
  rw [parts, String.toList_append, String.toList_append, toList_slash, List.append_assoc,
    List.singleton_append, Occurrences.split_append_cons, List.map_append]
  rfl

theorem steps_slash (base path : String) :
    steps (base ++ "/" ++ path) = steps base ++ steps path := by
  rw [steps, parts_slash, List.filter_append]
  rfl

theorem steps_empty : steps "" = [] := by
  have hparts : parts "" = [""] := congrArg _ (Occurrences.split_of_cut_none rfl)
  rw [steps, hparts]
  rfl

/-- A path that ends in a slash is another one in front of a slash. -/
theorem eq_append_slash {path : String} (h : path.toList.getLast? = some '/') :
    ∃ front, path = front ++ "/" := by
  obtain ⟨front, hfront⟩ := List.getLast?_eq_some_iff.1 h
  refine ⟨String.ofList front, String.toList_injective ?_⟩
  rw [hfront, String.toList_append, String.toList_ofList, toList_slash]

/-- A path that is joined to another one is walked behind it. -/
theorem steps_join (base : String) {path : String} (h : isAbsolute path = false) :
    steps (join base path) = steps base ++ steps path := by
  rw [join, h, if_neg Bool.false_ne_true]
  split
  next hdirect =>
    rcases Bool.or_eq_true_iff.1 hdirect with hempty | hslash
    · rw [String.isEmpty_iff.1 hempty, steps_empty, String.empty_append]
      rfl
    · obtain ⟨front, rfl⟩ := eq_append_slash (beq_iff_eq.1 hslash)
      have hbase : steps (front ++ "/") = steps front := by
        rw [← String.append_empty (s := front ++ "/"), steps_slash, steps_empty, List.append_nil]
      rw [steps_slash, hbase]
  next => exact steps_slash base path

/-- A joined path begins at the root if one of the two does. -/
theorem isAbsolute_join (base path : String) :
    isAbsolute (join base path) = (isAbsolute base || isAbsolute path) := by
  rw [join]
  split
  next h => rw [h, Bool.or_true]
  next h =>
    rw [Bool.eq_false_iff.2 h, Bool.or_false]
    split
    next hdirect =>
      rcases Bool.or_eq_true_iff.1 hdirect with hempty | hslash
      · rw [String.isEmpty_iff.1 hempty, String.empty_append, Bool.eq_false_iff.2 h]
        rfl
      · obtain ⟨front, rfl⟩ := eq_append_slash (beq_iff_eq.1 hslash)
        rw [isAbsolute, isAbsolute, String.toList_append, List.head?_append_of_ne_nil]
        rw [String.toList_append, toList_slash]
        exact List.concat_ne_nil _ _
    next hdirect =>
      have hbase : base.toList ≠ [] := fun hnil =>
        hdirect (by simp [String.toList_eq_nil_iff.1 hnil])
      rw [isAbsolute, isAbsolute, String.append_assoc, String.toList_append,
        List.head?_append_of_ne_nil _ hbase]

theorem join_of_isAbsolute (base : String) {path : String} (h : isAbsolute path = true) :
    join base path = path :=
  if_pos h

/-- Paths in a row begin at the root if one of them does. -/
theorem isAbsolute_foldl_join (base : String) (paths : List String) :
    isAbsolute (paths.foldl join base) = (isAbsolute base || paths.any isAbsolute) := by
  induction paths generalizing base with
  | nil => exact (Bool.or_false _).symm
  | cons path paths ih => rw [List.foldl_cons, ih, isAbsolute_join, List.any_cons, Bool.or_assoc]

/-! ## Routes -/

/-- What is walked in all. -/
structure Route where
  /-- It starts at the root, out of which nothing leads. -/
  rooted : Bool
  /-- How often it leads out of its start. -/
  climbs : Nat
  /-- The names that lead from there to where it ends. -/
  names : List String
  deriving DecidableEq

namespace Route

/-- One more name: dots stay or lead back. -/
def step (r : Route) (name : String) : Route :=
  if name = "." then r
  else if name = ".." then
    if r.names = [] then { r with climbs := if r.rooted then r.climbs else r.climbs + 1 }
    else { r with names := r.names.dropLast }
  else { r with names := r.names ++ [name] }

/-- The route that goes nowhere. -/
def start (rooted : Bool) : Route := ⟨rooted, 0, []⟩

/-- A route that is gone behind another one: it climbs over the names of that one first. -/
def append (r s : Route) : Route where
  rooted := r.rooted
  climbs := if r.rooted then r.climbs else r.climbs + (s.climbs - r.names.length)
  names := r.names.take (r.names.length - s.climbs) ++ s.names

/-- The second route ends where the first one ends, or below. -/
def Encloses (r s : Route) : Prop :=
  r.rooted = s.rooted ∧ r.climbs = s.climbs ∧ r.names <+: s.names

instance (r s : Route) : Decidable (r.Encloses s) :=
  inferInstanceAs (Decidable (_ ∧ _ ∧ _))

/-- Gone behind the first route, the second one does not climb out of where that one starts, and it
comes upon the names again that it has climbed over. -/
def Regains (r s : Route) : Prop :=
  (r.rooted = true ∨ s.climbs ≤ r.names.length) ∧
    r.names.drop (r.names.length - s.climbs) <+: s.names

theorem append_start (r : Route) : r.append (start false) = r := by
  simp [append, start]

/-- One more name behind two routes is one more behind the second. -/
theorem step_append (r : Route) {s : Route} (hs : s.rooted = false) (name : String) :
    (r.append s).step name = r.append (s.step name) := by
  by_cases hdot : name = "."
  · rw [step, step, if_pos hdot, if_pos hdot]
  by_cases hdots : name = ".."
  · rw [step, step, if_neg hdot, if_neg hdot, if_pos hdots, if_pos hdots]
    by_cases hnames : s.names = []
    · have hlast : (r.names.take (r.names.length - s.climbs)).dropLast =
          r.names.take (r.names.length - (s.climbs + 1)) := by
        rw [List.dropLast_eq_take, List.take_take, List.length_take]
        congr 1
        omega
      by_cases hempty : r.names.take (r.names.length - s.climbs) = []
      · have hclimbs : r.names.length ≤ s.climbs := by
          have hlength := congrArg List.length hempty
          rw [List.length_take, List.length_nil] at hlength
          omega
        cases hrooted : r.rooted <;> simp [append, hnames, hempty, hs, hrooted, ← hlast]
        omega
      · have hclimbs : s.climbs < r.names.length := by
          refine Nat.lt_of_not_le fun hle => hempty ?_
          rw [Nat.sub_eq_zero_of_le hle, List.take_zero]
        cases hrooted : r.rooted <;> simp [append, hnames, hempty, hs, hrooted, hlast]
        omega
    · have hne : r.names.take (r.names.length - s.climbs) ++ s.names ≠ [] :=
        List.append_ne_nil_of_right_ne_nil _ hnames
      simp only [append, if_neg hne, if_neg hnames, List.dropLast_append_of_ne_nil hnames]
  · rw [step, step, if_neg hdot, if_neg hdot, if_neg hdots, if_neg hdots]
    simp only [append, List.append_assoc]

theorem step_rooted (s : Route) (name : String) : (s.step name).rooted = s.rooted := by
  rw [step]
  split
  · rfl
  · split
    · split <;> rfl
    · rfl

/-- Names behind two routes are names behind the second. -/
theorem foldl_step_append (r : Route) {s : Route} (hs : s.rooted = false) (names : List String) :
    names.foldl step (r.append s) = r.append (names.foldl step s) := by
  induction names generalizing s with
  | nil => rfl
  | cons name names ih =>
    rw [List.foldl_cons, List.foldl_cons, step_append r hs, ih ((step_rooted s name).trans hs)]

/-- A route that is gone behind another one ends below where that one ends exactly if it gains back
what it has climbed over. -/
theorem encloses_append_iff (r s : Route) : r.Encloses (r.append s) ↔ r.Regains s := by
  have hnames : r.names <+: r.names.take (r.names.length - s.climbs) ++ s.names ↔
      r.names.drop (r.names.length - s.climbs) <+: s.names := by
    generalize r.names.length - s.climbs = kept
    conv_lhs => lhs; rw [← List.take_append_drop kept r.names]
    exact List.prefix_append_right_inj _
  have hclimbs : r.climbs = (r.append s).climbs ↔
      r.rooted = true ∨ s.climbs ≤ r.names.length := by
    cases hrooted : r.rooted <;> simp [append, hrooted]
    omega
  rw [Encloses, Regains, hclimbs]
  exact ⟨fun h => ⟨h.2.1, hnames.1 h.2.2⟩, fun h => ⟨rfl, h.1, hnames.2 h.2⟩⟩

/-- A route that never climbs out of its start stays below. -/
theorem encloses_append_of_climbs_eq_zero (r : Route) {s : Route} (hs : s.climbs = 0) :
    r.Encloses (r.append s) := by
  refine (encloses_append_iff r s).2 ⟨.inr (hs ▸ Nat.zero_le _), ?_⟩
  rw [hs, Nat.sub_zero, List.drop_length]
  exact List.nil_prefix

end Route

/-- The route of a path. -/
def route (path : String) : Route :=
  (steps path).foldl Route.step (.start (isAbsolute path))

/-- A joined path is walked behind its base. -/
theorem route_join (base : String) {path : String} (h : isAbsolute path = false) :
    route (join base path) = (route base).append (route path) := by
  have hbase : isAbsolute (join base path) = isAbsolute base := by
    rw [isAbsolute_join, h, Bool.or_false]
  have hpath : route path = (steps path).foldl Route.step (.start false) := by rw [route, h]
  have hbehind := Route.foldl_step_append (route base) (s := .start false) rfl (steps path)
  rw [Route.append_start] at hbehind
  rw [hpath, ← hbehind, route, hbase, steps_join base h, List.foldl_append]
  rfl

end Path

end Scaffold

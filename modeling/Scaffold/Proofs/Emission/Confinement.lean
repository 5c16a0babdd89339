import Scaffold.Proofs.Emission.Splicing
import Scaffold.Proofs.Evaluation
import Scaffold.Proofs.FileSystem.Path

/-!
# Confinement — where the targets of a template lie

The path of a template is evaluated as a whole and divided at its slashes; each segment is evaluated
again, and what it comes to is joined to the output directory without being looked at
(`target_of_plan`). So where a target lies depends on these texts alone. While none of them is
absolute, the target lies below the output directory exactly if the texts do not climb out of it for
good; an absolute one leaves the output directory out altogether (`plan_encloses_iff`).
-/

set_option autoImplicit false

namespace Scaffold

namespace Emission

/-- What the segments of a path come to, without the blanks around it. -/
def pathTexts (template : String) (names : Bindings) : Step (List String) := do
  let path ← evaluateText template names
  let texts ← evaluateTexts names ((Path.parts path).filter (!Text.isBlankText ·))
  return texts.map Text.trim

/-- The texts of a path as one path. -/
def relativePath (texts : List String) : String := texts.foldl Path.join ""

section Planning

variable {roots : Roots} {template : String} {spec : FileSpec} {names : Bindings}
  {c c' : Context}

theorem planSegments_eq_ok {segments : List String} {path target : String}
    (h : planSegments names segments path c = (.ok target, c')) :
    ∃ texts, evaluateTexts names segments c = (.ok texts, c') ∧
      target = (texts.map Text.trim).foldl Path.join path := by
  induction segments generalizing path c with
  | nil =>
    cases h
    exact ⟨[], rfl, rfl⟩
  | cons segment segments ih =>
    obtain ⟨text, c₁, htext, hrest⟩ := Step.bind_eq_ok h
    obtain ⟨texts, htexts, htarget⟩ := ih hrest
    refine ⟨text :: texts, ?_, htarget⟩
    change Step.bind _ _ c = _
    rw [Step.bind, htext]
    change Step.bind _ _ c₁ = _
    rw [Step.bind, htexts]
    rfl

/-- A path is planned by joining the texts of its segments to the output directory. -/
theorem planPath_eq_ok {target : String}
    (h : planPath roots template names c = (.ok target, c')) :
    ∃ texts, pathTexts template names c = (.ok texts, c') ∧
      target = Path.join roots.output (relativePath texts) := by
  obtain ⟨path, c₁, hpath, hrest⟩ := Step.bind_eq_ok h
  obtain ⟨joined, c₂, hsegments, hjoin⟩ := Step.bind_eq_ok hrest
  obtain ⟨texts, htexts, hjoined⟩ := planSegments_eq_ok hsegments
  cases hjoin
  refine ⟨texts.map Text.trim, ?_, congrArg (Path.join roots.output) hjoined⟩
  change Step.bind _ _ c = _
  rw [Step.bind, hpath]
  change Step.bind _ _ c₁ = _
  rw [Step.bind, htexts]
  rfl

/-- The target of an operation is the path that was planned, whatever the operation is. -/
theorem target_of_plan {operation : Operation}
    (h : plan roots template spec names c = (.ok operation, c')) :
    ∃ c₁, planPath roots template names c = (.ok operation.target, c₁) := by
  obtain ⟨target, c₁, hpath, hrest⟩ := Step.bind_eq_ok h
  refine ⟨c₁, hpath.trans (congrArg (fun target => (Except.ok target, c₁)) ?_)⟩
  split at hrest
  · cases hrest
    rfl
  · split at hrest
    · split at hrest
      · cases hrest
      · obtain ⟨content, c₂, -, hwrite⟩ := Step.bind_eq_ok hrest
        cases hwrite
        rfl
    · obtain ⟨source, c₂, -, hcopy⟩ := Step.bind_eq_ok hrest
      cases hcopy
      rfl

/-- The texts of a path are absolute together if one of them is. -/
theorem isAbsolute_relativePath (texts : List String) :
    Path.isAbsolute (relativePath texts) = texts.any Path.isAbsolute := by
  rw [relativePath, Path.isAbsolute_foldl_join]
  rfl

end Planning

/-- Where what is planned goes: to the texts of the path, joined to the output directory. If none of
them is absolute, the target is the output directory or lies below it exactly if the texts gain back
what they have climbed over, so at any rate if they never climb out of their own start. If one of
them is absolute, the target is the same for every output directory. -/
theorem plan_encloses_iff (roots : Roots) (template : String) (spec : FileSpec)
    (names : Bindings) (c : Context) {operation : Operation} {c' : Context}
    (hplan : plan roots template spec names c = (.ok operation, c')) :
    ∃ texts c₁, pathTexts template names c = (.ok texts, c₁) ∧
      operation.target = Path.join roots.output (relativePath texts) ∧
      ((∀ text ∈ texts, Path.isAbsolute text = false) →
        ((Path.route roots.output).Encloses (Path.route operation.target) ↔
          (Path.route roots.output).Regains (Path.route (relativePath texts))) ∧
        ((Path.route (relativePath texts)).climbs = 0 →
          (Path.route roots.output).Encloses (Path.route operation.target))) ∧
      ((∃ text ∈ texts, Path.isAbsolute text = true) →
        ∀ output, Path.join output (relativePath texts) = operation.target) := by
  obtain ⟨c₁, hpath⟩ := target_of_plan hplan
  obtain ⟨texts, htexts, htarget⟩ := planPath_eq_ok hpath
  refine ⟨texts, c₁, htexts, htarget, fun hrelative => ?_, ?_⟩
  · have hnone : Path.isAbsolute (relativePath texts) = false := by
      rw [isAbsolute_relativePath]
      exact List.any_eq_false.2 fun text hmem => Bool.eq_false_iff.1 (hrelative text hmem)
    rw [htarget, Path.route_join roots.output hnone]
    exact ⟨Path.Route.encloses_append_iff _ _, Path.Route.encloses_append_of_climbs_eq_zero _⟩
  · rintro ⟨text, hmem, habsolute⟩ output
    have hsome : Path.isAbsolute (relativePath texts) = true := by
      rw [isAbsolute_relativePath]
      exact List.any_eq_true.2 ⟨text, hmem, habsolute⟩
    rw [htarget, Path.join_of_isAbsolute _ hsome, Path.join_of_isAbsolute _ hsome]

/-- A path of which a var gives the last text. -/
def deferredPath : String := "src/\x7b\x7b '\x7b\x7b var(\"p\") \x7d\x7d' \x7d\x7d"

/-- A context in which that var has a value. -/
def pointing (value : String) : Context where
  document := { vars := some (.ofList [("p", .text value)]) }
  project := {}

/-- A text that climbs over a name, and no further, leads below the output directory. -/
theorem plan_encloses_iff_lib :
    (plan ⟨"out", "."⟩ deferredPath { content := "x" } (.standard {}) (pointing "../lib")).1 =
        .ok (.write "out/src/../lib" (Utf8.ofString "x") []) ∧
      (Path.route "out").Encloses (Path.route "out/src/../lib") := by
  have htarget : (plan ⟨"out", "."⟩ deferredPath { content := "x" } (.standard {})
      (pointing "../lib")).1 = .ok (.write "out/src/../lib" (Utf8.ofString "x") []) := by
    decide +kernel
  have htexts : (pathTexts deferredPath (.standard {}) (pointing "../lib")).1 =
      .ok ["src", "../lib"] := by decide +kernel
  cases hplan : plan ⟨"out", "."⟩ deferredPath { content := "x" } (.standard {})
      (pointing "../lib") with
  | mk result c' =>
    rw [hplan] at htarget
    obtain rfl : result = _ := htarget
    obtain ⟨texts, c₁, hpath, -, hrelative, -⟩ := plan_encloses_iff _ _ _ _ _ hplan
    rw [hpath] at htexts
    obtain rfl := Except.ok.inj htexts
    exact ⟨rfl, (hrelative (by decide)).2 (by decide +kernel)⟩

/-- A path that climbs out of its start leads out of the output directory, and so does one whose
last text is absolute. -/
theorem paths_lead_out :
    ((plan ⟨"out", "."⟩ "../escape.txt" { content := "x" } (.standard {}) pristine).1 =
        .ok (.write "out/../escape.txt" (Utf8.ofString "x") []) ∧
      ¬ (Path.route "out").Encloses (Path.route "out/../escape.txt")) ∧
    (plan ⟨"out", "."⟩ deferredPath { content := "x" } (.standard {})
        (pointing "/tmp/escape.txt")).1 =
        .ok (.write "/tmp/escape.txt" (Utf8.ofString "x") []) ∧
      ¬ (Path.route "out").Encloses (Path.route "/tmp/escape.txt") := by
  refine ⟨⟨?_, ?_⟩, ?_, ?_⟩ <;> decide +kernel

end Emission

end Scaffold

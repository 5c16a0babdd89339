import Scaffold.Yaml.Reading

/-!
# Reading — what readings give

A reading gives something if whatever it reads, from whichever steps, satisfies a predicate
(`Gives`). There is one rule for each way to build a reading from others, so that it can be shown by
walking through the expectations of a document; a reading that refuses gives anything.
-/

set_option autoImplicit false

namespace Scaffold.Yaml

namespace Reading

variable {α β σ : Type} {R : α → Prop} {S : β → Prop} {I : σ → Prop}

/-- Whatever is read satisfies the predicate. -/
def Gives (R : α → Prop) (r : Reading α) : Prop :=
  ∀ scope progress a progress', r scope progress = .ok (a, progress') → R a

theorem gives_pure {a : α} (h : R a) : Gives R (pure a : Reading α) := by
  intro scope progress a' progress' heq
  cases heq
  exact h

theorem gives_throw (fault : Fault) : Gives R (throw fault : Reading α) := nofun

theorem gives_refuse (reason : String) : Gives R (refuse reason : Reading α) :=
  gives_throw _

theorem gives_true (r : Reading α) : Gives (fun _ => True) r := fun _ _ _ _ _ => trivial

theorem Gives.bind {x : Reading α} {f : α → Reading β} (hx : Gives R x)
    (hf : ∀ a, R a → Gives S (f a)) : Gives S (x >>= f) := by
  intro scope progress b progress' heq
  change (x scope progress >>= fun r => f r.1 scope r.2) = .ok (b, progress') at heq
  cases hresult : x scope progress with
  | error fault =>
    rw [hresult] at heq
    cases heq
  | ok r =>
    rw [hresult] at heq
    exact hf r.1 (hx _ _ _ _ hresult) scope r.2 b progress' heq

/-- What comes first may give anything, if what follows does not rely on it. -/
theorem gives_bind {x : Reading α} {f : α → Reading β} (hf : ∀ a, Gives S (f a)) :
    Gives S (x >>= f) :=
  (gives_true x).bind fun a _ => hf a

theorem Gives.map {x : Reading α} (hx : Gives R x) {f : α → β} (hf : ∀ a, R a → S (f a)) :
    Gives S (f <$> x) := by
  rw [map_eq_pure_bind]
  exact hx.bind fun a ha => gives_pure (hf a ha)

/-! ## Places -/

theorem Gives.placed {r : Reading α} (hr : Gives R r) (mark : Mark) : Gives R (placed mark r) := by
  intro scope progress a progress' heq
  rw [Reading.placed] at heq
  cases hresult : r scope progress with
  | ok result =>
    rw [hresult] at heq
    exact hr _ _ _ _ (hresult.trans heq)
  | error fault =>
    rw [hresult] at heq
    cases fault with
    | data reason place => cases place <;> cases heq
    | _ => cases heq

theorem Gives.under {r : Reading α} (hr : Gives R r) (path : Path → Path) :
    Gives R (under path r) :=
  fun _ _ _ _ heq => hr _ _ _ _ heq

theorem Gives.nested {r : Reading α} (hr : Gives R r) (mark : Mark) : Gives R (nested mark r) := by
  intro scope progress a progress' heq
  obtain ⟨stream, here, depth⟩ := scope
  cases depth with
  | zero => cases heq
  | succ depth => exact hr _ _ _ _ heq

theorem Gives.jump {r : Reading α} (hr : Gives R r) (id : Nat) : Gives R (jump id r) := by
  refine gives_bind fun scope => gives_bind fun progress => ?_
  have htarget (target : Nat) : Gives R (do
      set ({ next := target, jumps := progress.jumps + 1 } : Progress)
      let result ← r
      modify fun used => { used with next := progress.next }
      return result : Reading α) :=
    gives_bind fun _ => hr.bind fun a ha => gives_bind fun _ => gives_pure ha
  dsimp only
  by_cases hmany : scope.stream.steps.size * 100 < progress.jumps + 1
  · rw [if_pos hmany]
    refine gives_bind fun _ => ?_
    split
    · exact gives_throw _
    · exact htarget _
  · rw [if_neg hmany]
    split
    · exact gives_throw _
    · exact htarget _

/-- A node gives what each of its readings gives, be it behind an alias. -/
theorem gives_node {r : Step → Mark → Reading α} (hr : ∀ step mark, Gives R (r step mark)) :
    Gives R (node r) := by
  refine gives_bind fun taken => Gives.placed ?_ _
  split
  · exact Gives.jump (gives_bind fun target => (hr _ _).placed _) _
  · exact hr _ _

theorem gives_mismatch (step : Step) (expected : String) :
    Gives R (mismatch step expected : Reading α) := by
  cases step with
  | scalar tag text style => exact gives_bind fun _ => gives_refuse _
  | sequenceStart | sequenceEnd | mappingStart | mappingEnd =>
    exact gives_bind fun _ => gives_refuse _
  | void | reference => exact gives_bind fun _ => gives_throw _

/-! ## Collections -/

theorem Gives.optional {r : Reading α} (hr : Gives R r) :
    Gives (fun a? => ∀ a, a? = some a → R a) (optional r) := by
  have hnone : Gives (fun a? => ∀ a, a? = some a → R a) (pure none : Reading (Option α)) :=
    gives_pure nofun
  have hsome : Gives (fun a? => ∀ a, a? = some a → R a) (some <$> r) :=
    hr.map fun a ha a' heq => Option.some.inj heq ▸ ha
  have hhere (step : Step) : Gives (fun a? => ∀ a, a? = some a → R a) (do
      if ← isPresent step then some <$> r
      else
        discard take
        return none : Reading (Option α)) := by
    refine gives_bind fun present => ?_
    split
    · exact hsome
    · exact gives_bind fun _ => hnone
  refine gives_bind fun step => ?_
  split
  · refine gives_bind fun _ => Gives.jump (gives_bind fun first => ?_) _
    exact hhere first.1
  · refine gives_bind fun first => ?_
    exact hhere first.1

/-- What holds at first and is preserved by every entry holds at the end of the entries. -/
theorem gives_entries {r : σ → (Path → Path) → Reading σ}
    (hr : ∀ state path, I state → Gives I (r state path)) (fuel : Nat) {state : σ} (h : I state) :
    Gives I (entries r fuel state) := by
  induction fuel generalizing state with
  | zero => exact gives_pure h
  | succ fuel ih =>
    refine gives_bind fun ended => ?_
    split
    · exact gives_pure h
    · exact gives_bind fun path => (hr state path h).bind fun state' h' => ih h'

theorem gives_mapping {expected : String} {start : σ} {r : σ → (Path → Path) → Reading σ}
    (hstart : I start) (hr : ∀ state path, I state → Gives I (r state path)) :
    Gives I (mapping expected start r) := by
  refine gives_node fun step mark => ?_
  split
  · have hentries : Gives I (do entries r (← bound) start) :=
      gives_bind fun fuel => gives_entries hr fuel hstart
    exact (hentries.nested mark).bind fun result hresult =>
      gives_bind fun _ => gives_pure hresult
  · split
    · exact gives_pure hstart
    · exact gives_mismatch _ _

/-- What holds of the defaults of a record and is preserved by each of its fields holds of the
record. -/
theorem gives_record {expected : String} {start : σ} {field : String → Option (σ → Reading σ)}
    (hstart : I start)
    (hfield : ∀ name r, field name = some r → ∀ state, I state → Gives I (r state)) :
    Gives I (record expected start field) := by
  refine Gives.map (R := fun result : σ × List String => I result.1) ?_ fun _ h => h
  refine gives_mapping hstart fun result path hresult => gives_bind fun name => ?_
  split
  next => exact gives_bind fun _ => gives_pure hresult
  next r hr =>
    have hread : Gives (fun result : σ × List String => I result.1) (do
        return (← under path (r result.1), name :: result.2)) :=
      ((hfield name r hr result.1 hresult).under path).bind fun state hstate => gives_pure hstate
    split
    · exact gives_bind fun _ => hread
    · exact hread

end Reading

/-- What a reading gives is what is read from a stream. -/
theorem Stream.read_gives {α : Type} {R : α → Prop} {r : Reading α} (hr : Reading.Gives R r)
    {stream : Stream} {a : α} (h : stream.read r = .ok a) : R a := by
  rw [Stream.read] at h
  cases hresult : (r { stream }).run {} with
  | error fault =>
    rw [hresult] at h
    cases h
  | ok result =>
    rw [hresult] at h
    dsimp only [bind, Except.bind] at h
    split at h
    · cases h
    · split at h
      · cases h
      · cases h
        exact hr _ _ _ _ hresult

end Scaffold.Yaml

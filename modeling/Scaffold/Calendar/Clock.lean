import Scaffold.Calendar.Format

/-!
# Clock — the time that a run is told

The time is asked for at every call that wants to know it, and nothing that a run does decides what
the answer is. So all that there is of the clock of the system are its answers in their order, and
what holds for all of their courses holds wherever and whenever a run is made.
-/

set_option autoImplicit false

namespace Scaffold.Calendar

/-- What the clock shows at a moment: an instant that has a date. -/
structure Reading where
  instant : Instant
  dated : (Moment.ofInstant? instant).isSome := by decide

/-- The first of January 1970. -/
def Reading.epoch : Reading where
  instant := { seconds := 0, zone := .ahead 0 }

/-- What the clock shows whenever it is looked at from now on. -/
structure Clock where
  reading : Nat → Reading

namespace Clock

/-- What it shows when it is looked at next. -/
def next (k : Clock) : Reading := k.reading 0

/-- The clock behind so many looks. -/
def later (k : Clock) (looks : Nat) : Clock := ⟨fun n => k.reading (n + looks)⟩

@[simp]
theorem later_zero (k : Clock) : k.later 0 = k := rfl

theorem later_later (k : Clock) (m n : Nat) : (k.later m).later n = k.later (m + n) := by
  simp only [later, Nat.add_assoc, Nat.add_comm m n]

/-- A clock that stands still. -/
def standing (r : Reading) : Clock := ⟨fun _ => r⟩

instance : Inhabited Clock := ⟨standing .epoch⟩

/-- The clock that shows the beginning of its count. -/
instance : OfNat Clock 0 := ⟨standing .epoch⟩

end Clock

end Scaffold.Calendar

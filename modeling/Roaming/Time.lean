namespace Roaming

/-! Instants and durations in nanoseconds.  Instants end at `Time.last`, where additions stop. -/

structure Duration where
  nanos : Nat
deriving DecidableEq

namespace Duration

def ofMicros (count : Nat) : Duration := ⟨count * 1000⟩

def ofMillis (count : Nat) : Duration := ⟨count * 1000000⟩

def scale (duration : Duration) (factor : Nat) : Duration :=
  ⟨duration.nanos * factor⟩

@[simp] theorem nanos_ofMicros (count : Nat) :
    (ofMicros count).nanos = count * 1000 := rfl

@[simp] theorem nanos_ofMillis (count : Nat) :
    (ofMillis count).nanos = count * 1000000 := rfl

@[simp] theorem nanos_scale (duration : Duration) (factor : Nat) :
    (duration.scale factor).nanos = duration.nanos * factor := rfl

end Duration

/-- The number of nanoseconds at the last instant. -/
def Time.limit : Nat := Nat.pow 2 64 - 1

structure Time where
  nanos : Nat
  nanos_le : nanos ≤ Time.limit
deriving DecidableEq

namespace Time

def zero : Time := ⟨0, Nat.zero_le _⟩

def last : Time := ⟨limit, Nat.le_refl _⟩

/-- Counts past the last instant give the last instant. -/
def ofNanos (nanos : Nat) : Time :=
  ⟨min nanos limit, Nat.min_le_right ..⟩

instance : LE Time := ⟨fun first second => first.nanos ≤ second.nanos⟩

instance : LT Time := ⟨fun first second => first.nanos < second.nanos⟩

instance (first second : Time) : Decidable (first ≤ second) :=
  inferInstanceAs (Decidable (first.nanos ≤ second.nanos))

instance (first second : Time) : Decidable (first < second) :=
  inferInstanceAs (Decidable (first.nanos < second.nanos))

instance : Max Time :=
  ⟨fun first second => if first ≤ second then second else first⟩

instance : Ord Time := ⟨fun first second => compare first.nanos second.nanos⟩

def after (time : Time) (duration : Duration) : Time :=
  ofNanos (time.nanos + duration.nanos)

/-- How long ago `earlier` was, or nothing if it is still to come. -/
def since (time earlier : Time) : Duration :=
  ⟨time.nanos - earlier.nanos⟩

/-- How long it is to `deadline`, or nothing if it has passed. -/
def remaining (time deadline : Time) : Duration :=
  deadline.since time

theorem le_def {first second : Time} :
    first ≤ second ↔ first.nanos ≤ second.nanos := Iff.rfl

theorem lt_def {first second : Time} :
    first < second ↔ first.nanos < second.nanos := Iff.rfl

@[ext] theorem ext {first second : Time}
    (h : first.nanos = second.nanos) : first = second := by
  cases first
  cases second
  cases h
  rfl

@[simp] theorem nanos_ofNanos (nanos : Nat) :
    (ofNanos nanos).nanos = min nanos limit := rfl

@[simp] theorem nanos_after (time : Time) (duration : Duration) :
    (time.after duration).nanos = min (time.nanos + duration.nanos) limit := rfl

@[simp] theorem nanos_since (time earlier : Time) :
    (time.since earlier).nanos = time.nanos - earlier.nanos := rfl

@[simp] theorem nanos_max (first second : Time) :
    (max first second).nanos = max first.nanos second.nanos := by
  show (if first ≤ second then second else first).nanos = _
  split
  · next h => exact (Nat.max_eq_right (le_def.mp h)).symm
  · next h => exact (Nat.max_eq_left (Nat.le_of_not_le h)).symm

end Time

end Roaming

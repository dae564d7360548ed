/-!
# Durations

A length of time, to the nanosecond.  The wire counts whole milliseconds, and so do the
numbers from outside that stand for durations.
-/

namespace AmqpBus.Time

/-- A length of time. -/
structure Duration where
  nanos : Nat
  deriving DecidableEq

namespace Duration

instance : Zero Duration := ⟨⟨0⟩⟩

/-- So many milliseconds. -/
def ofMillis (millis : Nat) : Duration := ⟨millis * 1000000⟩

/-- So many seconds. -/
def ofSeconds (seconds : Nat) : Duration := ⟨seconds * 1000000000⟩

/-- The milliseconds of a duration that are whole. -/
def millis (duration : Duration) : Nat := duration.nanos / 1000000

/-- The milliseconds after which a duration is over, for a timer that is never early. -/
def ceilMillis (duration : Duration) : Nat := (duration.nanos + 999999) / 1000000

/-! ### Numbers that stand for durations -/

instance : Coe Nat Duration := ⟨ofMillis⟩

instance : Coe (Option Nat) (Option Duration) := ⟨Option.map ofMillis⟩

instance : CoeOut Duration Nat := ⟨millis⟩

instance : CoeOut (Option Duration) (Option Nat) := ⟨Option.map millis⟩

end Duration

end AmqpBus.Time

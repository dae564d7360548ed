import AmqpBus.Time.Date

/-!
# Moments

A moment of universal time: a date and a time of day, to the nanosecond.  A leap second
is held as the second before it with nanoseconds above a billion.
-/

namespace AmqpBus.Time

/-- A time of day. -/
structure TimeOfDay where
  hour : Nat
  minute : Nat
  second : Nat
  nano : Nat
  hour_lt : hour < 24
  minute_lt : minute < 60
  second_lt : second < 60
  nano_lt : nano < 2000000000
  deriving DecidableEq

namespace TimeOfDay

/-- The time of day with an hour, a minute, a second up to the leap second `60`, and
nanoseconds below a billion. -/
def of? (hour minute second nano : Nat) : Option TimeOfDay :=
  if h : hour < 24 ∧ minute < 60 ∧ second < 60 ∧ nano < 1000000000 then
    some ⟨hour, minute, second, nano, h.1, h.2.1, h.2.2.1, by omega⟩
  else if h : hour < 24 ∧ minute < 60 ∧ second = 60 ∧ nano < 1000000000 then
    some ⟨hour, minute, 59, nano + 1000000000, h.1, h.2.1, by omega, by omega⟩
  else none

end TimeOfDay

/-- A moment of universal time. -/
structure Moment where
  date : Date
  time : TimeOfDay
  deriving DecidableEq

namespace Moment

/-- The moment of a local date and time at an offset of minutes from universal time, less
than a day. -/
def ofLocal (date : Date) (time : TimeOfDay) (offset : Int) : Moment :=
  let minutes : Int := time.hour * 60 + time.minute - offset
  let date :=
    if minutes < 0 then date.previous
    else if minutes < 1440 then date
    else date.next
  let minute := (minutes % 1440).toNat
  have : minute < 1440 := by omega
  ⟨date,
    { time with
      hour := minute / 60
      minute := minute % 60
      hour_lt := by omega
      minute_lt := by omega }⟩

/-- The seconds since the beginning of 1970. -/
def unixSeconds (moment : Moment) : Int :=
  moment.date.dayNumber * 86400 + (moment.time.hour * 60 + moment.time.minute) * 60
    + moment.time.second

end Moment

end AmqpBus.Time

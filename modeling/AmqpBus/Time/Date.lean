/-!
# Dates

Days of the Gregorian calendar, which is carried on into all years, the year zero and
those before it included.
-/

namespace AmqpBus.Time

/-- Whether a year has a leap day. -/
def isLeapYear (year : Int) : Bool :=
  (year % 4 == 0 && year % 100 != 0) || year % 400 == 0

/-- The number of days in a month. -/
def daysIn (year : Int) (month : Nat) : Nat :=
  if month = 2 then (if isLeapYear year then 29 else 28)
  else if month = 4 ∨ month = 6 ∨ month = 9 ∨ month = 11 then 30
  else 31

theorem one_le_daysIn (year : Int) (month : Nat) :
  1 ≤ daysIn year month
  := by
  unfold daysIn
  grind

/-- A day of the calendar. -/
structure Date where
  year : Int
  month : Nat
  day : Nat
  month_pos : 1 ≤ month
  month_le : month ≤ 12
  day_pos : 1 ≤ day
  day_le : day ≤ daysIn year month
  deriving DecidableEq

namespace Date

/-- The day with a year, a month and a day of the month, if the calendar has it. -/
def of? (year : Int) (month day : Nat) : Option Date :=
  if h : 1 ≤ month ∧ month ≤ 12 ∧ 1 ≤ day ∧ day ≤ daysIn year month then
    some ⟨year, month, day, h.1, h.2.1, h.2.2.1, h.2.2.2⟩
  else none

/-- The day after. -/
def next (date : Date) : Date :=
  if h : date.day < daysIn date.year date.month then
    { date with day := date.day + 1, day_pos := by omega, day_le := h }
  else if h : date.month < 12 then
    ⟨date.year, date.month + 1, 1, by omega, by omega, by omega, one_le_daysIn _ _⟩
  else ⟨date.year + 1, 1, 1, by omega, by omega, by omega, one_le_daysIn _ _⟩

/-- The day before. -/
def previous (date : Date) : Date :=
  if h : 1 < date.day then
    have := date.day_le
    { date with day := date.day - 1, day_pos := by omega, day_le := by omega }
  else if h : 1 < date.month then
    have := date.month_le
    ⟨date.year, date.month - 1, daysIn date.year (date.month - 1), by omega, by omega,
      one_le_daysIn _ _, by omega⟩
  else
    ⟨date.year - 1, 12, daysIn (date.year - 1) 12, by omega, by omega, one_le_daysIn _ _,
      by omega⟩

/-- The number of days from the first of January 1970, counted in years that begin in
March, so that the leap day is the last one. -/
def dayNumber (date : Date) : Int :=
  let year := if date.month ≤ 2 then date.year - 1 else date.year
  let month := if date.month ≤ 2 then date.month + 9 else date.month - 3
  year * 365 + year / 4 - year / 100 + year / 400 + (153 * month + 2) / 5 + date.day - 1 - 719468

end Date

end AmqpBus.Time

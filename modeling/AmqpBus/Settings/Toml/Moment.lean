import AmqpBus.Text.Digits
import AmqpBus.Time.Date

/-!
# Dates and times of TOML

A date, a time, or both with an optional offset from universal time.  They are kept as
texts, with the letter `T` between the two, the fraction of a second cut to nine places
and without trailing zeros, and the offset in hours and minutes.
-/

namespace AmqpBus.Settings.Toml

/-- What limits the hours of a time, and the hours and minutes of an offset. -/
structure Clock where
  lastHour : Nat
  hasOffset : Nat → Nat → Bool

/-- The clock of dates and times that stand for themselves: hours and minutes are those
of a day. -/
def Clock.ofDay : Clock where
  lastHour := 23
  hasOffset hours minutes := hours ≤ 23 && minutes ≤ 59

/-- The clock of dates and times that stand in a string: a day ends at the hour `24`, and
an offset has up to that many hours, of any minutes. -/
def Clock.ofString : Clock where
  lastHour := 24
  hasOffset hours minutes := hours * 60 + minutes ≤ 24 * 60

/-- The number of exactly `width` decimal digits within bounds. -/
def digits? (low high : Nat) (cs : List Char) : Option Nat :=
  (Text.decimal? cs).filter fun n => low ≤ n && n ≤ high

/-- A date, and what follows it. -/
def date? : List Char → Option (List Char × List Char)
  | y₁ :: y₂ :: y₃ :: y₄ :: '-' :: m₁ :: m₂ :: '-' :: d₁ :: d₂ :: cs => do
    let year ← digits? 0 9999 [y₁, y₂, y₃, y₄]
    let month ← digits? 1 12 [m₁, m₂]
    let _ ← digits? 1 (Time.daysIn year month) [d₁, d₂]
    return ([y₁, y₂, y₃, y₄, '-', m₁, m₂, '-', d₁, d₂], cs)
  | _ => none

namespace Clock

variable (clock : Clock)

/-- A time, and what follows it. -/
def time? : List Char → Option (List Char × List Char)
  | h₁ :: h₂ :: ':' :: m₁ :: m₂ :: ':' :: s₁ :: s₂ :: cs => do
    let _ ← digits? 0 clock.lastHour [h₁, h₂]
    let _ ← digits? 0 59 [m₁, m₂]
    let _ ← digits? 0 60 [s₁, s₂]
    let time := [h₁, h₂, ':', m₁, m₂, ':', s₁, s₂]
    match cs with
    | '.' :: rest =>
      let places := rest.takeWhile Char.isDigit
      let kept := ((places.take 9).reverse.dropWhile (· == '0')).reverse
      if places.isEmpty then none
      else
        return (time ++ (if kept.isEmpty then [] else '.' :: kept), rest.dropWhile Char.isDigit)
    | rest => return (time, rest)
  | _ => none

/-- The offset of a time from the universal one, which may be missing. -/
def offset? : List Char → Option (List Char)
  | [] => some []
  | ['Z'] => some ['Z']
  | ['z'] => some ['Z']
  | [sign, h₁, h₂, ':', m₁, m₂] => do
    let hours ← Text.decimal? [h₁, h₂]
    let minutes ← Text.decimal? [m₁, m₂]
    let total := hours * 60 + minutes
    if (sign = '+' ∨ sign = '-') ∧ clock.hasOffset hours minutes then
      some ((if total = 0 then '+' else sign) :: Text.padded 2 (total / 60)
        ++ ':' :: Text.padded 2 (total % 60))
    else none
  | _ => none

/-- A date, a time, or both with an optional offset. -/
def moment? (cs : List Char) : Option (List Char) :=
  match date? cs with
  | some (date, []) => some date
  | some (date, mark :: rest) =>
    if mark ∈ ['T', 't', ' '] then do
      let (time, rest) ← clock.time? rest
      return date ++ 'T' :: time ++ (← clock.offset? rest)
    else none
  | none =>
    match clock.time? cs with
    | some (time, []) => some time
    | _ => none

end Clock

end AmqpBus.Settings.Toml

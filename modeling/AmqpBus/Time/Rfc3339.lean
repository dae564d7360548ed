import AmqpBus.Text.Digits
import AmqpBus.Time.Moment

/-!
# Moments as RFC 3339 texts

A moment is written in universal time, with as many places for the fraction of a second
as it needs among none, three, six and nine.  It is read at any offset below a day; of a
fraction nine places count.
-/

namespace AmqpBus.Time

/-- A year in four digits, or with a sign and at least four digits when it needs one. -/
def yearText (year : Int) : List Char :=
  if 0 ≤ year ∧ year ≤ 9999 then Text.padded 4 year.toNat
  else (if year < 0 then '-' else '+') :: Text.padded 4 year.natAbs

/-- The fraction of a second, with its point, or nothing. -/
def fractionText (nano : Nat) : List Char :=
  if nano = 0 then []
  else if nano % 1000000 = 0 then '.' :: Text.padded 3 (nano / 1000000)
  else if nano % 1000 = 0 then '.' :: Text.padded 6 (nano / 1000)
  else '.' :: Text.padded 9 nano

namespace Moment

/-- A moment without the mark of its offset. -/
def chars (moment : Moment) : List Char :=
  let d := moment.date
  let t := moment.time
  let leap := t.nano / 1000000000
  yearText d.year ++ '-' :: Text.padded 2 d.month ++ '-' :: Text.padded 2 d.day
    ++ 'T' :: Text.padded 2 t.hour ++ ':' :: Text.padded 2 t.minute
    ++ ':' :: Text.padded 2 (t.second + leap) ++ fractionText (t.nano % 1000000000)

/-- A moment with its offset in digits. -/
def text (moment : Moment) : String :=
  String.ofList (moment.chars ++ ['+', '0', '0', ':', '0', '0'])

/-- A moment with the letter for universal time. -/
def zuluText (moment : Moment) : String := String.ofList (moment.chars ++ ['Z'])

end Moment

/-- The nanoseconds that the places of a fraction stand for. -/
def nanoOf? (places : List Char) : Option Nat := do
  let kept := places.take 9
  return (← Text.decimal? kept) * Nat.pow 10 (9 - kept.length)

/-- The fraction that a text starts with, and what follows it. -/
def fraction? : List Char → Option (Nat × List Char)
  | '.' :: cs => do
    return (← nanoOf? (cs.takeWhile Char.isDigit), cs.dropWhile Char.isDigit)
  | cs => some (0, cs)

/-- Whether a character is the sign of an offset to the west. -/
def isMinus (c : Char) : Bool := c == '-' || c == '\u2212'

/-- The minutes of an offset of hours and minutes, which is below a day. -/
def offsetOf? (sign : Char) (hours minutes : List Char) : Option Int := do
  let h ← Text.decimal? hours
  let m ← Text.decimal? minutes
  if 24 ≤ h ∨ 60 ≤ m then none
  else if sign = '+' then some (h * 60 + m)
  else if isMinus sign then some (-(h * 60 + m : Int))
  else none

/-- The offset that a text is. -/
def offset? : List Char → Option Int
  | ['Z'] => some 0
  | ['z'] => some 0
  | [sign, h₁, h₂, ':', m₁, m₂] => offsetOf? sign [h₁, h₂] [m₁, m₂]
  | _ => none

/-- The moment that a text is. -/
def Moment.ofChars? : List Char → Option Moment
  | y₁ :: y₂ :: y₃ :: y₄ :: '-' :: m₁ :: m₂ :: '-' :: d₁ :: d₂ :: mark ::
      h₁ :: h₂ :: ':' :: n₁ :: n₂ :: ':' :: s₁ :: s₂ :: cs => do
    if mark ≠ 'T' ∧ mark ≠ 't' ∧ mark ≠ ' ' then none
    let year ← Text.decimal? [y₁, y₂, y₃, y₄]
    let date ← Date.of? year (← Text.decimal? [m₁, m₂]) (← Text.decimal? [d₁, d₂])
    let (nano, rest) ← fraction? cs
    let time ← TimeOfDay.of? (← Text.decimal? [h₁, h₂]) (← Text.decimal? [n₁, n₂])
      (← Text.decimal? [s₁, s₂]) nano
    return .ofLocal date time (← offset? rest)
  | _ => none

/-- The moment that a text is. -/
def Moment.ofText? (text : String) : Option Moment := Moment.ofChars? text.toList

end AmqpBus.Time

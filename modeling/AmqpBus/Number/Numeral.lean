import AmqpBus.Number.Double
import AmqpBus.Text.Digits
import AmqpBus.Text.Lowering

/-!
# Numerals

Texts that stand for a number.  An integer has digits and an optional sign.  A real
number has digits with an optional point, before or after which they may be missing,
and an optional exponent; the infinities and the text of no number are read in any
letter case.
-/

namespace AmqpBus.Number

/-- The integer a numeral stands for, when it lies within the 64-bit integers. -/
def integer64? (text : String) : Option Int :=
  (Text.signedDecimal? text.toList).filter (isSigned 64)

/-- The natural number a numeral stands for, when it lies below `2 ^ 64`; a plus sign is
allowed. -/
def natural64? (text : String) : Option Nat :=
  let digits := match text.toList with
    | '+' :: cs => cs
    | cs => cs
  (Text.decimal? digits).filter (· < capacity 64)

/-- The exponent that ends a numeral. -/
def exponent? : List Char → Option Int
  | [] => some 0
  | c :: cs => if c = 'e' ∨ c = 'E' then Text.signedDecimal? cs else none

/-- The double that an unsigned numeral stands for. -/
def unsignedReal? (negative : Bool) (cs : List Char) : Option Double := do
  let name := Text.lower (String.ofList cs)
  if name = "inf" ∨ name = "infinity" then return .infinite negative
  if name = "nan" then return .nan
  let whole := cs.takeWhile Char.isDigit
  let (places, rest) := match cs.dropWhile Char.isDigit with
    | '.' :: more => (more.takeWhile Char.isDigit, more.dropWhile Char.isDigit)
    | more => ([], more)
  let digits ← Text.decimal? (whole ++ places)
  return .ofDecimal negative digits ((← exponent? rest) - places.length)

/-- The double a numeral stands for. -/
def real? (text : String) : Option Double :=
  match text.toList with
  | '-' :: cs => unsignedReal? true cs
  | '+' :: cs => unsignedReal? false cs
  | cs => unsignedReal? false cs

end AmqpBus.Number

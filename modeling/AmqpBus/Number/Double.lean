import AmqpBus.Number.Bits

/-!
# Doubles

Numbers of 64-bit binary floating point, held exactly.  A quotient of natural numbers is
rounded to the nearest of them, and to the one with the even significand when two are
equally near; products, quotients and decimal numerals are rounded that way from their
exact values.
-/

namespace AmqpBus.Number

/-- A double: no number, an infinity, or a sign with `significand * 2 ^ exponent`, where
the significand is below `2 ^ 53` and as large as the exponent's lower end of `-1074`
allows. -/
inductive Double where
  | nan
  | infinite (negative : Bool)
  | finite (negative : Bool) (significand : Nat) (exponent : Int)
  deriving DecidableEq

namespace Double

/-- The zero of a sign. -/
def zero (negative : Bool) : Double := .finite negative 0 (-1074)

/-- The natural number nearest to a quotient, even at a tie. -/
def nearest (num den : Nat) : Nat :=
  let whole := num / den
  let twice := 2 * (num % den)
  if twice < den then whole
  else if den < twice then whole + 1
  else whole + whole % 2

/-- The double nearest to `num / den`, where `den` is not zero. -/
def ofQuotient (negative : Bool) (num den : Nat) : Double :=
  if num = 0 then zero negative
  else
    let scaled (e : Int) : Nat × Nat := (num * Nat.pow 2 (-e).toNat, den * Nat.pow 2 e.toNat)
    let low : Int := max ((Nat.log2 num : Int) - Nat.log2 den - 53) (-1074)
    let exponent := if capacity 53 ≤ (scaled low).1 / (scaled low).2 then low + 1 else low
    let significand := nearest (scaled exponent).1 (scaled exponent).2
    let (significand, exponent) :=
      if significand = capacity 53 then (capacity 52, exponent + 1) else (significand, exponent)
    if significand = 0 then zero negative
    else if 971 < exponent then .infinite negative
    else .finite negative significand exponent

/-- The double nearest to a natural number. -/
def ofNat (n : Nat) : Double := ofQuotient false n 1

/-- The double nearest to `digits * 10 ^ exponent`.  Numbers far outside the range are
decided by their order of magnitude. -/
def ofDecimal (negative : Bool) (digits : Nat) (exponent : Int) : Double :=
  let places : Int := (Nat.toDigits 10 digits).length
  if digits = 0 then zero negative
  else if 400 < exponent + places then .infinite negative
  else if exponent + places < -400 then zero negative
  else ofQuotient negative (digits * Nat.pow 10 exponent.toNat) (Nat.pow 10 (-exponent).toNat)

/-- The finite doubles as quotients of natural numbers. -/
def quotient (significand : Nat) (exponent : Int) : Nat × Nat :=
  (significand * Nat.pow 2 exponent.toNat, Nat.pow 2 (-exponent).toNat)

/-- The product of two finite doubles, rounded. -/
def mul : Double → Double → Double
  | .finite s m e, .finite t n f =>
    let (a, b) := quotient (m * n) (e + f)
    ofQuotient (s != t) a b
  | _, _ => .nan

/-- The quotient of two finite doubles, rounded. -/
def div : Double → Double → Double
  | .finite s m e, .finite t n f =>
    if n = 0 then .nan
    else
      let (a, b) := quotient m (e - f)
      ofQuotient (s != t) a (b * n)
  | _, _ => .nan

/-- Whether a double is a zero. -/
def isZero : Double → Bool
  | .finite _ m _ => m == 0
  | _ => false

/-- The natural number up to `bound` that is nearest to a double, where a half goes up
and negative numbers and those that are none give zero. -/
def toNatWithin (bound : Nat) : Double → Nat
  | .nan => 0
  | .infinite negative => if negative then 0 else bound
  | .finite true _ _ => 0
  | .finite false m e =>
    let (a, b) := quotient m e
    min bound ((2 * a + b) / (2 * b))

end Double

end AmqpBus.Number

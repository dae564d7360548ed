import AmqpBus.Number.Double
import AmqpBus.Text.Digits

/-!
# The shortest text of a double

A double is written with the fewest digits that read back as the same double, nearest to
it among those and away from zero between two as near, without an exponent.
-/

namespace AmqpBus.Number

namespace Double

/-- The decimals next to `a / b` on the grid of multiples of `10 ^ place`, as multiples,
nearest first and the greater one first when both are as near. -/
def neighbours (a b : Nat) (place : Int) : List Nat :=
  let num := a * Nat.pow 10 (-place).toNat
  let den := b * Nat.pow 10 place.toNat
  let below := num / den
  if 2 * (num % den) < den then [below, below + 1] else [below + 1, below]

/-- The digits and the place of the last one, on the coarsest grid from `place` downwards
with a decimal that reads back as the double. -/
def digitsFrom (significand : Nat) (exponent : Int) : Nat → Int → Nat × Int
  | 0, place => (0, place)
  | fuel + 1, place =>
    let (a, b) := quotient significand exponent
    match (neighbours a b place).find? fun n =>
        ofDecimal false n place = .finite false significand exponent with
    | some n => (n, place)
    | none => digitsFrom significand exponent fuel (place - 1)

/-- The fewest digits that read back, and the place of the last one.  The search starts
above the first digit of the number and needs no more than seventeen digits. -/
def shortest (significand : Nat) (exponent : Int) : Nat × Int :=
  let bits : Int := Nat.log2 significand + exponent
  digitsFrom significand exponent 24 (bits * 30103 / 100000 + 2)

/-- The digits `n` with the last one at `place`, written out with a point. -/
def positional (n : Nat) (place : Int) : String :=
  if 0 ≤ place then (n * Nat.pow 10 place.toNat).repr
  else
    let places := (-place).toNat
    let digits := Text.padded (places + 1) n
    String.ofList (digits.take (digits.length - places) ++ '.' ::
      digits.drop (digits.length - places))

/-- The shortest text of a double. -/
def text : Double → String
  | .nan => "NaN"
  | .infinite negative => if negative then "-inf" else "inf"
  | .finite negative m e =>
    let (n, place) := if m = 0 then (0, 0) else shortest m e
    (if negative then "-" else "") ++ positional n place

end Double

end AmqpBus.Number

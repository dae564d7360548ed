import AmqpBus.Json.Value
import AmqpBus.Number.Bits
import AmqpBus.Number.Double

/-!
# JSON numbers as doubles

A number that is no 64-bit integer is read as a double, quickly and not always to the
nearest one: its digits are kept as long as they fit 64 bits, and the rest is a power of
ten by which that integer is multiplied or divided in double arithmetic.  Numbers beyond
the doubles are refused.
-/

namespace AmqpBus.Json

open Number (Double capacity)

/-- The digits kept so far as one integer, and the power of ten they are to be scaled
by. -/
structure Significand where
  digits : Nat
  scale : Int

namespace Significand

/-- Whether a further digit fits 64 bits. -/
def fits (s : Significand) (d : Nat) : Bool := s.digits * 10 + d < capacity 64

/-- Reads the digits before the point.  From the first one that does not fit on, each
only raises the power of ten. -/
def readWhole (s : Significand) : List Nat → Significand
  | [] => s
  | d :: ds =>
    if s.fits d then readWhole { s with digits := s.digits * 10 + d } ds
    else { s with scale := s.scale + (ds.length + 1) }

/-- Reads the digits after the point, up to the first one that does not fit. -/
def readPlaces (s : Significand) : List Nat → Significand
  | [] => s
  | d :: ds =>
    if s.fits d then readPlaces ⟨s.digits * 10 + d, s.scale - 1⟩ ds else s

end Significand

/-- Scales a double by a power of ten, in steps of the largest power when it is to become
smaller.  An infinite result is refused, and a zero stays. -/
def scaled? (value : Double) (scale : Int) : Nat → Option Double
  | 0 => some value
  | fuel + 1 =>
    if value.isZero then some value
    else if 308 < scale then none
    else if 0 ≤ scale then
      match value.mul (.ofNat (Nat.pow 10 scale.toNat)) with
      | .infinite _ => none
      | product => some product
    else if -308 ≤ scale then some (value.div (.ofNat (Nat.pow 10 (-scale).toNat)))
    else scaled? (value.div (.ofNat (Nat.pow 10 308))) (scale + 308) fuel

/-- The double a number stands for, within the range of doubles. -/
def Numeral.real? (numeral : Numeral) : Option Double := do
  let whole := (Nat.toDigits 10 numeral.whole).map fun c => c.toNat - '0'.toNat
  let kept := ((⟨0, 0⟩ : Significand).readWhole whole).readPlaces numeral.fraction
  let value ← scaled? (.ofNat kept.digits) (kept.scale + numeral.exponent.getD 0) 4
  match value with
  | .finite _ m e => some (.finite numeral.negative m e)
  | other => some other

end AmqpBus.Json

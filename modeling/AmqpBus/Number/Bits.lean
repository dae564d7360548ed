/-!
# Integers of a number of bits

How many integers some bits hold, and which ones they are, with a sign and without.
-/

namespace AmqpBus.Number

/-- The number of integers that `bits` bits hold. -/
def capacity (bits : Nat) : Nat := Nat.pow 2 bits

/-- Whether `bits` bits without a sign hold an integer. -/
def isUnsigned (bits : Nat) (i : Int) : Bool := 0 ≤ i && i < (capacity bits : Int)

/-- Whether `bits` bits with a sign hold an integer. -/
def isSigned (bits : Nat) (i : Int) : Bool :=
  -(capacity (bits - 1) : Int) ≤ i && i < (capacity (bits - 1) : Int)

end AmqpBus.Number

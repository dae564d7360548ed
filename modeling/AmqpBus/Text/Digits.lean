/-!
# Digits

A numeral is read from, and written as, the list of its digits, the most significant
one first.  Bytes are written as pairs of hexadecimal digits.
-/

namespace AmqpBus.Text

/-- The value of a decimal digit. -/
def digit? (c : Char) : Option Nat :=
  if c.isDigit then some (c.toNat - '0'.toNat) else none

/-- The value of a hexadecimal digit of either case. -/
def hexDigit? (c : Char) : Option Nat :=
  if c.isDigit then some (c.toNat - '0'.toNat)
  else if 'a' ≤ c ∧ c ≤ 'f' then some (c.toNat - 'a'.toNat + 10)
  else if 'A' ≤ c ∧ c ≤ 'F' then some (c.toNat - 'A'.toNat + 10)
  else none

/-- The hexadecimal digit of a value below sixteen, in lower case. -/
def hexDigit (n : Nat) : Char :=
  if n < 10 then Char.ofNat ('0'.toNat + n) else Char.ofNat ('a'.toNat + (n - 10))

/-- Bytes as pairs of hexadecimal digits. -/
def hexText (bytes : List UInt8) : List Char :=
  bytes.flatMap fun b => [hexDigit (b.toNat / 16), hexDigit (b.toNat % 16)]

/-- The bytes that pairs of hexadecimal digits stand for. -/
def hexBytes? : List Char → Option (List UInt8)
  | [] => some []
  | a :: b :: cs => do
    return .ofNat ((← hexDigit? a) * 16 + (← hexDigit? b)) :: (← hexBytes? cs)
  | _ => none

/-- The number that a list of digits stands for. -/
def ofDigits (base : Nat) (digits : List Nat) : Nat :=
  digits.foldl (fun n d => n * base + d) 0

/-- The number a decimal numeral stands for, when it has digits only and at least one. -/
def decimal? (cs : List Char) : Option Nat :=
  if cs.isEmpty then none else (cs.mapM digit?).map (ofDigits 10)

/-- The number a hexadecimal numeral stands for, when it has digits only and at least
one. -/
def hexadecimal? (cs : List Char) : Option Nat :=
  if cs.isEmpty then none else (cs.mapM hexDigit?).map (ofDigits 16)

/-- A decimal numeral with an optional sign. -/
def signedDecimal? : List Char → Option Int
  | '-' :: cs => (decimal? cs).map fun n => -(n : Int)
  | '+' :: cs => (decimal? cs).map fun n => (n : Int)
  | cs => (decimal? cs).map fun n => (n : Int)

/-- The decimal numeral of a number, with zeros in front up to a width. -/
def padded (width n : Nat) : List Char :=
  let digits := Nat.toDigits 10 n
  List.replicate (width - digits.length) '0' ++ digits

end AmqpBus.Text

/-!
# JSON values

A JSON value as it stands in a text: a number keeps the digits it was written with, a
record keeps its members in order with repetitions, and a string whose bytes and
escapes are no Unicode text is kept as `none`, since a reader that skips the string
accepts it.
-/

namespace AmqpBus.Json

/-- The content of a string, when it is Unicode text. -/
abbrev Text := Option String

/-- A number as written: a sign, the digits before the point, the digits after it, and
the exponent. -/
structure Numeral where
  negative : Bool
  whole : Nat
  fraction : List Nat
  exponent : Option Int
  deriving DecidableEq

/-- The integer that a numeral without point, exponent and signed zero stands for. -/
def Numeral.integer? (numeral : Numeral) : Option Int :=
  if numeral.fraction.isEmpty && numeral.exponent.isNone then
    if numeral.negative then
      if numeral.whole = 0 then none else some (-(numeral.whole : Int))
    else some numeral.whole
  else none

/-- A JSON value. -/
inductive Value where
  | null
  | bool (b : Bool)
  | number (n : Numeral)
  | text (t : Text)
  | list (items : List Value)
  | record (members : List (Text × Value))

namespace Value

/-- The value of an integer. -/
def integer (i : Int) : Value :=
  .number ⟨decide (i < 0), i.natAbs, [], none⟩

/-- The value of a natural number. -/
def natural (n : Nat) : Value :=
  .number ⟨false, n, [], none⟩

/-- The value of a Unicode text. -/
def string (s : String) : Value :=
  .text (some s)

/-- A record with Unicode names. -/
def ofFields (fields : List (String × Value)) : Value :=
  .record (fields.map fun field => (some field.1, field.2))

end Value

end AmqpBus.Json

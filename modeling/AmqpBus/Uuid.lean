import AmqpBus.Text.Digits

/-!
# Identifiers

An identifier of 128 bits, held as its 32 hexadecimal digits.  It is written in lower
case in five groups with hyphens; it is read in either case, with hyphens and then also
in braces or as a `urn:uuid:`, or as plain digits.
-/

namespace AmqpBus

/-- A universally unique identifier. -/
structure Uuid where
  digits : List (Fin 16)
  length_eq : digits.length = 32
  deriving DecidableEq

namespace Uuid

/-- The value of a hexadecimal digit. -/
def digit? (c : Char) : Option (Fin 16) := do
  let n ← Text.hexDigit? c
  if h : n < 16 then some ⟨n, h⟩ else none

/-- The identifier of 32 digits. -/
def ofDigits? (cs : List Char) : Option Uuid := do
  let digits ← cs.mapM digit?
  if h : digits.length = 32 then some ⟨digits, h⟩ else none

/-- Removes a character that a text must have at a position. -/
def without? (c : Char) (position : Nat) (cs : List Char) : Option (List Char) :=
  if cs[position]? = some c then some (cs.eraseIdx position) else none

/-- The identifier of digits in groups of 8, 4, 4, 4 and 12 with hyphens. -/
def ofHyphenated? (cs : List Char) : Option Uuid := do
  let cs ← without? '-' 23 cs
  let cs ← without? '-' 18 cs
  let cs ← without? '-' 13 cs
  ofDigits? (← without? '-' 8 cs)

/-- The identifier that a text is. -/
def ofChars? (cs : List Char) : Option Uuid :=
  if cs.length = 32 then ofDigits? cs
  else if cs.length = 36 then ofHyphenated? cs
  else if cs.length = 38 then
    if cs.head? = some '\x7b' ∧ cs.getLast? = some '\x7d' then
      ofHyphenated? (cs.drop 1).dropLast
    else none
  else if cs.length = 45 then
    if (cs.take 9).map Char.toLower = ['u', 'r', 'n', ':', 'u', 'u', 'i', 'd', ':'] then
      ofHyphenated? (cs.drop 9)
    else none
  else none

/-- The identifier that a text is. -/
def ofText? (text : String) : Option Uuid := ofChars? text.toList

/-- The digits of an identifier. -/
def simple (uuid : Uuid) : List Char := uuid.digits.map fun d => Text.hexDigit d.val

/-- An identifier in five groups. -/
def chars (uuid : Uuid) : List Char :=
  let cs := uuid.simple
  cs.take 8 ++ '-' :: (cs.drop 8).take 4 ++ '-' :: (cs.drop 12).take 4
    ++ '-' :: (cs.drop 16).take 4 ++ '-' :: cs.drop 20

/-- An identifier in five groups. -/
def text (uuid : Uuid) : String := String.ofList uuid.chars

end Uuid

end AmqpBus

import AmqpBus.Json.Value
import AmqpBus.Text.Digits

/-!
# Writing JSON

Values are written without blanks, records in the order of their members.  Quotes,
backslashes and control characters are escaped, with the short escapes where they
exist; all other characters stand for themselves.
-/

namespace AmqpBus.Json

/-- A character inside a string. -/
def escape (c : Char) : List Char :=
  if c = '"' then ['\\', '"']
  else if c = '\\' then ['\\', '\\']
  else if c = '\x08' then ['\\', 'b']
  else if c = '\t' then ['\\', 't']
  else if c = '\n' then ['\\', 'n']
  else if c = '\x0c' then ['\\', 'f']
  else if c = '\r' then ['\\', 'r']
  else if c.toNat < 0x20 then
    ['\\', 'u', '0', '0', Text.hexDigit (c.toNat / 16), Text.hexDigit (c.toNat % 16)]
  else [c]

/-- A string in quotes. -/
def quoted (s : String) : String :=
  String.ofList ('"' :: s.toList.flatMap escape ++ ['"'])

/-- A number as it was written. -/
def Numeral.render (numeral : Numeral) : String :=
  let places := numeral.fraction.map fun d => Text.hexDigit (d % 10)
  (if numeral.negative then "-" else "") ++ numeral.whole.repr
    ++ (if places.isEmpty then "" else String.ofList ('.' :: places))
    ++ (match numeral.exponent with
        | none => ""
        | some e => "e" ++ e.repr)

mutual

/-- A value without blanks.  A string that is no Unicode text is written as the
replacement character. -/
def Value.render : Value → String
  | .null => "null"
  | .bool b => if b then "true" else "false"
  | .number n => n.render
  | .text t => quoted (t.getD "\uFFFD")
  | .list items => "[" ++ ",".intercalate (renderItems items) ++ "]"
  | .record members => "\x7b" ++ ",".intercalate (renderMembers members) ++ "\x7d"

/-- The items of a list. -/
def Value.renderItems : List Value → List String
  | [] => []
  | item :: items => item.render :: renderItems items

/-- The members of a record. -/
def Value.renderMembers : List (Text × Value) → List String
  | [] => []
  | (name, value) :: members =>
    (quoted (name.getD "\uFFFD") ++ ":" ++ value.render) :: renderMembers members

end

end AmqpBus.Json

import AmqpBus.Json.Reader
import AmqpBus.Json.Writer
import AmqpBus.Number.Bits

/-!
# Shapes of payloads

A shape says which JSON values stand for the values of a message type, and `Datum` holds
such values.  Records are read by the names of their fields, of which unknown ones are
ignored and known ones stand once, or as the list of all their fields in order.  One of
several variants is named by a member of a record with nothing beside it, or, when the
variant has no content, by its name alone.
-/

namespace AmqpBus

open Json (Value Text)

/-- The shape of a payload. -/
inductive Shape where
  | bool
  | integer (low high : Int)
  | text
  | unit
  | optional (item : Shape)
  | list (item : Shape)
  | record (fields : List (String × Shape))
  | choice (variants : List (String × Option Shape))

/-- A value of some shape. -/
inductive Datum where
  | bool (value : Bool)
  | integer (value : Int)
  | text (value : String)
  | unit
  | absent
  | list (items : List Datum)
  | record (fields : List (String × Datum))
  | choice (variant : String) (content : Option Datum)

namespace Datum

mutual

/-- The JSON value that stands for a datum. -/
def toJson : Datum → Value
  | .bool value => .bool value
  | .integer value => .integer value
  | .text value => .string value
  | .unit => .null
  | .absent => .null
  | .list items => .list (toJsonItems items)
  | .record fields => .record (toJsonFields fields)
  | .choice variant none => .string variant
  | .choice variant (some content) => .record [(some variant, toJson content)]

/-- The JSON values of the items of a list. -/
def toJsonItems : List Datum → List Value
  | [] => []
  | item :: items => toJson item :: toJsonItems items

/-- The members of a record. -/
def toJsonFields : List (String × Datum) → List (Text × Value)
  | [] => []
  | (name, field) :: fields => (some name, toJson field) :: toJsonFields fields

end

/-- The field of a record. -/
def field? (datum : Datum) (name : String) : Option Datum :=
  match datum with
  | .record fields => fields.lookup name
  | _ => none

/-- The payload of a datum. -/
def payload (datum : Datum) : ByteArray := datum.toJson.render.toUTF8

end Datum

namespace Shape

/-- The integers of a number of bits without a sign. -/
def unsigned (bits : Nat) : Shape := .integer 0 (Number.capacity bits - 1)

/-- The integers of a number of bits with a sign. -/
def signed (bits : Nat) : Shape := 
  .integer (-Number.capacity (bits - 1)) (Number.capacity (bits - 1) - 1)

/-- What a field stands for that is not there. -/
def missing? : Shape → Option Datum
  | .optional _ => some .absent
  | _ => none

mutual

/-- The datum that a JSON value stands for. -/
def ofJson? : Shape → Value → Option Datum
  | .bool, .bool value => some (.bool value)
  | .integer low high, .number numeral =>
    (numeral.integer?.filter fun i => low ≤ i && i ≤ high).map .integer
  | .text, .text value => value.map .text
  | .unit, .null => some .unit
  | .optional _, .null => some .absent
  | .optional item, value => ofJson? item value
  | .list item, .list values => (values.mapM fun value => ofJson? item value).map .list
  | .record fields, .record members =>
    if members.any (·.1.isNone) then none else (ofMembers? fields members).map .record
  | .record fields, .list values => (ofItems? fields values).map .record
  | .choice variants, .text name => do named? (← name) variants
  | .choice variants, .record [(name, content)] => do variant? (← name) content variants
  | _, _ => none

/-- The fields that the members of a record stand for. -/
def ofMembers? : List (String × Shape) → List (Text × Value) → Option (List (String × Datum))
  | [], _ => some []
  | (name, shape) :: fields, members => do
    let datum ← match members.filter (·.1 = some name) with
      | [] => missing? shape
      | [member] => ofJson? shape member.2
      | _ => none
    return (name, datum) :: (← ofMembers? fields members)

/-- The fields that the items of a list stand for. -/
def ofItems? : List (String × Shape) → List Value → Option (List (String × Datum))
  | [], [] => some []
  | (name, shape) :: fields, value :: values => do
    return (name, ← ofJson? shape value) :: (← ofItems? fields values)
  | _, _ => none

/-- The variant without content that a name stands for. -/
def named? (name : String) : List (String × Option Shape) → Option Datum
  | [] => none
  | (variant, content) :: variants =>
    if variant = name then (if content.isNone then some (.choice name none) else none)
    else named? name variants

/-- The variant that a name and a content stand for, in which a variant without content
has null. -/
def variant? (name : String) (value : Value) : List (String × Option Shape) → Option Datum
  | [] => none
  | (variant, none) :: variants =>
    if variant = name then
      match value with
      | .null => some (.choice name none)
      | _ => none
    else variant? name value variants
  | (variant, some content) :: variants =>
    if variant = name then (ofJson? content value).map fun datum => .choice name (some datum)
    else variant? name value variants

end

/-- The datum of a payload. -/
def read? (shape : Shape) (payload : ByteArray) : Option Datum := do
  shape.ofJson? (← Value.read? payload)

end Shape

end AmqpBus

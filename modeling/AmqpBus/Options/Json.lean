import AmqpBus.Json.Value
import AmqpBus.Options.Fields

/-!
# Options in JSON

JSON values are taken for what they are: a text must be a string, a number an integer
without point and exponent, a flag one of the two words.  Fields stand in a record, of
which the last one of a name is left and unknown ones are ignored, or in a list that is no
longer than the list of names.  Options are written as the record of all their fields.
-/

namespace AmqpBus

open Json (Value)

namespace Json.Value

/-- Whether a value is null. -/
def isNull : Value → Bool
  | .null => true
  | _ => false

/-- The text of a string. -/
def text? : Value → Option String
  | .text t => t
  | _ => none

/-- The number of an integer that is not negative. -/
def natural? : Value → Option Nat
  | .number n => n.integer?.bind fun i => if 0 ≤ i then some i.toNat else none
  | _ => none

/-- The flag of a word. -/
def flag? : Value → Option Bool
  | .bool b => some b
  | _ => none

/-- The items of a list. -/
def items? : Value → Option (List Value)
  | .list items => some items
  | _ => none

/-- The value of the last member with a name.  A record stands for the table that a text of
JSON was read into, in which repeated names are collapsed and the last one of a name is left;
reading options from the text itself would refuse a name that is repeated. -/
def member? (members : List (Text × Value)) (name : String) : Option Value :=
  (members.findRev? (·.1 = some name)).map (·.2)

/-- The values of fields by their names or in order. -/
def fields? (names : List String) : Value → Option (List (Option Value))
  | .record members => some (names.map (member? members))
  | .list items =>
    if items.length ≤ names.length then
      some (items.map some ++ List.replicate (names.length - items.length) none)
    else none
  | _ => none

end Json.Value

/-- The notation of JSON. -/
def Notation.json : Notation Value where
  isNull := Value.isNull
  text? := Value.text?
  natural? := Value.natural?
  flag? := Value.flag?
  items? := Value.items?
  fields? := Value.fields?

/-- The value of a text that may be missing. -/
def Json.Value.ofText? (text : Option String) : Value := text.elim .null .string

/-- A convention as a record. -/
def Convention.toJson (convention : Convention) : Value :=
  .ofFields (Notation.conventionFields.zip
    [.string convention.typeName, .ofText? convention.queueName, .ofText? convention.routingKey])

/-- Options as a record of all their fields in order. -/
def Options.toJson (options : Options) : Value :=
  .ofFields (Notation.optionFields.zip
    [.string options.host, .natural options.port.toNat, .string options.vhost,
      .string options.user, .string options.password, .string options.connectionName,
      .string options.exchangeName, .natural options.retries.toNat,
      .natural options.retryInterval.toNat, .bool options.requeues,
      .natural options.prefetch.toNat, .list (options.conventions.map Convention.toJson)])

/-- The options that a JSON value stands for. -/
def Options.ofJson? (value : Value) : Option Options := Notation.json.options? value

end AmqpBus

import AmqpBus.Message.Shape
import AmqpBus.Time.Lenient
import AmqpBus.Uuid

/-!
# Contexts

A context goes with a message through all its deliveries and with the messages that
follow from it: it says which operation they belong to and since when.  Each delivery
records the count that the broker reports; the count never goes down.
-/

namespace AmqpBus

open Time (Moment)

/-- The identity of an operation and what is known of its deliveries. -/
structure Context where
  id : Uuid
  retries : UInt32 := 0
  createdAt : Moment
  deliveredAt : Option Moment := none
  deriving DecidableEq

namespace Context

/-- Records a delivery with the count that the broker reports. -/
def recordDelivery (context : Context) (count : UInt32) (now : Moment) : Context :=
  { context with retries := max context.retries count, deliveredAt := some now }

/-- A context as a record. -/
def datum (context : Context) : Datum :=
  .record
    [("id", .text context.id.text), ("retries", .integer context.retries.toNat),
      ("created_at", .text context.createdAt.zuluText),
      ("delivered_at", context.deliveredAt.elim .absent fun m => .text m.zuluText)]

/-- The shape of a context, whose identifier and times are texts. -/
def shape : Shape :=
  .record
    [("id", .text), ("retries", .unsigned 32), ("created_at", .text),
      ("delivered_at", .optional .text)]

/-- The context of a record. -/
def ofDatum? : Datum → Option Context
  | .record [(_, .text id), (_, .integer retries), (_, .text createdAt), (_, deliveredAt)] => do
    return {
      id := ← Uuid.ofText? id
      retries := .ofInt retries
      createdAt := ← Moment.ofLenientText? createdAt
      deliveredAt := ← match deliveredAt with
        | .absent => some none
        | .text m => (Moment.ofLenientText? m).map some
        | _ => none }
  | _ => none

/-- A context in JSON. -/
def toJson (context : Context) : ByteArray := context.datum.payload

/-- The context of a JSON text. -/
def ofJson? (bytes : ByteArray) : Option Context := do ofDatum? (← shape.read? bytes)

end Context

end AmqpBus

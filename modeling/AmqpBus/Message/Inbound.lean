import AmqpBus.Message.Outbound

/-!
# Inbound messages

What the properties of a delivered message say about it, and the message that a handler
receives.  The identifier of the context is taken from its header or else from the
correlation identifier; a message without a readable one belongs to a new context.
-/

namespace AmqpBus

open Time (Moment)

/-- A message handed to a handler. -/
structure Inbound where
  messageType : String
  payload : ByteArray
  context : Context
  exchange : String := ""
  routingKey : String := ""
  redelivered : Bool := false

/-- What the properties of a delivered message say: its type, how often it was dead
before, and its context. -/
structure DeliveryHeaders where
  messageType : Option String
  count : UInt32
  contextId : Option Uuid
  createdAt : Option Moment
  deriving DecidableEq

namespace DeliveryHeaders

/-- The count in the first entry of the list of deaths that the broker keeps. -/
def deaths? (headers : Amqp.Table) : Option Int64 := do
  let .array (.table first :: _) ← headers.get? "x-death" | none
  let .int64 count ← first.lookup "count" | none
  return count

/-- The count of deaths, which is zero unless it fits 32 bits without a sign. -/
def countOf (headers : Amqp.Table) : UInt32 :=
  match deaths? headers with
  | some count =>
    if Number.isUnsigned 32 count.toInt then .ofNat count.toInt.toNat else 0
  | none => 0

/-- The text of a header that is a string. -/
def header? (headers : Amqp.Table) (name : String) : Option String := do
  (← headers.get? name).text?

/-- What properties say. -/
def ofProperties (properties : Amqp.Properties) : DeliveryHeaders :=
  let headers := properties.headers.getD ∅
  { messageType := properties.kind.filter fun kind => !kind.isEmpty
    count := countOf headers
    contextId :=
      ((header? headers contextIdHeader).or properties.correlationId).bind Uuid.ofText?
    createdAt := (header? headers createdAtHeader).bind Moment.ofText? }

/-- The context of a delivered message, given an identifier for a new one and the time. -/
def context (headers : DeliveryHeaders) (fresh : Uuid) (now : Moment) : Context :=
  match headers.contextId with
  | some id => { id, createdAt := headers.createdAt.getD now }
  | none => { id := fresh, createdAt := now }

end DeliveryHeaders

end AmqpBus

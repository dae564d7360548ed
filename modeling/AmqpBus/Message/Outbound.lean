import AmqpBus.Amqp.Properties
import AmqpBus.Context
import AmqpBus.Time.Duration
import AmqpBus.Topology.Route
import AmqpBus.Trace

/-!
# Outbound messages

A message on its way to the broker, and the properties it is sent with: its type, its
context and what the publisher asks for.  The two headers of the context win over those
of the caller, which win over the entries of the trace.
-/

namespace AmqpBus

/-- The header that carries the identifier of the context. -/
def contextIdHeader : String := "x-context-id"

/-- The header that carries the beginning of the context. -/
def createdAtHeader : String := "x-context-created-at"

/-- What a publisher asks for beside the message. -/
structure SendingOptions where
  headers : Amqp.Arguments := ∅
  contentType : String := "application/json"
  expiration : Option Time.Duration := none
  priority : Option UInt8 := none
  persistent : Bool := false

/-- A message on its way to the broker. -/
structure Outbound where
  route : Route
  payload : ByteArray
  context : Context
  options : SendingOptions

namespace Outbound

/-- The headers of a message, with the entries of a trace. -/
def headers (message : Outbound) (trace : List (String × String)) : Amqp.Table :=
  (((Trace.injectAll ∅ trace).overlay (Amqp.fieldsOf message.options.headers)).insert
      contextIdHeader (.longString message.context.id.text.toUTF8)).insert
    createdAtHeader (.longString message.context.createdAt.text.toUTF8)

/-- The properties a message is sent with, given the entries of a trace and the
identifier of the message. -/
def properties (message : Outbound) (trace : List (String × String)) (messageId : Uuid) :
    Amqp.Properties where
  kind := some message.route.messageType
  contentType := some message.options.contentType
  correlationId := some message.context.id.text
  messageId := some messageId.text
  expiration := message.options.expiration.map fun duration => duration.millis.repr
  priority := message.options.priority
  deliveryMode := if message.options.persistent then some Amqp.persistentMode else none
  timestamp := some (.ofNat message.context.createdAt.unixSeconds.toNat)
  headers := some (message.headers trace)

end Outbound

end AmqpBus

import AmqpBus.Amqp.Field

/-!
# Message properties on the wire

The properties that AMQP sends beside the body of a message.  All of them are optional.
-/

namespace AmqpBus.Amqp

/-- The properties of a message. -/
structure Properties where
  kind : Option String := none
  contentType : Option String := none
  correlationId : Option String := none
  messageId : Option String := none
  expiration : Option String := none
  priority : Option UInt8 := none
  deliveryMode : Option UInt8 := none
  timestamp : Option UInt64 := none
  headers : Option Table := none

/-- The delivery mode of messages that the broker keeps on disk. -/
def persistentMode : UInt8 := 2

end AmqpBus.Amqp

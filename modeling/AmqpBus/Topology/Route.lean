import AmqpBus.Topology.Exchange
import AmqpBus.Topology.Queue

/-!
# Routes

A route says all that is needed to publish a message type or to consume it.
-/

namespace AmqpBus

/-- Where a message type is published and where it is consumed. -/
structure Route where
  messageType : String
  exchange : Exchange
  routingKey : String
  queue : Queue
  binding : Binding
  consumer : Consumer
  deriving DecidableEq

end AmqpBus

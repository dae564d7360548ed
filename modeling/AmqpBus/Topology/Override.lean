import AmqpBus.Topology.Exchange

/-!
# Overrides

What one call says about the topology of the message type it publishes or subscribes to.
All of it is optional, and what it says wins over the registration and the options.
-/

namespace AmqpBus

/-- What a call says about the exchange and the way to it. -/
structure ExchangeOverride where
  name : Option String := none
  kind : Option ExchangeKind := none
  durable : Option Bool := none
  autoDelete : Option Bool := none
  routingKey : Option String := none
  queueName : Option String := none
  arguments : Amqp.Arguments := ∅
  deriving DecidableEq

/-- What a call says about the queue and its consumer. -/
structure QueueOverride where
  name : Option String := none
  suffix : Option String := none
  prefetch : Option UInt16 := none
  consumerTag : Option String := none
  autoAck : Option Bool := none
  arguments : Amqp.Arguments := ∅
  deriving DecidableEq

/-- What a call says.  A call that says nothing leaves both parts at their defaults. -/
structure Override where
  exchange : ExchangeOverride := {}
  queue : QueueOverride := {}
  deriving DecidableEq

end AmqpBus

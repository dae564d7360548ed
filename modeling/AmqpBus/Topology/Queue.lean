import AmqpBus.Amqp.Field

/-!
# Queues

What is declared to the broker for a queue, for its binding to an exchange and for the
consumer that reads it.  A queue may have two companions: a dead-letter queue, where
messages end that cannot be handled, and a retry queue, where they wait for another
attempt.
-/

namespace AmqpBus

/-- The declaration of a queue. -/
structure Queue where
  name : String
  durable : Bool := false
  autoDelete : Bool := false
  exclusive : Bool := false
  passive : Bool := false
  noWait : Bool := false
  ttl : Option Int32 := none
  maxLength : Option Int32 := none
  deadLetters : Option String := none
  retry : Option (String × Int32) := none
  arguments : Amqp.Arguments := ∅
  deriving DecidableEq

namespace Queue

/-- The queue with arguments added, which win over those it has. -/
def withArguments (queue : Queue) (arguments : Amqp.Arguments) : Queue :=
  { queue with arguments := queue.arguments.overlay arguments }

/-- The queue with a dead-letter queue beside it. -/
def withDeadLetters (queue : Queue) : Queue :=
  { queue with deadLetters := some (queue.name ++ "-dlq") }

/-- The queue with a retry queue beside it, in which a message waits `ttl`
milliseconds. -/
def withRetry (queue : Queue) (ttl : Int32) : Queue :=
  { queue with retry := some (queue.name ++ "-retry", ttl) }

end Queue

/-- The binding of a queue to an exchange. -/
structure Binding where
  queue : String
  exchange : String := ""
  key : String := ""
  deriving DecidableEq

/-- How a queue is consumed: the consumer's tag, how many messages the broker may send
ahead, and whether it counts them as handled once they are sent. -/
structure Consumer where
  tag : String
  prefetch : UInt16 := 1
  autoAck : Bool := false
  deriving DecidableEq

end AmqpBus

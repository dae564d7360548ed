import AmqpBus.Amqp.Properties

/-!
# Methods

What AMQP asks of a broker over an open channel: to declare exchanges and queues, to bind
queues to exchanges, to deliver the messages of a queue, to route a message, and to settle
a delivery.
-/

namespace AmqpBus.Amqp

/-- A method.  A delivery is named by its tag, which counts the deliveries of a
channel. -/
inductive Method where
  | declareExchange (exchange kind : String)
      (passive durable autoDelete internal noWait : Bool) (arguments : Table)
  | declareQueue (queue : String) (passive durable exclusive autoDelete noWait : Bool)
      (arguments : Table)
  | bindQueue (queue exchange routingKey : String) (noWait : Bool) (arguments : Table)
  | qos (prefetch : UInt16) (allConsumers : Bool)
  | consume (queue consumerTag : String) (noLocal noAck exclusive noWait : Bool)
      (arguments : Table)
  | publish (exchange routingKey : String) (mandatory immediate : Bool)
      (properties : Properties) (payload : ByteArray)
  | ack (deliveryTag : UInt64) (allBefore : Bool)
  | nack (deliveryTag : UInt64) (allBefore requeue : Bool)

end AmqpBus.Amqp

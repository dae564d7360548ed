import AmqpBus.Broker.Installation

/-!
# The transport

Hands messages and subscriptions to a broker over a channel.  The transport remembers
which exchanges it has declared: each is declared before the first message to it, and a
declaration that fails is made again for the next one.
-/

namespace AmqpBus.Broker

open Work

/-- The names of the exchanges that are declared. -/
structure Transport where
  declared : List String := []

namespace Transport

/-- The transport that has declared an exchange. -/
def declaring (transport : Transport) (exchange : String) : Transport :=
  if exchange ∈ transport.declared then transport
  else { declared := exchange :: transport.declared }

/-- Declares an exchange, unless that has been done. -/
def ensure (transport : Transport) (exchange : Exchange) :
    Work (Except BrokerError Unit × Transport) := do
  if exchange.name ∈ transport.declared then return (.ok (), transport)
  else
    match ← declareExchange exchange with
    | .error error => return (.error error, transport)
    | .ok () => return (.ok (), transport.declaring exchange.name)

/-- The method that routes a message, with the entries of the current trace and the
identifier of the message. -/
def publication (message : Outbound) (trace : List (String × String)) (id : Uuid) : Amqp.Method :=
  .publish message.route.exchange.name message.route.routingKey false false
    (message.properties trace id) message.payload

/-- Publishes a message to its exchange, which is declared before. -/
def publish (transport : Transport) (message : Outbound) :
    Work (Except BrokerError Unit × Transport) := do
  let (declared, transport) ← transport.ensure message.route.exchange
  match declared with
  | .error error => return (.error error, transport)
  | .ok () =>
    let method := publication message (← traceEntries) (← newId)
    let outcome ← require method "error publishing message" (.publish message.route.exchange.name)
    return (outcome, transport)

/-- Sets the prefetch of the channel and has the broker deliver the messages of a queue. -/
def register (route : Route) : Work (Except BrokerError Unit) := do
  let queue := route.queue.name
  noting
    (Interaction.inOrder
      [require (.qos route.consumer.prefetch false) "failure to configure qos" (.qos queue),
        require (.consume queue route.consumer.tag false route.consumer.autoAck false false ∅)
          "failure to declare consumer" (.consume queue)])
    "consumer registered"

/-- Subscribes to a route: installs it and begins to take its deliveries. -/
def subscribe (transport : Transport) (route : Route) :
    Work (Except BrokerError Unit × Transport) := do
  match ← (Installation.ofRoute route).install with
  | .error error => return (.error error, transport)
  | .ok () =>
    let transport := transport.declaring route.exchange.name
    match ← register route with
    | .error error => return (.error error, transport)
    | .ok () =>
      listen route
      return (.ok (), transport)

end Transport

end AmqpBus.Broker

import AmqpBus.Message.Format
import AmqpBus.Naming
import AmqpBus.Operation

/-!
# Publishing

Commands are sent and events are published to the route of their type.  A message is
handed to the transport once, after all that can go wrong before has gone right; its
persistence follows the durability of its exchange unless the caller changes it.  Reject
events keep the context of the message that they reject.
-/

namespace AmqpBus

open Operation

namespace Naming

variable {D H α : Type} (naming : Naming)

/-- Hands a message to the transport, unless the token is cancelled before it is
there. -/
def handOver (message : Outbound) : Operation D H (Except BusError Unit) := do
  if ← isCancelled then return .error .cancelled
  debug "publishing message"
  match ← Operation.publish message with
  | none => return .error .cancelled
  | some (.ok ()) => return .ok ()
  | some (.error error) =>
    complain "error publishing message"
    return .error (.transport error)

/-- Sends a message along a route.  `adjust` changes what is asked for beside the
message. -/
def sendAlong (route : Route) (format : Format α) (message : α) (context : Option Context)
    (adjust : SendingOptions → SendingOptions) : Operation D H (Except BusError Unit) := do
  match format.encode? message with
  | none =>
    complain "failure to serialize message"
    return .error (.serialization route.messageType)
  | some payload =>
    let context ← match context with
      | some context => pure context
      | none => newContext
    handOver
      { route, payload, context, options := adjust { persistent := route.exchange.durable } }

/-- Sends a command. -/
def send (format : Format α) (message : α) (context : Option Context) (override : Override)
    (adjust : SendingOptions → SendingOptions) : Operation D H (Except BusError Unit) :=
  match naming.resolve format.type override with
  | .error error => return .error error
  | .ok route => sendAlong route format message context adjust

/-- Publishes an event, which must not be abstract. -/
def publish (format : Format α) (message : α) (context : Option Context) (override : Override)
    (adjust : SendingOptions → SendingOptions) : Operation D H (Except BusError Unit) :=
  match naming.registry.descriptor format.type with
  | .error error => return .error error
  | .ok descriptor =>
    if descriptor.role = .abstractEvent then do
      complain "refusing to publish an abstract event"
      return .error (.abstractEvent descriptor.fullName)
    else naming.send format message context override adjust

/-- Publishes a reject event to the error exchange. -/
def publishRejection (event : RejectEvent) (context : Context) :
    Operation D H (Except BusError Unit) :=
  match naming.resolveRejection event.type with
  | .error error => return .error error
  | .ok route =>
    match event.payload? with
    | none => return .error (.serialization route.messageType)
    | some payload => handOver { route, payload, context, options := {} }

end Naming

end AmqpBus

import AmqpBus.Message.Registry
import AmqpBus.Options.Basic
import AmqpBus.Text.Slug
import AmqpBus.Topology.Override
import AmqpBus.Topology.Route

/-!
# Naming

Computes the route of a message type.  Each name is taken from the first source that
gives it: the call, the registration, the naming conventions (for the routing key and
the queue), and at last a default built from the exchange of the options or from the
slug of the type's namespace.  Reject events take their exchange from none of these:
they go to the error exchange, which is named after the default one.
-/

namespace AmqpBus

/-- What names are computed from. -/
structure Naming where
  options : Options
  registry : Registry

namespace Naming

variable (naming : Naming)

/-- The name of the exchange of types that are registered with none: the one in the
options or else the slug of the namespace. -/
def defaultExchange (descriptor : Descriptor) : String :=
  if naming.options.exchangeName.isEmpty then Text.slug descriptor.space
  else naming.options.exchangeName

/-- The name of the exchange for the reject events of a namespace. -/
def errorExchange (descriptor : Descriptor) : String :=
  naming.defaultExchange descriptor ++ ".error"

/-- The name of the exchange that a message type is published to. -/
def exchangeName (descriptor : Descriptor) (override : Override) : String :=
  match descriptor.role with
  | .reject => naming.errorExchange descriptor
  | _ =>
    (override.exchange.name.or descriptor.exchangeName).getD
      (naming.defaultExchange descriptor)

/-- The queue names that the call and the registration give, in the order in which they
are compared. -/
def queueNames (descriptor : Descriptor) (override : Override) : List String :=
  [override.queue.name, override.exchange.queueName, descriptor.queueName].filterMap id

/-- The one name that all candidates agree on, if there are any.  The first one that
differs from the first candidate is reported. -/
def agreed (messageType : String) : List String → Except BusError (Option String)
  | [] => .ok none
  | first :: others =>
    match others.find? (· ≠ first) with
    | some other => .error (.conflictingQueues messageType first other)
    | none => .ok (some first)

/-- The exchange of a route. -/
def exchange (descriptor : Descriptor) (override : Override) : Exchange :=
  let name := naming.exchangeName descriptor override
  let durable := (override.exchange.durable.or descriptor.durable).getD false
  let autoDelete := (override.exchange.autoDelete.or descriptor.autoDelete).getD false
  let plain : Exchange := { name, durable, autoDelete }
  let kinded :=
    match (override.exchange.kind.or descriptor.exchangeKind).getD .topic with
    | .delayed => plain.delayedAs .topic
    | kind => { plain with kind }
  kinded.withArguments override.exchange.arguments

/-- The route of a descriptor. -/
def route (descriptor : Descriptor) (override : Override) : Except BusError Route := do
  let fullName := descriptor.fullName
  let given ← agreed fullName (queueNames descriptor override)
  let exchange := naming.exchange descriptor override
  let convention := naming.options.convention? fullName
  let standard := exchange.name ++ "." ++ Text.slug descriptor.name
  let routingKey :=
    ((override.exchange.routingKey.or descriptor.routingKey).or
      (convention.bind (·.routingKey))).getD standard
  let base := (given.or (convention.bind (·.queueName))).getD standard
  let queueName :=
    match override.queue.suffix with
    | some suffix => base ++ "." ++ suffix
    | none => base
  return {
    messageType := fullName
    exchange
    routingKey
    queue :=
      { name := queueName
        durable := exchange.durable
        autoDelete := exchange.autoDelete
        arguments := override.queue.arguments }
    binding := { queue := queueName, exchange := exchange.name, key := routingKey }
    consumer :=
      { tag := override.queue.consumerTag.getD queueName
        prefetch := override.queue.prefetch.getD naming.options.prefetch
        autoAck := override.queue.autoAck.getD false } }

/-- The route of a registered type. -/
def resolve (type : MessageType) (override : Override) : Except BusError Route := do
  naming.route (← naming.registry.descriptor type) override

/-- The route of a type that is published as a reject event. -/
def resolveRejection (type : MessageType) : Except BusError Route := do
  let descriptor ← naming.registry.descriptor type
  match descriptor.role with
  | .reject => naming.route descriptor {}
  | _ => throw (.configuration (.notReject descriptor.fullName))

/-- Whether a registered type is an abstract event. -/
def isAbstract (type : MessageType) : Except BusError Bool := do
  return (← naming.registry.descriptor type).role = .abstractEvent

end Naming

end AmqpBus

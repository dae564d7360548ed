import AmqpBus.Broker.Work

/-!
# Installing a topology

Exchanges are declared first, then queues, each after its companions, then queues are
bound.  Dead letters of a queue go through the default exchange, which routes by the name
of a queue: into its retry queue if it has one, from where they come back after a time,
and else into its dead-letter queue.  Nothing leaves a dead-letter queue.
-/

namespace AmqpBus

open Amqp (Method)

/-- The argument for the exchange that a queue sends its dead letters to. -/
def deadLetterExchangeArgument : String := "x-dead-letter-exchange"

/-- The argument for the routing key of dead letters. -/
def deadLetterKeyArgument : String := "x-dead-letter-routing-key"

/-- The argument for the time in milliseconds after which a message is dead. -/
def ttlArgument : String := "x-message-ttl"

/-- The argument for the number of messages that a queue holds. -/
def maxLengthArgument : String := "x-max-length"

/-- The arguments with which the dead letters of a queue go to another one. -/
def deadLetterArguments (target : String) : Amqp.Table :=
  ((∅ : Amqp.Table).insert deadLetterExchangeArgument (.longString "".toUTF8)).insert
    deadLetterKeyArgument (.longString target.toUTF8)

/-- The method that declares an exchange. -/
def Exchange.declaration (exchange : Exchange) : Method :=
  .declareExchange exchange.name exchange.kind.wireName exchange.passive exchange.durable
    exchange.autoDelete exchange.internal exchange.noWait (Amqp.fieldsOf exchange.arguments)

namespace Queue

variable (queue : Queue)

/-- The method that declares a queue or a companion of it, which has the same flags. -/
def declarationOf (name : String) (arguments : Amqp.Table) : Method :=
  .declareQueue name queue.passive queue.durable queue.exclusive queue.autoDelete queue.noWait
    arguments

/-- Where the dead letters of a queue go. -/
def deadLetterTarget? : Option String := (queue.retry.map (·.1)).or queue.deadLetters

/-- A table with an argument that is a number, if it is given. -/
def withNumber (table : Amqp.Table) (name : String) (value : Option Int32) : Amqp.Table :=
  value.elim table fun n => table.insert name (.int32 n)

/-- The arguments a queue is declared with. -/
def declaredArguments : Amqp.Table :=
  let given := Amqp.fieldsOf queue.arguments
  let led := queue.deadLetterTarget?.elim given fun t => given.overlay (deadLetterArguments t)
  withNumber (withNumber led ttlArgument queue.ttl) maxLengthArgument queue.maxLength

/-- The method that declares a queue. -/
def declaration : Method := queue.declarationOf queue.name queue.declaredArguments

/-- The arguments that a retry queue is declared with. -/
def retryArguments (ttl : Int32) : Amqp.Table :=
  (deadLetterArguments queue.name).insert ttlArgument (.int32 ttl)

end Queue

/-- The method that binds a queue to an exchange. -/
def Binding.method (binding : Binding) : Method :=
  .bindQueue binding.queue binding.exchange binding.key false ∅

namespace Broker

open Work

/-- Declares an exchange. -/
def declareExchange (exchange : Exchange) : Work (Except BrokerError Unit) := do
  debug "creating exchange"
  noting
    (require exchange.declaration "error to declare the exchange" (.declareExchange exchange.name))
    "exchange was created"

/-- Declares a queue after its companions. -/
def declareQueue (queue : Queue) : Work (Except BrokerError Unit) := do
  debug "creating queue"
  let retry := queue.retry.map fun (name, ttl) =>
    require (queue.declarationOf name (queue.retryArguments ttl))
      "failure to declare retry queue" (.declareQueue name)
  let deadLetters := queue.deadLetters.map fun name =>
    require (queue.declarationOf name ∅) "failure to declare dlq" (.declareQueue name)
  let own := require queue.declaration "error to declare the queue" (.declareQueue queue.name)
  noting (Interaction.inOrder (retry.toList ++ deadLetters.toList ++ [own])) "queue was created"

/-- Binds a queue to an exchange. -/
def bindQueue (binding : Binding) : Work (Except BrokerError Unit) := do
  debug "binding queue to exchange"
  require binding.method "error to bind queue to exchange" (.bind binding.exchange binding.queue)

/-- Exchanges, queues and bindings that are to be installed. -/
structure Installation where
  exchanges : List Exchange := []
  queues : List Queue := []
  bindings : List Binding := []

namespace Installation

/-- Adds an exchange, unless there is one of its name. -/
def withExchange (installation : Installation) (exchange : Exchange) : Installation :=
  if installation.exchanges.any (·.name = exchange.name) then installation
  else { installation with exchanges := installation.exchanges ++ [exchange] }

/-- Adds a queue, unless there is one of its name. -/
def withQueue (installation : Installation) (queue : Queue) : Installation :=
  if installation.queues.any (·.name = queue.name) then installation
  else { installation with queues := installation.queues ++ [queue] }

/-- Adds a binding. -/
def withBinding (installation : Installation) (binding : Binding) : Installation :=
  { installation with bindings := installation.bindings ++ [binding] }

/-- What a route needs to be consumed from. -/
def ofRoute (route : Route) : Installation :=
  (({} : Installation).withExchange route.exchange).withQueue route.queue
    |>.withBinding route.binding

/-- Installs exchanges, queues and bindings, up to the first that fails. -/
def install (installation : Installation) : Work (Except BrokerError Unit) :=
  Interaction.inOrder
    (installation.exchanges.map declareExchange ++ installation.queues.map declareQueue
      ++ installation.bindings.map bindQueue)

end Installation

end Broker

end AmqpBus

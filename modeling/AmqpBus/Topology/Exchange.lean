import AmqpBus.Amqp.Field

/-!
# Exchanges

What is declared to the broker for an exchange.  A delayed exchange holds messages back
and then routes them as an exchange of another kind, which it names in an argument.
-/

namespace AmqpBus

/-- How an exchange routes. -/
inductive ExchangeKind where
  | direct
  | fanout
  | topic
  | headers
  | delayed
  deriving DecidableEq

namespace ExchangeKind

/-- The name by which the broker knows a kind. -/
def wireName : ExchangeKind → String
  | .direct => "direct"
  | .fanout => "fanout"
  | .topic => "topic"
  | .headers => "headers"
  | .delayed => "x-delayed-message"

/-- The name of the routing that a delayed exchange falls back to, which for a delayed
one is `topic`. -/
def routingName : ExchangeKind → String
  | .delayed => "topic"
  | kind => kind.wireName

end ExchangeKind

/-- The argument in which a delayed exchange names its routing. -/
def delayedTypeArgument : String := "x-delayed-type"

/-- The declaration of an exchange. -/
structure Exchange where
  name : String
  kind : ExchangeKind := .topic
  autoDelete : Bool := false
  durable : Bool := false
  passive : Bool := false
  internal : Bool := false
  noWait : Bool := false
  arguments : Amqp.Arguments := ∅
  deriving DecidableEq

namespace Exchange

/-- The exchange made to hold messages back and then route them as `routing` does. -/
def delayedAs (exchange : Exchange) (routing : ExchangeKind) : Exchange :=
  { exchange with
    kind := .delayed
    arguments := exchange.arguments.insert delayedTypeArgument (.longString routing.routingName) }

/-- The exchange with arguments added, which win over those it has. -/
def withArguments (exchange : Exchange) (arguments : Amqp.Arguments) : Exchange :=
  { exchange with arguments := exchange.arguments.overlay arguments }

end Exchange

end AmqpBus

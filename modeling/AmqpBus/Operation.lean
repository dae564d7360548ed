import AmqpBus.Error
import AmqpBus.Interaction
import AmqpBus.Log
import AmqpBus.Message.Inbound

/-!
# Operations

What the operations of a bus ask of their surroundings: of the dispatcher that runs the
handlers, of the transport, of the clock, of the token by which the operation may be
cancelled, and of the log.  A pause and the publication of a message end early when the
token is cancelled.
-/

namespace AmqpBus

/-- What is done with a delivered message: it is removed, it goes to the dead letters, or
it comes again after some time. -/
inductive Acknowledgement where
  | ack
  | reject
  | retryAfter (delay : Time.Duration)
  deriving DecidableEq

/-- What an operation asks.  Dispatches `D` are left open, and so are the handlers `H`
that a transport keeps for a subscription. -/
inductive Request (D H : Type) where
  | isCancelled
  | acquire
  | release
  | newContext
  | dispatch (call : D)
  | pause (delay : Time.Duration)
  | publish (message : Outbound)
  | subscribe (route : Route) (handler : H)
  | log (entry : LogEntry)

/-- The replies.  A permit, a pause and a publication may be cut short by cancellation:
the first two then give `false`, the last one nothing. -/
def Request.Reply {D H : Type} : Request D H → Type
  | .isCancelled => Bool
  | .acquire => Bool
  | .release => Unit
  | .newContext => Context
  | .dispatch _ => Except HandlerError Unit
  | .pause _ => Bool
  | .publish _ => Option (Except BrokerError Unit)
  | .subscribe _ _ => Except BrokerError Unit
  | .log _ => Unit

/-- An operation of the bus. -/
abbrev Operation (D H : Type) (α : Type) : Type := Interaction (Request D H) Request.Reply α

/-- The operation that asks once. -/
def Request.ask {D H : Type} (request : Request D H) : Operation D H request.Reply :=
  .request request

namespace Operation

variable {D H : Type}

/-- Whether the token of the operation is cancelled. -/
def isCancelled : Operation D H Bool := Request.ask .isCancelled

/-- Waits for the permit of the subscription. -/
def acquire : Operation D H Bool := Request.ask .acquire

/-- Gives the permit back. -/
def release : Operation D H Unit := Request.ask .release

/-- A new context. -/
def newContext : Operation D H Context := Request.ask .newContext

/-- Runs a handler. -/
def dispatch (call : D) : Operation D H (Except HandlerError Unit) := Request.ask (.dispatch call)

/-- Waits for some time. -/
def pause (delay : Time.Duration) : Operation D H Bool := Request.ask (.pause delay)

/-- Hands a message to the transport. -/
def publish (message : Outbound) : Operation D H (Option (Except BrokerError Unit)) :=
  Request.ask (.publish message)

/-- Hands a subscription to the transport. -/
def subscribe (route : Route) (handler : H) : Operation D H (Except BrokerError Unit) :=
  Request.ask (.subscribe route handler)

/-- Writes a debugging entry to the log. -/
def debug (text : String) : Operation D H Unit := Request.ask (.log ⟨.debug, text⟩)

/-- Writes a warning to the log. -/
def warn (text : String) : Operation D H Unit := Request.ask (.log ⟨.warning, text⟩)

/-- Writes an error to the log. -/
def complain (text : String) : Operation D H Unit := Request.ask (.log ⟨.error, text⟩)

end Operation

end AmqpBus

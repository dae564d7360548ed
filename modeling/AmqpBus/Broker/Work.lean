import AmqpBus.Amqp.Method
import AmqpBus.Operation

/-!
# Work over a channel

What the bus asks while it works over an open channel: of the broker, that it carries out
a method; of the handler of a subscription, what becomes of a message; and of the rest of
its surroundings new identifiers, the time, the entries of the current trace, and that
something is logged.
-/

namespace AmqpBus.Broker

open Amqp (Method)

/-- What work over a channel asks. -/
inductive Question where
  | method (method : Method)
  | handle (message : Inbound)
  | listen (route : Route)
  | pause (delay : Time.Duration)
  | newId
  | now
  | traceEntries
  | log (entry : LogEntry)

/-- The replies.  A method is carried out or fails, and the handler gives an
acknowledgement or an error. -/
def Question.Reply : Question → Type
  | .method _ => Bool
  | .handle _ => Except BusError Acknowledgement
  | .listen _ => Unit
  | .pause _ => Unit
  | .newId => Uuid
  | .now => Time.Moment
  | .traceEntries => List (String × String)
  | .log _ => Unit

/-- Work over a channel. -/
abbrev Work (α : Type) : Type := Interaction Question Question.Reply α

/-- The work that asks once. -/
def Question.ask (question : Question) : Work question.Reply := .request question

namespace Work

/-- Has the broker carry out a method, and tells whether it did. -/
def send (method : Method) : Work Bool := Question.ask (.method method)

/-- Asks the handler of a subscription what becomes of a message. -/
def handle (message : Inbound) : Work (Except BusError Acknowledgement) :=
  Question.ask (.handle message)

/-- Begins to take the deliveries of a subscription. -/
def listen (route : Route) : Work Unit := Question.ask (.listen route)

/-- Waits for some time. -/
def pause (delay : Time.Duration) : Work Unit := Question.ask (.pause delay)

/-- A new identifier. -/
def newId : Work Uuid := Question.ask .newId

/-- The time. -/
def now : Work Time.Moment := Question.ask .now

/-- The entries of the current trace. -/
def traceEntries : Work (List (String × String)) := Question.ask .traceEntries

/-- Writes a debugging entry to the log. -/
def debug (text : String) : Work Unit := Question.ask (.log ⟨.debug, text⟩)

/-- Writes a warning to the log. -/
def warn (text : String) : Work Unit := Question.ask (.log ⟨.warning, text⟩)

/-- Writes an error to the log. -/
def complain (text : String) : Work Unit := Question.ask (.log ⟨.error, text⟩)

/-- Has the broker carry out a method whose failure is logged as a complaint and is an
error. -/
def require (method : Method) (complaint : String) (error : BrokerError) :
    Work (Except BrokerError Unit) := do
  if ← send method then return .ok ()
  else
    complain complaint
    return .error error

/-- Work that is logged when it has been done. -/
def noting (work : Work (Except BrokerError Unit)) (text : String) :
    Work (Except BrokerError Unit) := do
  match ← work with
  | .error error => return .error error
  | .ok () =>
    debug text
    return .ok ()

end Work

end AmqpBus.Broker

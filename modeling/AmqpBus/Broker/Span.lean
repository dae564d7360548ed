import AmqpBus.Message.Inbound
import AmqpBus.Topology.Route

/-!
# Spans

A span is the record of one delivery in a trace.  It is opened under the trace of the
publisher, whose entries came in the headers.  Its status can only rise: errors above
none, success above all errors, and of two errors the one whose description comes later
in the order of texts.
-/

namespace AmqpBus.Broker

/-- The status of a span. -/
inductive SpanStatus where
  | unset
  | error (description : String)
  | ok
  deriving DecidableEq

/-- Whether a status is below another one. -/
def SpanStatus.below : SpanStatus → SpanStatus → Bool
  | .unset, .unset => false
  | .unset, _ => true
  | .error first, .error second => first < second
  | .error _, .ok => true
  | _, _ => false

/-- The record of a delivery. -/
structure Span where
  name : String
  attributes : List (String × String)
  parent : List (String × String)
  events : List (String × List (String × String)) := []
  status : SpanStatus := .unset

namespace Span

/-- The span of a delivery with these properties to a queue. -/
def opened (properties : Amqp.Properties) (messageType queue : String) : Span :=
  let headers := properties.headers.getD ∅
  { name := messageType
    attributes :=
      [("messaging.system", "rabbitmq"), ("messaging.destination.name", queue),
        ("messaging.message.type", messageType)]
    parent :=
      (Trace.names headers).filterMap fun name => (Trace.extract? headers name).map (name, ·) }

/-- Raises the status. -/
def raise (span : Span) (status : SpanStatus) : Span :=
  if span.status.below status then { span with status } else span

/-- Records an error. -/
def recordError (span : Span) (text : String) : Span :=
  { span with events := span.events ++ [("exception", [("exception.message", text)])] }

end Span

end AmqpBus.Broker

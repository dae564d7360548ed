import AmqpBus.Broker.Span
import AmqpBus.Broker.Work

/-!
# Consuming a delivery

A delivery of the message type of its subscription goes to the handler, and the handler's
answer settles it.  A handled message is removed.  One that is to come again waits in the
retry queue of its queue, or, where there is none, until the time has passed here.  One
that is rejected goes to the dead-letter queue and is removed only when it is there.  A
cancelled one stays with the broker.  A delivery of another type is removed unread.  Where
the broker counts messages as handled once they are sent, the answer settles nothing.
-/

namespace AmqpBus.Broker

open Work

/-- A message that the broker delivers. -/
structure Delivery where
  tag : UInt64
  properties : Amqp.Properties
  payload : ByteArray
  exchange : String := ""
  routingKey : String := ""
  redelivered : Bool := false

/-- What stands in a span for the failure of a method. -/
def methodFailure : String := "the broker refused a method"

/-- What consuming a delivery comes to, with its span. -/
abbrev Consumed := Except BrokerError Unit × Span

namespace Delivery

variable (delivery : Delivery)

/-- Removes a delivery from its queue. -/
def ack (span : Span) : Work Consumed := do
  if ← send (.ack delivery.tag false) then return (.ok (), span)
  else
    complain "error whiling ack msg"
    return (.error .ack, (span.recordError methodFailure).raise (.error "error to ack msg"))

/-- Gives a delivery back, to its queue or to where the dead letters of its queue go. -/
def nack (requeue : Bool) (span : Span) : Work Consumed := do
  if ← send (.nack delivery.tag false requeue) then return (.ok (), span)
  else
    complain "error whiling nack msg"
    return (.error (if requeue then .requeue else .nack),
      (span.recordError methodFailure).raise (.error "error to nack msg"))

/-- Copies a delivery to a dead-letter queue and then removes it. -/
def bury (target : String) (span : Span) : Work Consumed := do
  complain "sending to dlq"
  if ← send (.publish "" target false false delivery.properties delivery.payload) then
    delivery.ack span
  else
    complain "error whiling sending to dlq"
    return (.error .deadLetter,
      (span.recordError methodFailure).raise (.error "msg was not sent to dlq"))

/-- Settles a delivery as it was decided. -/
def settle (queue : Queue) (decision : Acknowledgement) (span : Span) : Work Consumed := do
  match decision with
  | .ack =>
    match ← delivery.ack span with
    | (.ok (), span) => return (.ok (), span.raise .ok)
    | failed => return failed
  | .retryAfter delay =>
    if queue.retry.isSome then
      debug "requeuing for latter"
      delivery.nack false span
    else
      if delay ≠ 0 then pause delay
      delivery.nack true span
  | .reject =>
    match queue.deadLetters with
    | none => delivery.nack false span
    | some target => delivery.bury target span

/-- What the span records of the answer to a message that the broker counts as handled. -/
def passOver (answer : Except BusError Acknowledgement) (span : Span) : Work Consumed := do
  match answer with
  | .ok .ack => return (.ok (), span.raise .ok)
  | .ok _ =>
    warn "auto-ack delivery cannot be settled, message dropped"
    return (.ok (), span.raise (.error "auto-ack message dropped"))
  | .error error =>
    complain "failure processing auto-ack message"
    return (.ok (), span.recordError error.message)

/-- Settles a delivery by the answer of the handler. -/
def settleBy (queue : Queue) (answer : Except BusError Acknowledgement) (span : Span) :
    Work Consumed := do
  match answer with
  | .ok decision => delivery.settle queue decision span
  | .error .cancelled =>
    warn "processing cancelled, requeuing message"
    delivery.nack true span
  | .error error =>
    complain "unrecovered failure"
    delivery.settle queue .reject (span.recordError error.message)

/-- The message type of a delivery, which is the one of the subscription when the
publisher gave none. -/
def messageType (route : Route) : String :=
  (DeliveryHeaders.ofProperties delivery.properties).messageType.getD route.messageType

/-- The message that the handler receives, given an identifier and the time for a new context,
and the time at which the delivery is recorded. -/
def message (route : Route) (fresh : Uuid) (now delivered : Time.Moment) : Inbound :=
  let headers := DeliveryHeaders.ofProperties delivery.properties
  { messageType := delivery.messageType route
    payload := delivery.payload
    context := (headers.context fresh now).recordDelivery headers.count delivered
    exchange := delivery.exchange
    routingKey := delivery.routingKey
    redelivered := delivery.redelivered }

/-- What is said of a message that is not of the type of the subscription. -/
def foreignType : String := "removing message from queue - reason: unsupported msg type"

/-- Consumes a delivery of a subscription. -/
def consume (route : Route) : Work Consumed := do
  let messageType := delivery.messageType route
  let span := Span.opened delivery.properties messageType route.queue.name
  debug "received"
  if messageType ≠ route.messageType then
    warn foreignType
    delivery.settle route.queue .ack (span.raise (.error foreignType))
  else
    let answer ← handle (delivery.message route (← newId) (← now) (← now))
    if route.consumer.autoAck then passOver answer span
    else delivery.settleBy route.queue answer span

/-- Consumes a delivery and logs a failure to settle it. -/
def serve (route : Route) : Work Span := do
  match ← delivery.consume route with
  | (.ok (), span) => return span
  | (.error _, span) =>
    complain "failure settling delivery"
    return span

end Delivery

end AmqpBus.Broker

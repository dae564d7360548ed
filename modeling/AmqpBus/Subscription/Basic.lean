import AmqpBus.Retry.Processing

/-!
# Subscribing

A subscription is handed to the transport with the route of its message type, whose queue
gets the companions that failures need: always a queue for dead letters, and a retry queue
when the broker is to bring messages again.  A caller subscribes to a message type of the
bus, and says what becomes of failures and which token cancels the subscription.
-/

namespace AmqpBus

open Operation

namespace Queue

/-- The milliseconds that a message waits in a retry queue, which have 31 bits. -/
def retryTtl (interval : Time.Duration) : Int32 := .ofNat (min interval.millis 0x7FFFFFFF)

/-- The queue with the companions that a retry strategy needs. -/
def withCompanions (queue : Queue) (strategy : RetryStrategy) : Queue :=
  match strategy.place with
  | .inProcess => queue.withDeadLetters
  | .requeue => queue.withDeadLetters.withRetry (retryTtl strategy.interval)

end Queue

namespace Processing

variable {D H α : Type} (processing : Processing D α)

/-- The route of a subscription.  The broker can only bring a message again that it does
not count as handled. -/
def route (override : Override) : Except BusError Route := do
  let route ← processing.naming.resolve processing.format.type override
  if route.consumer.autoAck ∧ processing.strategy.place = .requeue then
    throw (.configuration (.autoAckRequeue route.queue.name))
  return { route with queue := route.queue.withCompanions processing.strategy }

/-- What is logged when a subscription has no route. -/
def complaint : BusError → String
  | .configuration (.autoAckRequeue _) => "failure to subscribe"
  | _ => "failure to resolve subscription topology"

/-- Hands a subscription to the transport, which keeps `handler` for its deliveries. -/
def subscribe (override : Override) (handler : H) : Operation D H (Except BusError Unit) := do
  match processing.route override with
  | .error error =>
    complain (complaint error)
    return .error error
  | .ok route =>
    if ← isCancelled then return .error .cancelled
    debug "subscribing"
    match ← Operation.subscribe route handler with
    | .ok () => return .ok ()
    | .error error =>
      complain "failure to subscribe"
      return .error (.transport error)

end Processing

/-! ### Subscribing by name -/

/-- What a caller says about a subscription: what becomes of failures, and the token that
cancels it, if there is one.  Tokens `T` are left open. -/
structure SubscriptionOptions (T α : Type) where
  failures : FailureOptions α := {}
  token : Option T := none

/-- The options with a reject event that stands for a failure. -/
def SubscriptionOptions.onError {T α : Type} (options : SubscriptionOptions T α)
    (toReject : α → HandlerError → RejectEvent) : SubscriptionOptions T α :=
  { options with failures := { options.failures with toReject := some toReject } }

/-- What is subscribed to.  A message type is given by its format and by the call that
dispatches its messages; with it comes what the transport keeps for a subscription. -/
structure Subject (D H T α : Type) where
  format : Format α
  call : α → Context → D
  keep : Processing D α → Option T → H

namespace Naming

variable {D H T α : Type} (naming : Naming)

/-- How deliveries of a subject are processed. -/
def processing (subject : Subject D H T α) (failures : FailureOptions α) : Processing D α where
  naming := naming
  strategy := naming.options.retryStrategy
  format := subject.format
  call := subject.call
  failures := failures

/-- Subscribes to a subject.  The operation is cancelled by the token of the options, which
the transport keeps for the deliveries. -/
def subscribe (subject : Subject D H T α) (override : Override)
    (options : SubscriptionOptions T α) : Operation D H (Except BusError Unit) :=
  let processing := naming.processing subject options.failures
  processing.subscribe override (subject.keep processing options.token)

end Naming

end AmqpBus

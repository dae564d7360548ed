import AmqpBus.Proofs.Ensures
import AmqpBus.Proofs.Route
import AmqpBus.Subscription.Basic

/-!
# What is handed to the transport

An operation that publishes a message hands the transport nothing but that message, in the
payload that it is written as and along a route of its type.  A subscription is handed over
with the route that was made for it, and with its handler.
-/

namespace AmqpBus

open Interaction Operation

variable {D H α : Type} {P : Outbound → Prop} {R : Route → H → Prop}

/-- A request hands the transport only messages and subscriptions as described. -/
def Request.HandsOver (P : Outbound → Prop) (R : Route → H → Prop) : Request D H → Prop
  | .publish message => P message
  | .subscribe route handler => R route handler
  | _ => True

/-! ### Operations that hand over only what is described -/

namespace Operation

/-- Whatever the replies are, only messages and subscriptions as described are handed to the
transport. -/
def HandsOver (P : Outbound → Prop) (R : Route → H → Prop) (operation : Operation D H α) :
    Prop :=
  operation.Asks (fun _ _ => True) (Request.HandsOver P R)

namespace HandsOver

theorem isCancelled :
  (Operation.isCancelled : Operation D H Bool).HandsOver P R
  := Asks.request trivial

theorem newContext :
  (Operation.newContext : Operation D H Context).HandsOver P R
  := Asks.request trivial

theorem debug (text : String) :
  (Operation.debug text : Operation D H Unit).HandsOver P R
  := Asks.request trivial

theorem complain (text : String) :
  (Operation.complain text : Operation D H Unit).HandsOver P R
  := Asks.request trivial

theorem publish {message : Outbound} (h : P message) :
  (Operation.publish message : Operation D H _).HandsOver P R
  := Asks.request h

theorem subscribe {route : Route} {handler : H} (h : R route handler) :
  (Operation.subscribe route handler : Operation D H _).HandsOver P R
  := Asks.request h

theorem of_mem {operation : Operation D H α} (h : operation.HandsOver P R)
    {turns : List (Turn (Request D H) Request.Reply)} {value : α}
    (hcourse : Course operation turns value) {turn : Turn (Request D H) Request.Reply}
    (hmem : turn ∈ turns) :
  turn.question.HandsOver P R
  := Asks.of_mem h hcourse (fun _ _ => trivial) hmem

theorem handOver {message : Outbound} (h : P message) :
  (Naming.handOver message : Operation D H (Except BusError Unit)).HandsOver P R
  := by
  rw [Naming.handOver]
  apply Asks.bind isCancelled
  intro cancelled
  split
  · apply Asks.pure
  · apply Asks.bind (debug _)
    intro _
    apply Asks.bind (publish h)
    intro outcome
    split
    · apply Asks.pure
    · apply Asks.pure
    · apply Asks.bind (complain _)
      intro _
      apply Asks.pure

theorem sendAlong {route : Route} {format : Format α} {message : α}
    {context : Option Context} {adjust : SendingOptions → SendingOptions}
    (h : ∀ payload context, format.encode? message = some payload →
      P { route, payload, context, options := adjust { persistent := route.exchange.durable } }) :
  (Naming.sendAlong route format message context adjust :
    Operation D H (Except BusError Unit)).HandsOver P R
  := by
  rw [Naming.sendAlong]
  split
  · apply Asks.bind (complain _)
    intro _
    apply Asks.pure
  · rename_i payload hpayload
    split
    · apply handOver (h _ _ hpayload)
    · apply Asks.bind newContext
      intro context
      apply handOver (h _ _ hpayload)

end HandsOver

end Operation

/-! ### Operations that publish -/

/-- How a message is published. -/
inductive Manner where
  | command
  | event
  | rejection

/-- What is asked for when a message is published, with the payload that the message is
written as if it can be written.  What is asked for beside the message may depend on its
route. -/
structure Publication where
  manner : Manner
  type : MessageType
  payload? : Option ByteArray
  context : Option Context
  override : Override
  options : Route → SendingOptions

namespace Naming

variable {naming : Naming}

theorem handsOver_send {format : Format α} {message : α} {context : Option Context}
    {override : Override} {adjust : SendingOptions → SendingOptions}
    (h : ∀ route payload context, naming.resolve format.type override = .ok route →
      format.encode? message = some payload →
      P { route, payload, context, options := adjust { persistent := route.exchange.durable } }) :
  (naming.send format message context override adjust :
    Operation D H (Except BusError Unit)).HandsOver P R
  := by
  rw [send]
  split
  · apply Asks.pure
  · rename_i route hroute
    apply HandsOver.sendAlong
    intro payload context hpayload
    apply h _ _ _ hroute hpayload

theorem handsOver_publish {format : Format α} {message : α} {context : Option Context}
    {override : Override} {adjust : SendingOptions → SendingOptions}
    (h : ∀ route payload context, naming.resolve format.type override = .ok route →
      format.encode? message = some payload →
      P { route, payload, context, options := adjust { persistent := route.exchange.durable } }) :
  (naming.publish format message context override adjust :
    Operation D H (Except BusError Unit)).HandsOver P R
  := by
  rw [publish]
  split
  · apply Asks.pure
  · split
    · apply Asks.bind (HandsOver.complain _)
      intro _
      apply Asks.pure
    · apply handsOver_send h

theorem handsOver_publishRejection {event : RejectEvent} {context : Context}
    (h : ∀ route payload, naming.resolveRejection event.type = .ok route →
      event.payload? = some payload → P { route, payload, context, options := {} }) :
  (naming.publishRejection event context : Operation D H (Except BusError Unit)).HandsOver P R
  := by
  rw [publishRejection]
  split
  · apply Asks.pure
  · rename_i route hroute
    split
    · apply Asks.pure
    · rename_i payload hpayload
      apply HandsOver.handOver (h _ _ hroute hpayload)

/-- The operations that publish, with what they are asked for.  A call that leaves the route
as it is has the override `{}`, and one that leaves the options as they are adjusts them by
`id`. -/
inductive Publishes (naming : Naming) :
    Publication → Operation D H (Except BusError Unit) → Prop
  | send {α : Type} (format : Format α) (message : α) (context : Option Context)
      (override : Override) (adjust : SendingOptions → SendingOptions) :
    Publishes naming
      { manner := .command
        type := format.type
        payload? := format.encode? message
        context
        override
        options := fun route => adjust { persistent := route.exchange.durable } }
      (naming.send format message context override adjust)
  | publish {α : Type} (format : Format α) (message : α) (context : Option Context)
      (override : Override) (adjust : SendingOptions → SendingOptions) :
    Publishes naming
      { manner := .event
        type := format.type
        payload? := format.encode? message
        context
        override
        options := fun route => adjust { persistent := route.exchange.durable } }
      (naming.publish format message context override adjust)
  | publishRejection (event : RejectEvent) (context : Context) :
    Publishes naming
      { manner := .rejection
        type := event.type
        payload? := event.payload?
        context := some context
        override := {}
        options := fun _ => {} }
      (naming.publishRejection event context)

/-- Whatever is published goes along the route that the call resolves to, and is what the
message is written as. -/
theorem Publishes.handsOver {publication : Publication}
    {operation : Operation D H (Except BusError Unit)}
    (h : naming.Publishes publication operation) :
  operation.HandsOver
    (fun outbound =>
      naming.resolve publication.type publication.override = .ok outbound.route
        ∧ publication.payload? = some outbound.payload)
    fun _ _ => False
  := by
  cases h with
  | send format message context override adjust =>
      apply handsOver_send
      intro route payload context hroute hpayload
      exact ⟨hroute, hpayload⟩
  | publish format message context override adjust =>
      apply handsOver_publish
      intro route payload context hroute hpayload
      exact ⟨hroute, hpayload⟩
  | publishRejection event context =>
      apply handsOver_publishRejection
      intro route payload hroute hpayload
      exact ⟨resolve_of_resolveRejection hroute, hpayload⟩

/-- A message has been handed to the transport by an operation that publishes it. -/
def Sent (naming : Naming) (publication : Publication) (outbound : Outbound) : Prop :=
  ∃ (D H : Type) (operation : Operation D H (Except BusError Unit))
    (turns : List (Turn (Request D H) Request.Reply)) (result : Except BusError Unit)
    (outcome : Option (Except BrokerError Unit)),
    naming.Publishes publication operation ∧ Course operation turns result
      ∧ ⟨.publish outbound, outcome⟩ ∈ turns

namespace Sent

variable {publication : Publication} {outbound : Outbound}

theorem resolve_eq (h : naming.Sent publication outbound) :
  naming.resolve publication.type publication.override = .ok outbound.route
  := by
  obtain ⟨_, _, operation, turns, result, outcome, hpublishes, hcourse, hmem⟩ := h
  apply (hpublishes.handsOver.of_mem hcourse hmem).1

theorem payload_eq (h : naming.Sent publication outbound) :
  publication.payload? = some outbound.payload
  := by
  obtain ⟨_, _, operation, turns, result, outcome, hpublishes, hcourse, hmem⟩ := h
  apply (hpublishes.handsOver.of_mem hcourse hmem).2

end Sent

/-- The operations that publish a message of a type, with the payload that it is written as
if it can be written. -/
inductive Publishing (naming : Naming) :
    MessageType → Option ByteArray → Operation D H (Except BusError Unit) → Prop
  | send {α : Type} (format : Format α) (message : α) (context : Option Context)
      (override : Override) (adjust : SendingOptions → SendingOptions) :
    Publishing naming format.type (format.encode? message)
      (naming.send format message context override adjust)
  | publish {α : Type} (format : Format α) (message : α) (context : Option Context)
      (override : Override) (adjust : SendingOptions → SendingOptions) :
    Publishing naming format.type (format.encode? message)
      (naming.publish format message context override adjust)
  | publishRejection (event : RejectEvent) (context : Context) :
    Publishing naming event.type event.payload? (naming.publishRejection event context)

/-- A message has been handed to the transport by an operation that publishes it as one of a
type, with the payload that it is written as. -/
def Published (naming : Naming) (type : MessageType) (payload? : Option ByteArray)
    (outbound : Outbound) : Prop :=
  ∃ (D H : Type) (operation : Operation D H (Except BusError Unit))
    (turns : List (Turn (Request D H) Request.Reply)) (result : Except BusError Unit)
    (outcome : Option (Except BrokerError Unit)),
    naming.Publishing type payload? operation ∧ Course operation turns result
      ∧ ⟨.publish outbound, outcome⟩ ∈ turns

/-- Whatever has been published of a type has been sent by a call. -/
theorem Published.exists_sent {type : MessageType} {payload? : Option ByteArray}
    {outbound : Outbound} (h : naming.Published type payload? outbound) :
  ∃ publication : Publication, publication.type = type
    ∧ publication.payload? = payload? ∧ naming.Sent publication outbound
  := by
  obtain ⟨D, H, operation, turns, result, outcome, hpublishing, hcourse, hmem⟩ := h
  have hsent : ∀ {publication}, naming.Publishes publication operation →
      naming.Sent publication outbound :=
    fun hpublishes => ⟨D, H, operation, turns, result, outcome, hpublishes, hcourse, hmem⟩
  cases hpublishing with
  | send format message context override adjust =>
      exact ⟨_, rfl, rfl, hsent (.send format message context override adjust)⟩
  | publish format message context override adjust =>
      exact ⟨_, rfl, rfl, hsent (.publish format message context override adjust)⟩
  | publishRejection event context =>
      exact ⟨_, rfl, rfl, hsent (.publishRejection event context)⟩

theorem Published.exists_resolve {type : MessageType} {payload? : Option ByteArray}
    {outbound : Outbound} (h : naming.Published type payload? outbound) :
  ∃ override, naming.resolve type override = .ok outbound.route
  := by
  obtain ⟨publication, rfl, -, hsent⟩ := h.exists_sent
  use publication.override, hsent.resolve_eq

theorem Published.payload_eq {type : MessageType} {payload? : Option ByteArray}
    {outbound : Outbound} (h : naming.Published type payload? outbound) :
  payload? = some outbound.payload
  := by
  obtain ⟨publication, -, rfl, hsent⟩ := h.exists_sent
  apply hsent.payload_eq

end Naming

/-! ### Subscriptions -/

/-- A subscription is handed over with its route and its handler. -/
theorem Processing.handsOver_subscribe (processing : Processing D α) (override : Override)
    (handler : H) :
  (processing.subscribe override handler : Operation D H (Except BusError Unit)).HandsOver
    (fun _ => False) fun route given => processing.route override = .ok route ∧ given = handler
  := by
  rw [subscribe]
  split
  · apply Asks.bind (HandsOver.complain _)
    intro _
    apply Asks.pure
  · rename_i route hroute
    apply Asks.bind HandsOver.isCancelled
    intro cancelled
    split
    · apply Asks.pure
    · apply Asks.bind (HandsOver.debug _)
      intro _
      apply Asks.bind (HandsOver.subscribe ⟨hroute, rfl⟩)
      intro outcome
      split
      · apply Asks.pure
      · apply Asks.bind (HandsOver.complain _)
        intro _
        apply Asks.pure

/-- A subscription has been handed to the transport with a route. -/
def Processing.Subscribed (processing : Processing D α) (override : Override) (route : Route) :
    Prop :=
  ∃ (H : Type) (handler given : H) (turns : List (Turn (Request D H) Request.Reply))
    (result : Except BusError Unit) (outcome : Except BrokerError Unit),
    Course (processing.subscribe override handler) turns result
      ∧ ⟨.subscribe route given, outcome⟩ ∈ turns

theorem Processing.Subscribed.route_eq {processing : Processing D α} {override : Override}
    {route : Route} (h : processing.Subscribed override route) :
  processing.route override = .ok route
  := by
  obtain ⟨_, handler, given, turns, result, outcome, hcourse, hmem⟩ := h
  apply ((processing.handsOver_subscribe override handler).of_mem hcourse hmem).1

/-- What a caller subscribes to is handed over so: deliveries are processed as the options of
the bus and of the caller say. -/
theorem Naming.subscribed_of_subscribe {T : Type} {naming : Naming} {subject : Subject D H T α}
    {override : Override} {options : SubscriptionOptions T α}
    {turns : List (Turn (Request D H) Request.Reply)} {result : Except BusError Unit}
    {route : Route} {given : H} {outcome : Except BrokerError Unit}
    (hcourse : Course (naming.subscribe subject override options) turns result)
    (hmem : ⟨.subscribe route given, outcome⟩ ∈ turns) :
  (naming.processing subject options.failures).Subscribed override route
  := ⟨H, _, given, turns, result, outcome, hcourse, hmem⟩

end AmqpBus

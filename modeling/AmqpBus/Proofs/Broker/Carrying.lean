import AmqpBus.Proofs.Broker.Declared
import AmqpBus.Proofs.HandingOver
import AmqpBus.Proofs.Message.Headers

/-!
# What a publication carries

The transport asks the broker to route a message that was handed to it, at most once and
after everything else.  The method names the exchange and the routing key of the route,
holds the payload as it is, and describes the message by its type, its context and what was
asked for beside it.  A publication succeeds if and only if the broker carried that method
out.
-/

namespace AmqpBus

open Broker

namespace Outbound

variable (message : Outbound)

/-- The properties describe a message.  They name its type and its context, say what was asked
for beside it, and have the headers that it must have. -/
structure Describes (properties : Amqp.Properties) : Prop where
  kind_eq : properties.kind = some message.route.messageType
  contentType_eq : properties.contentType = some message.options.contentType
  correlationId_eq : properties.correlationId = some message.context.id.text
  exists_messageId : ∃ messageId : Uuid, properties.messageId = some messageId.text
  expiration_eq : properties.expiration
    = message.options.expiration.map fun duration => duration.millis.repr
  priority_eq : properties.priority = message.options.priority
  deliveryMode_eq : properties.deliveryMode = if message.options.persistent then some 2 else none
  timestamp_eq : properties.timestamp = some (.ofNat message.context.createdAt.unixSeconds.toNat)
  exists_headers : ∃ trace headers, properties.headers = some headers
    ∧ ∀ name, message.Header trace name (headers.get? name)

theorem describes_properties (trace : List (String × String)) (messageId : Uuid) :
  message.Describes (message.properties trace messageId)
  where
    kind_eq := rfl
    contentType_eq := rfl
    correlationId_eq := rfl
    exists_messageId := ⟨messageId, rfl⟩
    expiration_eq := rfl
    priority_eq := rfl
    deliveryMode_eq := rfl
    timestamp_eq := rfl
    exists_headers := ⟨trace, message.headers trace, rfl, message.header_get?_headers trace⟩

/-- A method asks the broker to route a message along a key of an exchange. -/
inductive RoutedBy : Amqp.Method → Prop
  | publish {properties : Amqp.Properties} (h : message.Describes properties) :
    RoutedBy (.publish message.route.exchange.name message.route.routingKey false false
      properties message.payload)

theorem routedBy_publication (trace : List (String × String)) (messageId : Uuid) :
  message.RoutedBy (Transport.publication message trace messageId)
  := .publish (message.describes_properties trace messageId)

end Outbound

namespace Broker.Transport

variable {transport next : Transport} {message : Outbound} {deeds : List Deed}
  {outcome : Except BrokerError Unit}

/-- A publication ends with the one method that routes the message, and its outcome is what the
broker made of that.  Otherwise the exchange could not be declared, and nothing is routed. -/
theorem publish_carries_message (h : Does (transport.publish message) deeds (outcome, next)) :
  (∃ before method success, deeds = before ++ [.method method success]
      ∧ message.RoutedBy method
      ∧ (∀ deed ∈ before, ∀ exchange, ¬deed.PublishesTo exchange)
      ∧ outcome = if success then .ok () else .error (.publish message.route.exchange.name))
    ∨ ((∀ deed ∈ deeds, ∀ exchange, ¬deed.PublishesTo exchange)
      ∧ outcome = .error (.declareExchange message.route.exchange.name))
  := by
  cases publishes h with
  | @known trace messageId success hknown =>
      left
      refine ⟨[], _, success, rfl, message.routedBy_publication trace messageId, ?_, rfl⟩
      simp
  | refused hunknown =>
      right
      refine ⟨List.forall_mem_singleton.mpr ?_, rfl⟩
      intro exchange
      apply Deed.not_publishesTo_declaration
  | @declared trace messageId success hunknown =>
      left
      refine ⟨[_], _, success, rfl, message.routedBy_publication trace messageId, ?_, rfl⟩
      refine List.forall_mem_singleton.mpr ?_
      intro exchange
      apply Deed.not_publishesTo_declaration

/-- What a call sent has reached the broker when the transport says so: along the route that the
call resolves to, in the payload that the message is written as. -/
theorem sent_message_reaches_broker {naming : Naming} {publication : Publication}
    (hsent : naming.Sent publication message)
    (h : Does (transport.publish message) deeds (.ok (), next)) :
  ∃ route payload properties before,
    naming.resolve publication.type publication.override = .ok route
      ∧ publication.payload? = some payload ∧ message.Describes properties
      ∧ deeds = before
        ++ [.method
          (.publish route.exchange.name route.routingKey false false properties payload) true]
  := by
  obtain ⟨before, method, success, hdeeds, ⟨hdescribes⟩, -, houtcome⟩ | ⟨-, herror⟩ :=
    publish_carries_message h
  · cases success with
    | true =>
        exact ⟨message.route, message.payload, _, before, hsent.resolve_eq, hsent.payload_eq,
          hdescribes, hdeeds⟩
    | false => contradiction
  · contradiction

end Broker.Transport

end AmqpBus

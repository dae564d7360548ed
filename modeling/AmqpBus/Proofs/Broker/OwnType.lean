import AmqpBus.Proofs.Broker.AutoAck
import AmqpBus.Proofs.HandingOver
import AmqpBus.Proofs.Message.Headers
import AmqpBus.Proofs.Registry
import AmqpBus.Proofs.Retry.Outcome
import AmqpBus.Proofs.Subscription

/-!
# Messages of one's own type

A subscription hands its handler the messages of its own type, each one once, and none of
any other type.  The name that tells the types apart travels with the message; it is made
from the registration alone, so no override on either side changes it.
-/

namespace AmqpBus.Broker

variable {D α : Type} {processing : Processing D α} {override : Override} {route : Route}
  {type : MessageType} {payload? : Option ByteArray} {outbound : Outbound}
  {trace : List (String × String)} {messageId : Uuid}
  {delivery : Delivery} {deeds : List Deed} {consumed : Consumed}

namespace Delivery

/-- The type of a message survives its way to the consumer, unless it is empty. -/
theorem messageType_of_properties (hname : outbound.route.messageType ≠ "")
    (hproperties : delivery.properties = outbound.properties trace messageId) :
  delivery.messageType route = outbound.route.messageType
  := by
  rw [messageType, hproperties, outbound.messageType_ofProperties, if_neg hname,
    Option.getD_some]

/-- A delivery of the type of the subscription is handed to the handler first and then no
more, whether answers settle deliveries or not. -/
theorem deeds_of_consume_own_type (htype : delivery.messageType route = route.messageType)
    (h : Does (delivery.consume route) deeds consumed) :
  ∃ fresh now delivered answer rest,
    deeds = .handle (delivery.message route fresh now delivered) answer :: rest
      ∧ rest.countP Deed.asksHandler = 0
  := by
  obtain ⟨fresh, now, delivered, answer, rest, _, rfl, hrest⟩ := does_consume_own htype h
  refine ⟨fresh, now, delivered, answer, rest, rfl, ?_⟩
  split at hrest
  · obtain ⟨rfl, -⟩ := does_passOver hrest
    rfl
  · apply (settles_of_settleBy hrest).countP_asksHandler

/-- What reaches the handler is the message of the delivery, which is of the type of the
subscription. -/
theorem message_of_mem (h : Does (delivery.consume route) deeds consumed) {message : Inbound}
    {answer : Except BusError Acknowledgement} (hmem : .handle message answer ∈ deeds) :
  delivery.messageType route = route.messageType
    ∧ ∃ fresh now delivered, message = delivery.message route fresh now delivered
  := by
  by_cases htype : delivery.messageType route = route.messageType
  · use htype
    obtain ⟨fresh, now, delivered, given, rest, rfl, hrest⟩ := deeds_of_consume_own_type htype h
    use fresh, now, delivered
    obtain heq | hmem := List.mem_cons.mp hmem
    · apply (Deed.handle.inj heq).1
    · have hnone := List.countP_eq_zero.mp hrest _ hmem
      contradiction
  · obtain ⟨success, rfl⟩ := deeds_of_consume_foreign htype h
    have hne := List.mem_singleton.mp hmem
    contradiction

end Delivery

/-- A subscription handles its own type and only it.  Let a message be published as one of a
registered type, by any operation and under any override, and delivered to a subscription
of a type of the same bus under any other.  Then the handler is asked once if the types are
the same, with the published payload and the full name of the type, and otherwise it is not
asked. -/
theorem consume_handles_own_type {descriptor : Descriptor}
    (hpublished : processing.naming.Published type payload? outbound)
    (hdescriptor : processing.naming.registry.descriptor type = .ok descriptor)
    (hname : descriptor.fullName ≠ "")
    (hsubscribed : processing.Subscribed override route)
    (hproperties : delivery.properties = outbound.properties trace messageId)
    (hpayload : delivery.payload = outbound.payload)
    (h : Does (delivery.consume route) deeds consumed) :
  deeds.countP Deed.asksHandler = (if type = processing.format.type then 1 else 0)
    ∧ ∀ message answer, .handle message answer ∈ deeds →
      payload? = some message.payload
        ∧ ∃ own, processing.naming.registry.descriptor processing.format.type = .ok own
          ∧ message.messageType = own.fullName
  := by
  obtain ⟨_, hresolve⟩ := hpublished.exists_resolve
  obtain ⟨published, hpublishing, houtbound⟩ := Naming.messageType_of_resolve hresolve
  obtain rfl := Except.ok.inj (hdescriptor.symm.trans hpublishing)
  obtain ⟨own, hown, hroute⟩ := Processing.messageType_of_route hsubscribed.route_eq
  have hsame : delivery.messageType route = route.messageType
      ↔ type = processing.format.type := by
    rw [delivery.messageType_of_properties (houtbound ▸ hname) hproperties, houtbound, hroute,
      Registry.fullName_inj hdescriptor hown]
  constructor
  · by_cases htype : delivery.messageType route = route.messageType
    · obtain ⟨fresh, now, delivered, answer, rest, rfl, hrest⟩ :=
        Delivery.deeds_of_consume_own_type htype h
      rw [if_pos (hsame.mp htype), List.countP_cons_of_pos rfl, hrest]
    · obtain ⟨success, rfl⟩ := Delivery.deeds_of_consume_foreign htype h
      rw [if_neg (mt hsame.mpr htype)]
      rfl
  · intro message answer hmem
    obtain ⟨htype, fresh, now, delivered, rfl⟩ := Delivery.message_of_mem h hmem
    have hbody : (delivery.message route fresh now delivered).payload = outbound.payload := hpayload
    rw [hpublished.payload_eq, hbody]
    exact ⟨rfl, own, hown, htype.trans hroute⟩

/-- The delivery of a message as it was published. -/
def deliveryOf (outbound : Outbound) : Delivery where
  tag := 7
  properties := outbound.properties [] outbound.context.id
  payload := outbound.payload

/-- A subscription to ticks handles a tick, also one under another name for its queue, and no
reject event. -/
theorem consume_handles_own_type_tick :
  ∃ (ticked missed : Outbound) (route : Route),
    clockNaming.Published "clock::Tick" (some ByteArray.empty) ticked
      ∧ clockNaming.Published "clock::TickMissed" (some "late".toUTF8) missed
      ∧ (clocking .requeue).Subscribed { queue := { name := some "ticks" } } route
      ∧ (deedsOf (((deliveryOf ticked).consume route).history rejecting ())).countP
          Deed.asksHandler = 1
      ∧ (deedsOf (((deliveryOf missed).consume route).history rejecting ())).countP
          Deed.asksHandler = 0
  := by
  have hticked : ∃ ticked, clockNaming.Published "clock::Tick" (some ByteArray.empty) ticked :=
    ⟨_, Empty, Empty, _, _, _, _, .publish tickFormat () none {} id,
      Interaction.course_history Supply.reply _ (.ofOutcomes []),
      .tail _ (.tail _ (.tail _ (.head _)))⟩
  have hmissed : ∃ missed,
      clockNaming.Published "clock::TickMissed" (some "late".toUTF8) missed :=
    ⟨_, Empty, Empty, _, _, _, _,
      .publishRejection ⟨"clock::TickMissed", some "late".toUTF8⟩ (tick 0).context,
      Interaction.course_history Supply.reply _ (.ofOutcomes []), .tail _ (.tail _ (.head _))⟩
  have hsubscribed : ∃ route,
      (clocking .requeue).Subscribed { queue := { name := some "ticks" } } route :=
    ⟨_, Unit, (), (), _, _, _, Interaction.course_history Supply.reply _ (.ofOutcomes []),
      .tail _ (.tail _ (.head _))⟩
  obtain ⟨ticked, hticked⟩ := hticked
  obtain ⟨missed, hmissed⟩ := hmissed
  obtain ⟨route, hsubscribed⟩ := hsubscribed
  have htick := consume_handles_own_type hticked rfl (by decide) hsubscribed rfl rfl
    ⟨_, Interaction.course_history rejecting ((deliveryOf ticked).consume route) (), rfl⟩
  have hmiss := consume_handles_own_type hmissed rfl (by decide) hsubscribed rfl rfl
    ⟨_, Interaction.course_history rejecting ((deliveryOf missed).consume route) (), rfl⟩
  exact ⟨ticked, missed, route, hticked, hmissed, hsubscribed, htick.1, hmiss.1⟩

end AmqpBus.Broker

import AmqpBus.Proofs.HandingOver
import AmqpBus.Proofs.Publishing
import AmqpBus.Proofs.Subscription

/-!
# Publisher and subscriber meet

Where a type is published does not depend on what a call says about the queue of the type.
So calls that say the same about the exchange and the way to it meet there, however
different their queues are: the messages of one go to the exchange, and with the key, that
the queue of another is bound to.
-/

namespace AmqpBus

/-- Two calls say the same about the exchange and the way to it.  What they say about the
queue is left open. -/
structure ExchangeOverride.SameWay (first second : ExchangeOverride) : Prop where
  name : first.name = second.name
  kind : first.kind = second.kind
  durable : first.durable = second.durable
  autoDelete : first.autoDelete = second.autoDelete
  routingKey : first.routingKey = second.routingKey
  arguments : first.arguments = second.arguments

namespace Naming

variable {naming : Naming} {descriptor : Descriptor} {one other override : Override}
  {route route' : Route} {type : MessageType}

/-! ### The way to an exchange -/

theorem exchangeName_congr (h : one.exchange.name = other.exchange.name) :
  naming.exchangeName descriptor one = naming.exchangeName descriptor other
  := by
  rw [exchangeName, exchangeName, h]

theorem exchange_congr (h : one.exchange.SameWay other.exchange) :
  naming.exchange descriptor one = naming.exchange descriptor other
  := by
  simp only [exchange, exchangeName_congr h.name, h.kind, h.durable, h.autoDelete, h.arguments]

/-- An exchange that holds messages back says how it routes them then, which is as a topic
exchange unless the call says otherwise. -/
theorem delayedType_of_delayed (h : (naming.exchange descriptor override).kind = .delayed) :
  (naming.exchange descriptor override).arguments.get? delayedTypeArgument
    = some ((override.exchange.arguments.get? delayedTypeArgument).getD (.longString "topic"))
  := by
  rw [get?_arguments_exchange, if_pos ⟨h, rfl⟩]
  cases override.exchange.arguments.get? delayedTypeArgument <;> rfl

/-- Calls that say the same about the exchange and the way to it go the same way. -/
theorem same_way_of_resolve (hsame : one.exchange.SameWay other.exchange)
    (hone : naming.resolve type one = .ok route)
    (hother : naming.resolve type other = .ok route') :
  route.messageType = route'.messageType ∧ route.exchange = route'.exchange
    ∧ route.routingKey = route'.routingKey
  := by
  obtain ⟨descriptor, hdescriptor, hroute⟩ := exists_route_of_resolve hone
  rw [resolve_eq_route hdescriptor] at hother
  obtain ⟨htype, hexchange, hkey, -⟩ := parts_of_route hroute
  obtain ⟨htype', hexchange', hkey', -⟩ := parts_of_route hother
  refine ⟨?_, ?_, ?_⟩
  · rw [htype, htype']
  · rw [hexchange, hexchange', exchange_congr hsame]
  · rw [hkey, hkey', exchangeName_congr hsame.name, hsame.routingKey]

theorem binding_of_resolve (h : naming.resolve type override = .ok route) :
  route.binding
    = { queue := route.queue.name, exchange := route.exchange.name, key := route.routingKey }
  := by
  obtain ⟨descriptor, -, hroute⟩ := exists_route_of_resolve h
  obtain ⟨-, -, -, hbinding⟩ := parts_of_route hroute
  apply hbinding

/-! ### What is published and what is bound -/

/-- The queue of a subscription is bound to the exchange, and with the key, that messages of
its type go to. -/
theorem binding_of_subscribed {D α : Type} {processing : Processing D α}
    {publication : Publication} {outbound : Outbound}
    (hsame : publication.override.exchange.SameWay other.exchange)
    (htype : processing.format.type = publication.type)
    (hsent : processing.naming.Sent publication outbound)
    (hsubscribed : processing.Subscribed other route) :
  route.exchange = outbound.route.exchange
    ∧ route.binding
      = { queue := route.queue.name
          exchange := outbound.route.exchange.name
          key := outbound.route.routingKey }
  := by
  obtain ⟨plain, hplain, -, rfl⟩ := Processing.exists_of_route hsubscribed.route_eq
  rw [htype] at hplain
  obtain ⟨-, hexchange, hkey⟩ := same_way_of_resolve hsame hsent.resolve_eq hplain
  rw [Queue.name_withCompanions, hexchange, hkey]
  use rfl, binding_of_resolve hplain

/-- Publisher and subscriber meet.  Two calls that say the same about the exchange and the way
to it go the same way for every type, whatever they say about queues.  A route binds its own
queue to its own exchange with its own key, and a delayed exchange says how it routes.  So
what is published by one call goes to the exchange, and with the key, that the queue of a
subscription by the other is bound with. -/
theorem publisher_meets_subscriber (naming : Naming) {one other : Override}
    (hsame : one.exchange.SameWay other.exchange) :
  (∀ type route route', naming.resolve type one = .ok route →
      naming.resolve type other = .ok route' →
      route.messageType = route'.messageType ∧ route.exchange = route'.exchange
        ∧ route.routingKey = route'.routingKey
        ∧ route.binding.exchange = route'.binding.exchange
        ∧ route.binding.key = route'.binding.key)
    ∧ (∀ type override route, naming.resolve type override = .ok route →
      route.binding
          = { queue := route.queue.name
              exchange := route.exchange.name
              key := route.routingKey }
        ∧ (route.exchange.kind = .delayed →
          ∃ field, route.exchange.arguments.get? delayedTypeArgument = some field))
    ∧ ∀ {D α : Type} (publication : Publication) (outbound : Outbound)
      (processing : Processing D α) (route : Route),
      processing.naming = naming → processing.format.type = publication.type →
      publication.override = one → naming.Sent publication outbound →
      processing.Subscribed other route →
      route.exchange = outbound.route.exchange
        ∧ route.binding
          = { queue := route.queue.name
              exchange := outbound.route.exchange.name
              key := outbound.route.routingKey }
  := by
  refine ⟨?_, ?_, ?_⟩
  · intro type route route' hone hother
    obtain ⟨htype, hexchange, hkey⟩ := same_way_of_resolve hsame hone hother
    rw [binding_of_resolve hone, binding_of_resolve hother]
    exact ⟨htype, hexchange, hkey, congrArg Exchange.name hexchange, hkey⟩
  · intro type override route hresolve
    use binding_of_resolve hresolve
    intro hdelayed
    obtain ⟨descriptor, -, hroute⟩ := exists_route_of_resolve hresolve
    rw [exchange_of_route hroute] at hdelayed ⊢
    exact ⟨_, delayedType_of_delayed hdelayed⟩
  · rintro D α publication outbound processing route rfl htype rfl hsent hsubscribed
    apply binding_of_subscribed hsame htype hsent hsubscribed

/-- A call that names the queue of ticks, and says so in both of the places for it. -/
def ticksOverride : Override where
  exchange := { queueName := some "ticks" }
  queue := { name := some "ticks" }

/-- A subscription that has its own name for the queue of ticks is bound to get the ticks that
are published by a call that says nothing. -/
theorem publisher_meets_subscriber_ticks :
  ∃ (publication : Publication) (ticked : Outbound) (route : Route),
    publication.type = "clock::Tick" ∧ publication.override = {}
      ∧ clockNaming.Sent publication ticked
      ∧ (clocking .requeue).Subscribed ticksOverride route
      ∧ ticked.route.queue.name = "clock.tick" ∧ route.queue.name = "ticks"
      ∧ route.binding
        = { queue := "ticks"
            exchange := ticked.route.exchange.name
            key := ticked.route.routingKey }
  := by
  obtain ⟨ticked, hsent⟩ : ∃ ticked, clockNaming.Sent _ ticked :=
    ⟨_, Empty, Empty, _, _, _, _, .publish tickFormat () none {} id,
      Interaction.course_history Supply.reply _ (.ofOutcomes []),
      .tail _ (.tail _ (.tail _ (.head _)))⟩
  obtain ⟨route, hsubscribed⟩ : ∃ route, (clocking .requeue).Subscribed ticksOverride route :=
    ⟨_, Unit, (), (), _, _, _, Interaction.course_history Supply.reply _ (.ofOutcomes []),
      .tail _ (.tail _ (.head _))⟩
  have hsame : ({} : Override).exchange.SameWay ticksOverride.exchange :=
    ⟨rfl, rfl, rfl, rfl, rfl, rfl⟩
  obtain ⟨-, -, hmeet⟩ := publisher_meets_subscriber clockNaming hsame
  obtain ⟨-, hbinding⟩ := hmeet _ ticked (clocking .requeue) route rfl rfl rfl hsent hsubscribed
  have hticked : ticked.route.queue.name = "clock.tick" := by
    rw [← Except.ok.inj hsent.resolve_eq]
    decide
  have hqueue : route.queue.name = "ticks" := by
    rw [← Except.ok.inj hsubscribed.route_eq]
    decide
  rw [hqueue] at hbinding
  exact ⟨_, ticked, route, rfl, rfl, hsent, hsubscribed, hticked, hqueue, hbinding⟩

end Naming

end AmqpBus

import AmqpBus.Proofs.Broker.Installing
import AmqpBus.Proofs.HandingOver
import AmqpBus.Proofs.Retry.Outcome
import AmqpBus.Proofs.Subscription

/-!
# Limits of consumers

How many messages the broker may send ahead to a consumer is said by the call or else by the
settings, and the broker is told this number as it is.  Zero is no limit to the broker.  Settings
that validate never say zero, and so there is no limit exactly where the call says so.
-/

namespace AmqpBus

open Interaction

variable {D α : Type} {override : Override} {route : Route}

/-! ### Limits of routes -/

namespace Naming

variable {naming : Naming} {type : MessageType}

/-- The limit of a route is the one of the call, or else the one of the settings. -/
theorem prefetch_of_resolve (h : naming.resolve type override = .ok route) :
  route.consumer.prefetch = override.queue.prefetch.getD naming.options.prefetch
  := by
  obtain ⟨descriptor, -, hroute⟩ := exists_route_of_resolve h
  rw [consumer_of_route hroute]

theorem prefetch_ne_zero_of_validate {options : Options} (h : options.validate = .ok ()) :
  options.prefetch ≠ 0
  := by
  intro hzero
  rw [Options.validate, if_pos hzero] at h
  contradiction

/-- With settings that validate a route has no limit exactly if the call says so. -/
theorem prefetch_eq_zero_iff (hvalid : naming.options.validate = .ok ())
    (h : naming.resolve type override = .ok route) :
  route.consumer.prefetch = 0 ↔ override.queue.prefetch = some 0
  := by
  rw [prefetch_of_resolve h]
  cases override.queue.prefetch with
  | none => simp [prefetch_ne_zero_of_validate hvalid]
  | some prefetch => simp

end Naming

/-- A subscription has the limit of the route of its type. -/
theorem Processing.Subscribed.exists_resolve {processing : Processing D α}
    (h : processing.Subscribed override route) :
  ∃ plain, processing.naming.resolve processing.format.type override = .ok plain
    ∧ plain.consumer = route.consumer
  := by
  obtain ⟨plain, hplain, -, rfl⟩ := exists_of_route h.route_eq
  use plain, hplain

namespace Broker

/-! ### What the broker is told -/

/-- Whatever the broker was asked was demanded. -/
theorem Made.exists_demand {demands : List Demand} {deeds : List Deed}
    {outcome : Except BrokerError Unit} {method : Amqp.Method} {success : Bool}
    (h : Made demands deeds outcome) (hmem : .method method success ∈ deeds) :
  ∃ demand ∈ demands, demand.method = method
  := by
  induction h with
  | done => contradiction
  | failed demand demands =>
      obtain ⟨⟩ := List.mem_singleton.mp hmem
      use demand, List.mem_cons_self
  | next demand h ih =>
      obtain hmet | hrest := List.mem_cons.mp hmem
      · use demand, List.mem_cons_self, (Deed.method.inj hmet).1.symm
      · obtain ⟨later, hlater, hmethod⟩ := ih hrest
        use later, List.mem_cons_of_mem _ hlater

/-- The limit that a method sets, if it sets one. -/
def limit? : Amqp.Method → Option UInt16
  | .qos prefetch _ => some prefetch
  | _ => none

/-- Nothing that is installed sets a limit. -/
theorem limit?_of_mem_installation {demand : Demand}
    (h : demand ∈ (Installation.ofRoute route).demands) :
  limit? demand.method = none
  := by
  rw [Installation.demands_ofRoute, Queue.demands, Queue.companions] at h
  simp only [List.mem_append, List.mem_cons, List.mem_map, List.not_mem_nil, or_false] at h
  obtain (rfl | (⟨retry, -, rfl⟩ | ⟨name, -, rfl⟩) | rfl) | rfl := h
  · rfl
  · rfl
  · rfl
  · rfl
  · rfl

namespace Transport

variable {transport next : Transport} {deeds : List Deed} {outcome : Except BrokerError Unit}

/-- The broker is told the limit of the route and no other. -/
theorem limit_of_subscribe (h : Does (transport.subscribe route) deeds (outcome, next))
    {method : Amqp.Method} {success : Bool} (hmem : .method method success ∈ deeds)
    {prefetch : UInt16} (hlimit : limit? method = some prefetch) :
  prefetch = route.consumer.prefetch
  := by
  obtain ⟨turns, hcourse, rfl⟩ := h
  obtain ⟨demand, hdemand, rfl⟩ := (subscribes hcourse).made.exists_demand hmem
  obtain hinstallation | hregistration := List.mem_append.mp hdemand
  · rw [limit?_of_mem_installation hinstallation] at hlimit
    contradiction
  · rw [registration, List.mem_cons, List.mem_singleton] at hregistration
    obtain rfl | rfl := hregistration
    · apply (Option.some.inj hlimit).symm
    · contradiction

/-- A subscription does not succeed before the broker has taken the limit. -/
theorem qos_mem_of_subscribe (h : Does (transport.subscribe route) deeds (.ok (), next)) :
  .method (.qos route.consumer.prefetch false) true ∈ deeds
  := by
  obtain ⟨turns, hcourse, rfl⟩ := h
  rw [(subscribes hcourse).made.deeds_eq, List.map_append]
  apply List.mem_append_right _ List.mem_cons_self

end Transport

/-- There is no limit exactly where a call says so.  Let the settings validate.  Then zero is the
limit of the route of a type, and the limit that the broker is told when the type is subscribed
to, exactly if the call asks for it; and a reject event has a limit always.  The broker is told
the limit of the route and no other, and a subscription does not succeed before it has taken
it. -/
theorem unlimited_iff_overridden {naming : Naming} (hvalid : naming.options.validate = .ok ())
    (override : Override) :
  (∀ type route, naming.resolve type override = .ok route →
      (route.consumer.prefetch = 0 ↔ override.queue.prefetch = some 0))
    ∧ (∀ type route, naming.resolveRejection type = .ok route →
      route.consumer.prefetch ≠ 0)
    ∧ ∀ {D α : Type} (processing : Processing D α) (route : Route),
      processing.naming = naming → processing.Subscribed override route →
      ∀ (transport next : Transport) deeds outcome,
        Does (transport.subscribe route) deeds (outcome, next) →
        (∀ prefetch allConsumers success,
          .method (.qos prefetch allConsumers) success ∈ deeds →
          prefetch = route.consumer.prefetch
            ∧ (prefetch = 0 ↔ override.queue.prefetch = some 0))
        ∧ (outcome = .ok () → .method (.qos route.consumer.prefetch false) true ∈ deeds)
  := by
  refine ⟨?_, ?_, ?_⟩
  · intro type route hroute
    apply Naming.prefetch_eq_zero_iff hvalid hroute
  · intro type route hroute hzero
    have hsilent := Naming.resolve_of_resolveRejection hroute
    have hasked := (Naming.prefetch_eq_zero_iff hvalid hsilent).mp hzero
    contradiction
  · rintro D α processing route rfl hsubscribed transport next deeds outcome hdoes
    obtain ⟨plain, hplain, hconsumer⟩ := hsubscribed.exists_resolve
    constructor
    · intro prefetch allConsumers success hmem
      obtain rfl := Transport.limit_of_subscribe hdoes hmem rfl
      rw [← hconsumer]
      exact ⟨rfl, Naming.prefetch_eq_zero_iff hvalid hplain⟩
    · rintro rfl
      apply Transport.qos_mem_of_subscribe hdoes

/-- A call that asks for ticks with a limit. -/
def limitedTicks (prefetch : UInt16) : Override where
  queue := { prefetch := some prefetch }

/-- The route of a subscription to ticks with a limit. -/
def limitedRoute (prefetch : UInt16) : Route where
  messageType := "clock.Tick"
  exchange := { name := "clock" }
  routingKey := "clock.tick"
  queue := ({ name := "clock.tick" } : Queue).withDeadLetters
  binding := { queue := "clock.tick", exchange := "clock", key := "clock.tick" }
  consumer := { tag := "clock.tick", prefetch }

theorem subscribed_limitedRoute (prefetch : UInt16) :
  (clocking .inProcess).Subscribed (limitedTicks prefetch) (limitedRoute prefetch)
  := ⟨Unit, (), (), _, _, _, course_history Supply.reply _ (.ofOutcomes []),
    .tail _ (.tail _ (.head _))⟩

theorem exists_does_limitedRoute (prefetch : UInt16) :
  ∃ deeds next, Does (({} : Transport).subscribe (limitedRoute prefetch)) deeds (.ok (), next)
  := ⟨_, _, _, course_history rejecting _ (), rfl⟩

/-- The broker is told that ten ticks may be sent ahead, which is a limit. -/
theorem unlimited_iff_overridden_ticks :
  ∃ deeds next, (clocking .inProcess).Subscribed (limitedTicks 10) (limitedRoute 10)
    ∧ Does (({} : Transport).subscribe (limitedRoute 10)) deeds (.ok (), next)
    ∧ .method (.qos 10 false) true ∈ deeds
    ∧ ((10 : UInt16) = 0 ↔ (limitedTicks 10).queue.prefetch = some 0)
  := by
  have hvalid : clockNaming.options.validate = .ok () := by decide
  obtain ⟨-, -, hsubscriptions⟩ := unlimited_iff_overridden hvalid (limitedTicks 10)
  have hsubscribed := subscribed_limitedRoute 10
  obtain ⟨deeds, next, hdoes⟩ := exists_does_limitedRoute 10
  obtain ⟨hlimits, htold⟩ := hsubscriptions _ _ rfl hsubscribed _ _ _ _ hdoes
  have hmem := htold rfl
  use deeds, next, hsubscribed, hdoes, hmem
  apply (hlimits _ _ _ hmem).2

/-- Settings that validate do not keep a call from asking for no limit, of which the broker is
then told. -/
theorem unlimited_of_valid_options :
  clockNaming.options.validate = .ok ()
    ∧ ∃ route deeds next,
      clockNaming.resolve "clock::Tick" (limitedTicks 0) = .ok route
      ∧ route.consumer.prefetch = 0
      ∧ (clocking .inProcess).naming = clockNaming
      ∧ (clocking .inProcess).Subscribed (limitedTicks 0) (limitedRoute 0)
      ∧ Does (({} : Transport).subscribe (limitedRoute 0)) deeds (.ok (), next)
      ∧ .method (.qos 0 false) true ∈ deeds
  := by
  obtain ⟨deeds, next, hdoes⟩ := exists_does_limitedRoute 0
  exact ⟨by decide, _, deeds, next, rfl, rfl, rfl, subscribed_limitedRoute 0, hdoes,
    Transport.qos_mem_of_subscribe hdoes⟩

end Broker

end AmqpBus

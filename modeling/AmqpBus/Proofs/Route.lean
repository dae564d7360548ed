import AmqpBus.Naming
import Mathlib.Tactic.Common

/-!
# Routes

What a route owes to the descriptor that it is made for.  A descriptor has a route under an
override unless two of the names disagree that the call and the registration give for the
queue.
-/

namespace AmqpBus

/-- A sequence of two steps succeeds when both of them do. -/
theorem exists_of_bind_eq_ok {ε α β : Type} {first : Except ε α} {next : α → Except ε β}
    {result : β} (h : first >>= next = .ok result) :
  ∃ value, first = .ok value ∧ next value = .ok result
  := by
  cases first with
  | error error => contradiction
  | ok value => use value, rfl, h

namespace Naming

variable {naming : Naming} {descriptor : Descriptor} {override : Override} {route : Route}

/-! ### Names that disagree -/

/-- The second name is the first one in a list that differs from its head. -/
def Disagree (names : List String) (first second : String) : Prop :=
  second ≠ first
    ∧ ∃ same rest, names = first :: (same ++ second :: rest) ∧ ∀ name ∈ same, name = first

/-- There is no disagreement about a single name. -/
theorem not_disagree_of_length {names : List String} (h : names.length ≤ 1)
    (first second : String) :
  ¬Disagree names first second
  := by
  rintro ⟨-, same, rest, rfl, -⟩
  rw [List.length_cons, List.length_append, List.length_cons] at h
  omega

theorem agreed_of_disagree {names : List String} {first second : String}
    (h : Disagree names first second) (messageType : String) :
  agreed messageType names = .error (.conflictingQueues messageType first second)
  := by
  obtain ⟨hne, same, rest, rfl, hsame⟩ := h
  have hfind : (same ++ second :: rest).find? (· ≠ first) = some second := by
    apply List.find?_eq_some_iff_append.mpr
    refine ⟨by simpa using hne, same, rest, rfl, ?_⟩
    simpa using hsame
  rw [agreed, hfind]

theorem disagree_of_find? {first second : String} {others : List String}
    (h : others.find? (· ≠ first) = some second) :
  Disagree (first :: others) first second
  := by
  obtain ⟨hne, same, rest, rfl, hsame⟩ := List.find?_eq_some_iff_append.mp h
  exact ⟨by simpa using hne, same, rest, rfl, by simpa using hsame⟩

theorem agreed_of_not_disagree {names : List String}
    (h : ∀ first second, ¬Disagree names first second) (messageType : String) :
  agreed messageType names = .ok names.head?
  := by
  cases names with
  | nil => rfl
  | cons first others =>
      have hfind : others.find? (· ≠ first) = none := by
        cases hfound : others.find? (· ≠ first) with
        | none => rfl
        | some second => exact absurd (disagree_of_find? hfound) (h first second)
      rw [agreed, hfind]
      rfl

/-- Names disagree exactly if two of them are different. -/
theorem exists_disagree_iff {names : List String} :
  (∃ first second, Disagree names first second)
    ↔ ∃ one other, one ∈ names ∧ other ∈ names ∧ one ≠ other
  := by
  constructor
  · rintro ⟨first, second, hne, same, rest, rfl, -⟩
    use first, second, List.mem_cons_self, ?_, hne.symm
    apply List.mem_cons_of_mem
    apply List.mem_append_right _ List.mem_cons_self
  · rintro ⟨one, other, hone, hother, hne⟩
    cases names with
    | nil => contradiction
    | cons first others =>
        cases hfound : others.find? (· ≠ first) with
        | some second => exact ⟨first, second, disagree_of_find? hfound⟩
        | none =>
            have hsame : ∀ name ∈ first :: others, name = first := by
              simpa using List.find?_eq_none.mp hfound
            rw [hsame one hone, hsame other hother] at hne
            contradiction

/-! ### The parts of a route -/

theorem route_of_disagree {first second : String}
    (h : Disagree (queueNames descriptor override) first second) :
  naming.route descriptor override
    = .error (.conflictingQueues descriptor.fullName first second)
  := by
  rw [Naming.route, agreed_of_disagree h]
  rfl

theorem exists_route (h : ∀ first second, ¬Disagree (queueNames descriptor override) first second) :
  ∃ route, naming.route descriptor override = .ok route
  := by
  rw [Naming.route, agreed_of_not_disagree h]
  exact ⟨_, rfl⟩

theorem not_disagree_of_route (h : naming.route descriptor override = .ok route)
    (first second : String) :
  ¬Disagree (queueNames descriptor override) first second
  := by
  intro hdisagree
  rw [route_of_disagree hdisagree] at h
  contradiction

theorem queueNames_silent (descriptor : Descriptor) :
  queueNames descriptor {} = descriptor.queueName.toList
  := by
  rw [queueNames]
  cases descriptor.queueName <;> rfl

/-- A call that says nothing cannot disagree with the registration. -/
theorem not_disagree_of_silent (descriptor : Descriptor) (first second : String) :
  ¬Disagree (queueNames descriptor {}) first second
  := by
  apply not_disagree_of_length
  rw [queueNames_silent]
  cases descriptor.queueName with
  | none => exact Nat.zero_le 1
  | some name => exact Nat.le_refl 1

theorem name_exchange (naming : Naming) (descriptor : Descriptor) (override : Override) :
  (naming.exchange descriptor override).name = naming.exchangeName descriptor override
  := by
  rw [exchange, Exchange.withArguments]
  dsimp only
  split <;> rfl

theorem kind_exchange (naming : Naming) (descriptor : Descriptor) (override : Override) :
  (naming.exchange descriptor override).kind
    = (override.exchange.kind.or descriptor.exchangeKind).getD .topic
  := by
  rw [exchange, Exchange.withArguments]
  dsimp only
  split
  · rename_i hdelayed
    apply hdelayed.symm
  · rfl

theorem durable_exchange (naming : Naming) (descriptor : Descriptor) (override : Override) :
  (naming.exchange descriptor override).durable
    = (override.exchange.durable.or descriptor.durable).getD false
  := by
  rw [exchange, Exchange.withArguments]
  dsimp only
  split <;> rfl

theorem autoDelete_exchange (naming : Naming) (descriptor : Descriptor) (override : Override) :
  (naming.exchange descriptor override).autoDelete
    = (override.exchange.autoDelete.or descriptor.autoDelete).getD false
  := by
  rw [exchange, Exchange.withArguments]
  dsimp only
  split <;> rfl

/-- The arguments of an exchange are those of the call.  A delayed one routes as a topic
exchange where the call says nothing of it. -/
theorem get?_arguments_exchange (naming : Naming) (descriptor : Descriptor) (override : Override)
    (name : String) :
  (naming.exchange descriptor override).arguments.get? name
    = (override.exchange.arguments.get? name).or
      (if (naming.exchange descriptor override).kind = .delayed ∧ name = delayedTypeArgument
        then some (.longString "topic") else none)
  := by
  rw [kind_exchange, exchange, Exchange.withArguments]
  dsimp only
  split
  · rename_i hdelayed
    rw [hdelayed, Dictionary.get?_overlay, Exchange.delayedAs, Dictionary.get?_insert]
    simp [ExchangeKind.routingName, ExchangeKind.wireName]
  · rename_i hplain
    rw [Dictionary.get?_overlay, Dictionary.get?_empty, if_neg fun h => hplain h.1]

/-- What a route owes to its type and to the call.  Its key is the first that the call, the
registration or a convention gives, and else it is put together from the exchange and the name
of the type; with this key its queue is bound to its exchange. -/
theorem parts_of_route (h : naming.route descriptor override = .ok route) :
  route.messageType = descriptor.fullName
    ∧ route.exchange = naming.exchange descriptor override
    ∧ route.routingKey
      = ((override.exchange.routingKey.or descriptor.routingKey).or
          ((naming.options.convention? descriptor.fullName).bind (·.routingKey))).getD
            (naming.exchangeName descriptor override ++ "." ++ Text.slug descriptor.name)
    ∧ route.binding
      = { queue := route.queue.name, exchange := route.exchange.name, key := route.routingKey }
  := by
  rw [Naming.route] at h
  obtain ⟨given, -, h⟩ := exists_of_bind_eq_ok h
  obtain rfl := Except.ok.inj h
  rw [← name_exchange]
  exact ⟨rfl, rfl, rfl, rfl⟩

/-- A route is for messages of the full name of its type. -/
theorem messageType_of_route (h : naming.route descriptor override = .ok route) :
  route.messageType = descriptor.fullName
  := (parts_of_route h).1

theorem exchange_of_route (h : naming.route descriptor override = .ok route) :
  route.exchange = naming.exchange descriptor override
  := (parts_of_route h).2.1

theorem exchange_name_of_route (h : naming.route descriptor override = .ok route) :
  route.exchange.name = naming.exchangeName descriptor override
  := by
  rw [exchange_of_route h, name_exchange]

/-- An exchange is as durable as the call says, or else as the registration does. -/
theorem durable_of_route (h : naming.route descriptor override = .ok route) :
  route.exchange.durable = (override.exchange.durable.or descriptor.durable).getD false
  := by
  rw [exchange_of_route h, durable_exchange]

/-- A queue is as durable as its exchange, and only the call gives it arguments. -/
theorem queue_of_route (h : naming.route descriptor override = .ok route) :
  route.queue
    = { name := route.queue.name
        durable := route.exchange.durable
        autoDelete := route.exchange.autoDelete
        arguments := override.queue.arguments }
  := by
  rw [Naming.route] at h
  obtain ⟨given, -, h⟩ := exists_of_bind_eq_ok h
  obtain rfl := Except.ok.inj h
  rfl

/-- Only the call says how a queue is consumed, and else there are defaults. -/
theorem consumer_of_route (h : naming.route descriptor override = .ok route) :
  route.consumer
    = { tag := override.queue.consumerTag.getD route.queue.name
        prefetch := override.queue.prefetch.getD naming.options.prefetch
        autoAck := override.queue.autoAck.getD false }
  := by
  rw [Naming.route] at h
  obtain ⟨given, -, h⟩ := exists_of_bind_eq_ok h
  obtain rfl := Except.ok.inj h
  rfl

theorem resolve_eq_route {type : MessageType}
    (h : naming.registry.descriptor type = .ok descriptor) (override : Override) :
  naming.resolve type override = naming.route descriptor override
  := by
  rw [resolve, h]
  rfl

/-- A registered type resolves unless names disagree. -/
theorem resolve_cases {type : MessageType}
    (h : naming.registry.descriptor type = .ok descriptor) (override : Override) :
  (∃ first second, Disagree (queueNames descriptor override) first second
      ∧ naming.resolve type override
        = .error (.conflictingQueues descriptor.fullName first second))
    ∨ ∃ route, naming.resolve type override = .ok route
        ∧ naming.route descriptor override = .ok route
  := by
  rw [resolve_eq_route h]
  by_cases hdisagree : ∃ first second, Disagree (queueNames descriptor override) first second
  · obtain ⟨first, second, hdisagree⟩ := hdisagree
    left
    use first, second, hdisagree, route_of_disagree hdisagree
  · right
    simp only [not_exists] at hdisagree
    obtain ⟨route, hroute⟩ := exists_route hdisagree
    use route

/-- What resolves is registered. -/
theorem exists_route_of_resolve {type : MessageType}
    (h : naming.resolve type override = .ok route) :
  ∃ descriptor, naming.registry.descriptor type = .ok descriptor
    ∧ naming.route descriptor override = .ok route
  := by
  rw [resolve] at h
  apply exists_of_bind_eq_ok h

/-- A resolved route is for a registered type, known by its full name. -/
theorem messageType_of_resolve {type : MessageType}
    (h : naming.resolve type override = .ok route) :
  ∃ descriptor, naming.registry.descriptor type = .ok descriptor
    ∧ route.messageType = descriptor.fullName
  := by
  obtain ⟨descriptor, hdescriptor, h⟩ := exists_route_of_resolve h
  use descriptor, hdescriptor, messageType_of_route h

/-! ### Routes of reject events -/

theorem resolveRejection_of_reject {type : MessageType}
    (h : naming.registry.descriptor type = .ok descriptor) (hrole : descriptor.role = .reject) :
  naming.resolveRejection type = naming.route descriptor {}
  := by
  rw [resolveRejection, h]
  dsimp only [bind, Except.bind]
  split
  · rfl
  · contradiction

theorem resolveRejection_of_ne_reject {type : MessageType}
    (h : naming.registry.descriptor type = .ok descriptor) (hrole : descriptor.role ≠ .reject) :
  naming.resolveRejection type = .error (.configuration (.notReject descriptor.fullName))
  := by
  rw [resolveRejection, h]
  dsimp only [bind, Except.bind]
  split
  · contradiction
  · rfl

theorem resolveRejection_of_unregistered {type : MessageType} {error : BusError}
    (h : naming.registry.descriptor type = .error error) :
  naming.resolveRejection type = .error error
  := by
  rw [resolveRejection, h]
  rfl

/-- A reject event is published to a route of its type. -/
theorem resolve_of_resolveRejection {type : MessageType}
    (h : naming.resolveRejection type = .ok route) :
  naming.resolve type {} = .ok route
  := by
  rw [resolveRejection] at h
  obtain ⟨descriptor, hdescriptor, h⟩ := exists_of_bind_eq_ok h
  split at h
  · rw [resolve, hdescriptor]
    apply h
  · contradiction

/-- A reject event goes to the error exchange of its type. -/
theorem exchange_of_resolveRejection {type : MessageType}
    (h : naming.resolveRejection type = .ok route) :
  ∃ descriptor, naming.registry.descriptor type = .ok descriptor
    ∧ descriptor.role = .reject ∧ route.exchange.name = naming.errorExchange descriptor
  := by
  rw [resolveRejection] at h
  obtain ⟨descriptor, hdescriptor, h⟩ := exists_of_bind_eq_ok h
  split at h
  · rename_i hrole
    use descriptor, hdescriptor, hrole
    rw [exchange_name_of_route h, exchangeName, hrole]
  · contradiction

end Naming

end AmqpBus

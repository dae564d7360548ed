import AmqpBus.Proofs.Naming.ErrorExchange
import AmqpBus.Proofs.Ticks

/-!
# Precedence

Each attribute of a route has sources, from the call down to a default.  The first one that
says something decides, and what stands below it does not matter.  Some defaults are made
from other attributes of the route: the routing key from the name of the exchange, and the
consumer tag from the name of the queue.
-/

namespace AmqpBus

/-! ### Sources in order -/

section Sources

variable {β : Type}

/-- The first source in a list that says something says this. -/
inductive Decides : List (Option β) → β → Prop
  | first (value : β) (rest : List (Option β)) : Decides (some value :: rest) value
  | silent {rest : List (Option β)} {value : β} (h : Decides rest value) :
    Decides (none :: rest) value

/-- Two lists of sources agree down to the first source that says something. -/
inductive AgreeAbove : List (Option β) → List (Option β) → Prop
  | first (value : β) (rest rest' : List (Option β)) :
    AgreeAbove (some value :: rest) (some value :: rest')
  | silent {rest rest' : List (Option β)} (h : AgreeAbove rest rest') :
    AgreeAbove (none :: rest) (none :: rest')

/-- A source that says nothing leaves it to those below. -/
theorem Decides.getD {rest : List (Option β)} {value : β} (source : Option β)
    (h : Decides rest value) :
  Decides (source :: rest) (source.getD value)
  := by
  cases source with
  | none => apply Decides.silent h
  | some given => apply Decides.first

theorem Decides.default (value : β) :
  Decides [some value] value
  := .first value []

/-- What stands below the first source that says something does not matter. -/
theorem AgreeAbove.eq {sources sources' : List (Option β)} {value value' : β}
    (h : AgreeAbove sources sources') (hvalue : Decides sources value)
    (hvalue' : Decides sources' value') :
  value' = value
  := by
  induction h with
  | first given rest rest' =>
      cases hvalue
      cases hvalue'
      rfl
  | silent h ih =>
      cases hvalue with
      | silent hvalue =>
          cases hvalue' with
          | silent hvalue' => apply ih hvalue hvalue'

end Sources

namespace Naming

variable {β : Type} {naming : Naming} {descriptor : Descriptor} {override : Override}
  {route : Route}

/-! ### Attributes and their sources -/

/-- The attributes of a route that several sources can give. -/
inductive Attribute : Type → Type
  | exchangeName : Attribute String
  | routingKey : Attribute String
  | kind : Attribute ExchangeKind
  | durable : Attribute Bool
  | autoDelete : Attribute Bool
  | prefetch : Attribute UInt16
  | consumerTag : Attribute String
  | autoAck : Attribute Bool

namespace Attribute

/-- The value of an attribute in a route. -/
def value : Attribute β → Route → β
  | exchangeName, route => route.exchange.name
  | routingKey, route => route.routingKey
  | kind, route => route.exchange.kind
  | durable, route => route.exchange.durable
  | autoDelete, route => route.exchange.autoDelete
  | prefetch, route => route.consumer.prefetch
  | consumerTag, route => route.consumer.tag
  | autoAck, route => route.consumer.autoAck

/-- The sources of an attribute in order.  The last of them always says something, and it may
look at other attributes of the route. -/
def sources (naming : Naming) (descriptor : Descriptor) (override : Override) (route : Route) :
    Attribute β → List (Option β)
  | exchangeName =>
    [override.exchange.name, descriptor.exchangeName,
      if naming.options.exchangeName = "" then none else some naming.options.exchangeName,
      some (Text.slug descriptor.space)]
  | routingKey =>
    [override.exchange.routingKey, descriptor.routingKey,
      (naming.options.convention? descriptor.fullName).bind (·.routingKey),
      some (route.exchange.name ++ "." ++ Text.slug descriptor.name)]
  | kind => [override.exchange.kind, descriptor.exchangeKind, some .topic]
  | durable => [override.exchange.durable, descriptor.durable, some false]
  | autoDelete => [override.exchange.autoDelete, descriptor.autoDelete, some false]
  | prefetch => [override.queue.prefetch, some naming.options.prefetch]
  | consumerTag => [override.queue.consumerTag, some route.queue.name]
  | autoAck => [override.queue.autoAck, some false]

end Attribute

/-! ### Which source decides -/

theorem decides_defaultExchange (naming : Naming) (descriptor : Descriptor) :
  Decides
    [if naming.options.exchangeName = "" then none else some naming.options.exchangeName,
      some (Text.slug descriptor.space)]
    (naming.defaultExchange descriptor)
  := by
  rw [defaultExchange_eq]
  split
  · apply Decides.silent (.default _)
  · apply Decides.first

/-- The first source of an attribute that says something decides its value. -/
theorem decides_of_route (part : Attribute β) (hrole : descriptor.role ≠ .reject)
    (h : naming.route descriptor override = .ok route) :
  Decides (part.sources naming descriptor override route) (part.value route)
  := by
  have hconsumer := consumer_of_route h
  cases part with
  | exchangeName =>
      rw [Attribute.value, exchange_name_of_route h, exchangeName_of_ne_reject hrole]
      apply Decides.getD _ (.getD _ (decides_defaultExchange naming descriptor))
  | routingKey =>
      obtain ⟨-, -, hkey, -⟩ := parts_of_route h
      rw [Attribute.value, hkey, Option.getD_or, Option.getD_or, ← exchange_name_of_route h]
      apply Decides.getD _ (.getD _ (.getD _ (.default _)))
  | kind =>
      rw [Attribute.value, exchange_of_route h, kind_exchange, Option.getD_or]
      apply Decides.getD _ (.getD _ (.default _))
  | durable =>
      rw [Attribute.value, durable_of_route h, Option.getD_or]
      apply Decides.getD _ (.getD _ (.default _))
  | autoDelete =>
      rw [Attribute.value, exchange_of_route h, autoDelete_exchange, Option.getD_or]
      apply Decides.getD _ (.getD _ (.default _))
  | prefetch =>
      rw [Attribute.value, hconsumer]
      apply Decides.getD _ (.default _)
  | consumerTag =>
      rw [Attribute.value, hconsumer]
      apply Decides.getD _ (.default _)
  | autoAck =>
      rw [Attribute.value, hconsumer]
      apply Decides.getD _ (.default _)

/-- The first source decides.  Let a type that is no reject event have a route.  Then each
attribute is what its first source says that says something; and whatever else there is, in
the settings, the registration and the call, every other route has the same attribute as long
as its sources agree down to that one.  The queue is as durable as the exchange and deleted
with it.  Its arguments are those of the call, and so are the arguments of the exchange, but
for the kind of routing that a delayed exchange falls back to. -/
theorem first_source_decides (hrole : descriptor.role ≠ .reject)
    (h : naming.route descriptor override = .ok route) :
  (∀ {β : Type} (part : Attribute β),
      Decides (part.sources naming descriptor override route) (part.value route)
        ∧ ∀ naming' descriptor' override' route', descriptor'.role ≠ .reject →
          naming'.route descriptor' override' = .ok route' →
          AgreeAbove (part.sources naming descriptor override route)
            (part.sources naming' descriptor' override' route') →
          part.value route' = part.value route)
    ∧ route.queue.durable = route.exchange.durable
    ∧ route.queue.autoDelete = route.exchange.autoDelete
    ∧ route.queue.arguments = override.queue.arguments
    ∧ ∀ name, route.exchange.arguments.get? name
      = (override.exchange.arguments.get? name).or
        (if route.exchange.kind = .delayed ∧ name = delayedTypeArgument
          then some (.longString "topic") else none)
  := by
  have hqueue := queue_of_route h
  refine ⟨?_, ?_, ?_, ?_, ?_⟩
  · intro β part
    have hdecides := decides_of_route part hrole h
    use hdecides
    intro naming' descriptor' override' route' hrole' h' hagree
    apply hagree.eq hdecides (decides_of_route part hrole' h')
  · rw [hqueue]
  · rw [hqueue]
  · rw [hqueue]
  · intro name
    rw [exchange_of_route h]
    apply get?_arguments_exchange

/-- The registration of ticks, which says nothing but what they are. -/
def bareTick : Descriptor :=
  { space := "clock", name := "Tick", role := .event }

/-- A call that has ticks held back by an exchange of its own. -/
def lateTicks : Override where
  exchange := { name := some "late", kind := some .delayed }

/-- The exchange that a call names for ticks stays the same where the settings name another
one.  It routes as a topic exchange. -/
theorem first_source_decides_ticks :
  ∃ route route', clockNaming.route bareTick lateTicks = .ok route
    ∧ Naming.route { clockNaming with options := { exchangeName := "night" } } bareTick lateTicks
      = .ok route'
    ∧ route'.exchange.name = route.exchange.name
    ∧ route.exchange.arguments.get? delayedTypeArgument = some (.longString "topic")
  := by
  have hrole : bareTick.role ≠ .reject := by decide
  obtain ⟨route, hroute, hkind⟩ : ∃ route, clockNaming.route bareTick lateTicks = .ok route
      ∧ route.exchange.kind = .delayed := ⟨_, rfl, rfl⟩
  obtain ⟨route', hroute'⟩ : ∃ route', Naming.route
      { clockNaming with options := { exchangeName := "night" } } bareTick lateTicks = .ok route' :=
    ⟨_, rfl⟩
  obtain ⟨hdecides, -, -, -, harguments⟩ := first_source_decides hrole hroute
  obtain ⟨-, hsame⟩ := hdecides .exchangeName
  use route, route', hroute, hroute'
  constructor
  · apply hsame _ _ _ route' hrole hroute'
    apply AgreeAbove.first
  · rw [harguments delayedTypeArgument, hkind]
    rfl

end Naming

end AmqpBus

import AmqpBus.Proofs.Naming.ErrorExchange
import AmqpBus.Proofs.Naming.QueueNames
import AmqpBus.Proofs.Subscription

/-!
# Namesakes

A type that is given no names gets a queue that is named after its exchange and the slug of
its own name.  Full names tell types apart, but this much of them does not always: namesakes
share their queue, with its companions.  All other types have no queue in common.
-/

namespace AmqpBus

namespace Queue

/-- The names of a queue and of its companions. -/
def names (queue : Queue) : List String :=
  queue.name :: ((queue.retry.map (·.1)).toList ++ queue.deadLetters.toList)

/-- What the name of a queue is followed by in its own name and in those of its companions. -/
def suffixes : List String := ["", "-retry", "-dlq"]

/-- The names where messages wait in a retry queue for another attempt. -/
theorem names_withCompanions_requeue (queue : Queue) {strategy : RetryStrategy}
    (h : strategy.place = .requeue) :
  (queue.withCompanions strategy).names = suffixes.map (queue.name ++ ·)
  := by
  simp [names, name_withCompanions, retry_withCompanions queue strategy h,
    deadLetters_withCompanions, suffixes]

theorem exists_suffix {queue : Queue} {strategy : RetryStrategy} {name : String}
    (hretry : queue.retry = none) (h : name ∈ (queue.withCompanions strategy).names) :
  ∃ suffix ∈ suffixes, name = queue.name ++ suffix
  := by
  cases hplace : strategy.place with
  | inProcess =>
      rw [withCompanions, hplace] at h
      obtain rfl | rfl : name = queue.name ∨ name = queue.name ++ "-dlq" := by
        simpa [names, withDeadLetters, hretry] using h
      · use "", by decide, String.append_empty.symm
      · use "-dlq", by decide
  | requeue =>
      rw [names_withCompanions_requeue queue hplace] at h
      obtain ⟨suffix, hsuffix, rfl⟩ := List.mem_map.mp h
      use suffix, hsuffix

end Queue

namespace Naming

variable {naming : Naming} {descriptor one other : Descriptor} {route route' : Route}
  {type : MessageType}

/-- Two types that agree in all that their queues are named after. -/
structure Namesakes (naming : Naming) (one other : Descriptor) : Prop where
  name : Text.slug one.name = Text.slug other.name
  reject : one.role = .reject ↔ other.role = .reject
  space : naming.options.exchangeName = "" → Text.slug one.space = Text.slug other.space

/-- The name of a queue or of a companion tells the exchange and the slug that it was put
together from. -/
theorem suffixed_inj {exchange exchange' name name' suffix suffix' : String}
    (hsuffix : suffix ∈ Queue.suffixes) (hsuffix' : suffix' ∈ Queue.suffixes)
    (h : exchange ++ "." ++ Text.slug name ++ suffix
      = exchange' ++ "." ++ Text.slug name' ++ suffix') :
  exchange = exchange' ∧ Text.slug name = Text.slug name'
  := by
  have hdot : ∀ suffix ∈ Queue.suffixes, '.' ∉ suffix.toList := by decide
  have hdot' : ∀ (name : String), ∀ suffix ∈ Queue.suffixes,
      '.' ∉ (Text.slug name ++ suffix).toList := by
    intro name suffix hsuffix
    rw [String.toList_append, List.mem_append]
    rintro (hslug | hmem)
    · apply Text.dot_notMem_slug name hslug
    · apply hdot suffix hsuffix hmem
  have hhyphen : ∀ suffix ∈ Queue.suffixes, ∀ c ∈ suffix.toList.head?, c = '-' := by
    simp [Queue.suffixes]
  -- the last dot tells the exchange, and what follows it is told apart by the first hyphen
  rw [String.append_assoc, @String.append_assoc _ _ suffix'] at h
  obtain ⟨hexchange, hname⟩ :=
    (Text.dotted_inj (hdot' name suffix hsuffix) (hdot' name' suffix' hsuffix')).mp h
  use hexchange
  rw [← String.toList_inj, String.toList_append, String.toList_append] at hname
  rw [← String.toList_inj]
  apply (Text.append_inj_of_notMem (Text.hyphen_notMem_slug name) (Text.hyphen_notMem_slug name')
    (hhyphen suffix hsuffix) (hhyphen suffix' hsuffix') hname).1

/-! ### Queues of types that are given no names -/

/-- Types that are given no exchange share theirs if both or neither are reject events and, in
case their namespaces name it, these have the same slug. -/
theorem exchangeName_eq_iff (hone : one.exchangeName = none) (hother : other.exchangeName = none) :
  naming.exchangeName one {} = naming.exchangeName other {}
    ↔ (one.role = .reject ↔ other.role = .reject)
      ∧ (naming.options.exchangeName = "" → Text.slug one.space = Text.slug other.space)
  := by
  have hdefault : naming.defaultExchange one = naming.defaultExchange other
      ↔ (naming.options.exchangeName = "" → Text.slug one.space = Text.slug other.space) := by
    rw [defaultExchange_eq, defaultExchange_eq]
    split <;> simp [*]
  -- a reject event and another type never share an exchange, whatever the rest is
  by_cases hreject : one.role = .reject <;> by_cases hreject' : other.role = .reject
  · rw [exchangeName_of_reject hreject, exchangeName_of_reject hreject', errorExchange,
      errorExchange, String.append_left_inj, hdefault]
    simp [hreject, hreject']
  · rw [exchangeName_of_reject hreject, exchangeName_of_unnamed hreject' rfl hother]
    simp [hreject, hreject', errorExchange_ne_defaultExchange]
  · rw [exchangeName_of_unnamed hreject rfl hone, exchangeName_of_reject hreject']
    simp [hreject, hreject', (errorExchange_ne_defaultExchange _ _ _).symm]
  · rw [exchangeName_of_unnamed hreject rfl hone, exchangeName_of_unnamed hreject' rfl hother,
      hdefault]
    simp [hreject, hreject']

/-- Namesakes share their exchange and the slug of their own names. -/
theorem namesakes_iff (hone : one.exchangeName = none) (hother : other.exchangeName = none) :
  naming.Namesakes one other
    ↔ naming.exchangeName one {} = naming.exchangeName other {}
      ∧ Text.slug one.name = Text.slug other.name
  := by
  rw [exchangeName_eq_iff hone hother]
  constructor
  · rintro ⟨hname, hreject, hspace⟩
    exact ⟨⟨hreject, hspace⟩, hname⟩
  · rintro ⟨⟨hreject, hspace⟩, hname⟩
    exact ⟨hname, hreject, hspace⟩

section

variable (hconventions : naming.options.conventions = [])
include hconventions

/-- The queue of a type that is given no names has the standard one, and no retry queue yet. -/
theorem queue_of_unnamed (hname : descriptor.queueName = none)
    (h : naming.route descriptor {} = .ok route) :
  route.queue.name = naming.exchangeName descriptor {} ++ "." ++ Text.slug descriptor.name
    ∧ route.queue.retry = none
  := by
  have hconvention : naming.options.convention? descriptor.fullName = none := by
    rw [Options.convention?, hconventions]
    rfl
  constructor
  · obtain ⟨base, hbase, hplain, -⟩ := exists_queueBase h
    rw [hplain rfl]
    cases hbase with
    | given hgiven => simp [queueSources, hname] at hgiven
    | convention _ hgiven =>
        rw [hconvention] at hgiven
        contradiction
    | standard _ _ => rfl
  · rw [queue_of_route h]

/-- Types that are given no names share a queue exactly if they are namesakes. -/
theorem exists_shared_iff (hone : one.exchangeName = none) (hone' : one.queueName = none)
    (hother : other.exchangeName = none) (hother' : other.queueName = none)
    (hroute : naming.route one {} = .ok route) (hroute' : naming.route other {} = .ok route')
    (strategy strategy' : RetryStrategy) :
  (∃ name ∈ (route.queue.withCompanions strategy).names,
      name ∈ (route'.queue.withCompanions strategy').names)
    ↔ naming.Namesakes one other
  := by
  obtain ⟨hqueue, hretry⟩ := queue_of_unnamed hconventions hone' hroute
  obtain ⟨hqueue', hretry'⟩ := queue_of_unnamed hconventions hother' hroute'
  rw [namesakes_iff hone hother]
  constructor
  · rintro ⟨name, hname, hname'⟩
    obtain ⟨suffix, hsuffix, rfl⟩ := Queue.exists_suffix hretry hname
    obtain ⟨suffix', hsuffix', hsame⟩ := Queue.exists_suffix hretry' hname'
    rw [hqueue, hqueue'] at hsame
    apply suffixed_inj hsuffix hsuffix' hsame
  · rintro ⟨hexchange, hslug⟩
    use route.queue.name
    have hsame : route.queue.name = route'.queue.name := by
      rw [hqueue, hqueue', hexchange, hslug]
    constructor
    · rw [Queue.names, Queue.name_withCompanions]
      apply List.mem_cons_self
    · rw [Queue.names, Queue.name_withCompanions, hsame]
      apply List.mem_cons_self

end

/-- Full names tell types apart, but no more than that is said of their queues: two types of
which neither the registration nor a convention names an exchange or a queue have queues in
common, companions included, exactly if they are namesakes.  Then they share all of them. -/
theorem queues_disjoint_iff_not_namesakes (naming : Naming)
    (hconventions : naming.options.conventions = [])
    (hunnamed : ∀ registration ∈ naming.registry.registrations,
      registration.descriptor.exchangeName = none ∧ registration.descriptor.routingKey = none
        ∧ registration.descriptor.queueName = none)
    {type type' : MessageType}
    (hone : naming.registry.descriptor type = .ok one)
    (hother : naming.registry.descriptor type' = .ok other) :
  ∃ route route', naming.resolve type {} = .ok route
    ∧ naming.resolve type' {} = .ok route'
    ∧ (route.queue.name = route'.queue.name ↔ naming.Namesakes one other)
    ∧ ∀ strategy strategy', List.Disjoint (route.queue.withCompanions strategy).names
        (route'.queue.withCompanions strategy').names
      ↔ ¬naming.Namesakes one other
  := by
  obtain ⟨hexchange, -, hqueue⟩ := hunnamed _ (Registry.mem_of_descriptor hone)
  obtain ⟨hexchange', -, hqueue'⟩ := hunnamed _ (Registry.mem_of_descriptor hother)
  obtain ⟨route, hroute⟩ : ∃ route, naming.route one {} = .ok route :=
    exists_route (not_disagree_of_silent one)
  obtain ⟨route', hroute'⟩ : ∃ route, naming.route other {} = .ok route :=
    exists_route (not_disagree_of_silent other)
  use route, route'
  rw [resolve_eq_route hone, resolve_eq_route hother]
  refine ⟨hroute, hroute', ?_, ?_⟩
  · rw [(queue_of_unnamed hconventions hqueue hroute).1,
      (queue_of_unnamed hconventions hqueue' hroute').1,
      Text.dotted_inj (Text.dot_notMem_slug _) (Text.dot_notMem_slug _),
      namesakes_iff hexchange hexchange']
  · intro strategy strategy'
    rw [← exists_shared_iff hconventions hexchange hqueue hexchange' hqueue' hroute hroute'
      strategy strategy', List.Disjoint]
    simp only [not_exists, not_and]

/-- The types of a shop with two departments. -/
def shopTypes : List Registration :=
  [⟨"billing::PlaceOrder", { space := "Billing", name := "PlaceOrder", role := .command }⟩,
    ⟨"sales::PlaceOrder", { space := "Sales", name := "PlaceOrder", role := .command }⟩,
    ⟨"sales::OrderPlaced", { space := "Sales", name := "OrderPlaced", role := .event }⟩]

/-- A bus with one exchange for the departments of a shop. -/
def shopNaming : Naming where
  options := { exchangeName := "shop" }
  registry := ⟨shopTypes, by decide, by decide⟩

theorem shopTypes_unnamed :
  ∀ registration ∈ shopNaming.registry.registrations,
    registration.descriptor.exchangeName = none ∧ registration.descriptor.routingKey = none
      ∧ registration.descriptor.queueName = none
  := by
  decide

/-- An order and the event that tells of it have no queue in common, wherever their messages
wait for another attempt. -/
theorem queues_disjoint_iff_not_namesakes_orders :
  ∃ route route', shopNaming.resolve "sales::PlaceOrder" {} = .ok route
    ∧ shopNaming.resolve "sales::OrderPlaced" {} = .ok route'
    ∧ (route.queue.withCompanions ⟨.requeue, 3, .ofSeconds 2⟩).names
      = ["shop.place_order", "shop.place_order-retry", "shop.place_order-dlq"]
    ∧ ∀ strategy strategy', List.Disjoint (route.queue.withCompanions strategy).names
      (route'.queue.withCompanions strategy').names
  := by
  have hplace : shopNaming.registry.descriptor "sales::PlaceOrder"
      = .ok { space := "Sales", name := "PlaceOrder", role := .command } := rfl
  have hplaced : shopNaming.registry.descriptor "sales::OrderPlaced"
      = .ok { space := "Sales", name := "OrderPlaced", role := .event } := rfl
  obtain ⟨route, route', hroute, hroute', -, hdisjoint⟩ :=
    queues_disjoint_iff_not_namesakes shopNaming rfl shopTypes_unnamed hplace hplaced
  refine ⟨route, route', hroute, hroute', ?_, ?_⟩
  · rw [← Except.ok.inj hroute]
    decide
  · intro strategy strategy'
    apply (hdisjoint strategy strategy').mpr
    rintro ⟨hname, -, -⟩
    revert hname
    decide

/-- The orders to the departments share their queue, although they are different types, the
registry accepts them and nothing names their queues. -/
theorem orders_share_queue :
  Registry.ofList shopTypes = .ok shopNaming.registry
    ∧ shopNaming.options.conventions = []
    ∧ (∀ registration ∈ shopNaming.registry.registrations,
      registration.descriptor.exchangeName = none ∧ registration.descriptor.routingKey = none
        ∧ registration.descriptor.queueName = none)
    ∧ "billing::PlaceOrder" ≠ "sales::PlaceOrder"
    ∧ ∃ route route', shopNaming.resolve "billing::PlaceOrder" {} = .ok route
      ∧ shopNaming.resolve "sales::PlaceOrder" {} = .ok route'
      ∧ route.messageType ≠ route'.messageType ∧ route.queue.name = route'.queue.name
  := by
  refine ⟨by rfl, rfl, shopTypes_unnamed, by decide, _, _, rfl, rfl, ?_, ?_⟩
  · decide
  · decide

end Naming

end AmqpBus

import AmqpBus.Proofs.Registry
import AmqpBus.Proofs.Route
import AmqpBus.Proofs.Text.Slug

/-!
# The error exchange

Reject events are kept apart from all other messages.  They go to the error exchange,
whatever they are registered with and whatever a call says, and nothing else goes there
unless it is told to by name: the error exchange is named with a dot, and no slug has one.
-/

namespace AmqpBus.Naming

variable {naming : Naming} {descriptor : Descriptor} {override : Override} {route : Route}
  {type : MessageType}

theorem defaultExchange_eq (naming : Naming) (descriptor : Descriptor) :
  naming.defaultExchange descriptor
    = if naming.options.exchangeName = "" then Text.slug descriptor.space
      else naming.options.exchangeName
  := by
  simp only [defaultExchange, String.isEmpty_iff]

/-- The error exchange of one type is never the default exchange of another. -/
theorem errorExchange_ne_defaultExchange (naming : Naming) (rejected descriptor : Descriptor) :
  naming.errorExchange rejected ≠ naming.defaultExchange descriptor
  := by
  intro h
  rw [errorExchange, defaultExchange_eq, defaultExchange_eq] at h
  split at h
  · apply Text.dot_notMem_slug descriptor.space
    rw [← h, String.toList_append]
    apply List.mem_append_right
    decide
  · have hsame : ".error" = "" := by
      rw [← String.append_right_inj naming.options.exchangeName, String.append_empty]
      apply h
    contradiction

theorem exchangeName_of_reject (h : descriptor.role = .reject) (override : Override) :
  naming.exchangeName descriptor override = naming.errorExchange descriptor
  := by
  rw [exchangeName, h]

theorem exchangeName_of_ne_reject (h : descriptor.role ≠ .reject) (override : Override) :
  naming.exchangeName descriptor override
    = override.exchange.name.getD
      (descriptor.exchangeName.getD (naming.defaultExchange descriptor))
  := by
  rw [exchangeName]
  split
  · contradiction
  · apply Option.getD_or

theorem exchangeName_of_unnamed (hrole : descriptor.role ≠ .reject)
    (hname : override.exchange.name = none) (hname' : descriptor.exchangeName = none) :
  naming.exchangeName descriptor override = naming.defaultExchange descriptor
  := by
  rw [exchangeName_of_ne_reject hrole, hname, hname']
  rfl

/-- A type can be published as a reject event exactly if it is registered as one.  A queue
name never stands in the way. -/
theorem resolveRejection_cases (naming : Naming) (type : MessageType) :
  ((∀ descriptor, naming.registry.descriptor type ≠ .ok descriptor)
      ∧ naming.resolveRejection type = .error (.unregistered type.typeName))
    ∨ (∃ descriptor, naming.registry.descriptor type = .ok descriptor
      ∧ descriptor.role ≠ .reject
      ∧ naming.resolveRejection type = .error (.configuration (.notReject descriptor.fullName)))
    ∨ ∃ descriptor route, naming.registry.descriptor type = .ok descriptor
      ∧ descriptor.role = .reject ∧ naming.resolveRejection type = .ok route
  := by
  by_cases hregistered : ∃ descriptor, naming.registry.descriptor type = .ok descriptor
  · right
    obtain ⟨descriptor, hdescriptor⟩ := hregistered
    by_cases hrole : descriptor.role = .reject
    · right
      obtain ⟨route, hroute⟩ : ∃ route, naming.route descriptor {} = .ok route :=
        exists_route (not_disagree_of_silent descriptor)
      use descriptor, route, hdescriptor, hrole
      rw [resolveRejection_of_reject hdescriptor hrole, hroute]
    · left
      use descriptor, hdescriptor, hrole, resolveRejection_of_ne_reject hdescriptor hrole
  · left
    simp only [not_exists] at hregistered
    use hregistered
    apply resolveRejection_of_unregistered (Registry.descriptor_of_unregistered hregistered)

/-- Reject events are kept apart from all other messages.  They go to the error exchange of
their type, unless the names disagree that are given for their queue.  No other type goes to
the error exchange of any type, unless the registration or the call names its exchange.  And
exactly the types that are registered as reject events can be published as such. -/
theorem reject_events_kept_apart (naming : Naming) :
  (∀ type rejected override, naming.registry.descriptor type = .ok rejected →
      rejected.role = .reject →
      naming.errorExchange rejected
          = (if naming.options.exchangeName = "" then Text.slug rejected.space
            else naming.options.exchangeName) ++ ".error"
        ∧ ((∃ first second, Disagree (queueNames rejected override) first second
            ∧ naming.resolve type override
              = .error (.conflictingQueues rejected.fullName first second))
          ∨ ∃ route, naming.resolve type override = .ok route
            ∧ route.exchange.name = naming.errorExchange rejected))
    ∧ (∀ type descriptor override route rejected,
      naming.registry.descriptor type = .ok descriptor → descriptor.role ≠ .reject →
      descriptor.exchangeName = none → override.exchange.name = none →
      naming.resolve type override = .ok route →
      route.exchange.name ≠ naming.errorExchange rejected)
    ∧ ∀ type,
      ((∃ route, naming.resolveRejection type = .ok route) ↔
        ∃ rejected, naming.registry.descriptor type = .ok rejected ∧ rejected.role = .reject)
      ∧ ∀ error, naming.resolveRejection type = .error error →
        ((∀ descriptor, naming.registry.descriptor type ≠ .ok descriptor)
          ∧ error = .unregistered type.typeName)
        ∨ ∃ descriptor, naming.registry.descriptor type = .ok descriptor
          ∧ descriptor.role ≠ .reject ∧ error = .configuration (.notReject descriptor.fullName)
  := by
  refine ⟨?_, ?_, ?_⟩
  · intro type rejected override hrejected hrole
    rw [errorExchange, defaultExchange_eq]
    use rfl
    obtain hdisagree | ⟨route, hresolve, hroute⟩ := resolve_cases hrejected override
    · left
      apply hdisagree
    · right
      use route, hresolve
      rw [exchange_name_of_route hroute, exchangeName_of_reject hrole, errorExchange,
        defaultExchange_eq]
  · intro type descriptor override route rejected hdescriptor hrole hname hoverride hresolve
    rw [resolve_eq_route hdescriptor] at hresolve
    rw [exchange_name_of_route hresolve, exchangeName_of_unnamed hrole hoverride hname]
    symm
    apply errorExchange_ne_defaultExchange
  · intro type
    obtain ⟨hnone, herror⟩ | ⟨descriptor, hdescriptor, hrole, herror⟩
      | ⟨rejected, route, hrejected, hrole, hroute⟩ := naming.resolveRejection_cases type
    · simp [herror, hnone]
    · simp [herror, hdescriptor, hrole]
    · simp [hroute, hrejected, hrole]

/-- A bus without an exchange of its own.  Its reject event is registered with one. -/
def towerNaming : Naming where
  options := {}
  registry :=
    { registrations :=
        [⟨"clock::Tick", { space := "Clock.Tower", name := "Tick", role := .event }⟩,
          ⟨"clock::TickMissed",
            { space := "Clock.Tower", name := "TickMissed", role := .reject
              exchangeName := some "bells" }⟩]
      nodup_types := by decide
      nodup_names := by decide }

/-- A tick and its reject event go to two exchanges that are named after their namespace. -/
theorem reject_events_kept_apart_towerTicks :
  (∃ route, towerNaming.resolve "clock::TickMissed" { exchange := { name := some "bells" } }
      = .ok route ∧ route.exchange.name = "clock_tower.error")
    ∧ (∃ route, towerNaming.resolve "clock::Tick" {} = .ok route
      ∧ route.exchange.name = "clock_tower" ∧ route.exchange.name ≠ "clock_tower.error")
    ∧ ¬∃ route, towerNaming.resolveRejection "clock::Tick" = .ok route
  := by
  obtain ⟨hreject, hother, hrejection⟩ := reject_events_kept_apart towerNaming
  refine ⟨?_, ?_, ?_⟩
  · obtain ⟨herror, ⟨_, _, _, hdisagree⟩ | ⟨route, hroute, hexchange⟩⟩ :=
      hreject "clock::TickMissed" _ { exchange := { name := some "bells" } } rfl rfl
    · contradiction
    · use route, hroute
      rw [hexchange, herror]
      decide
  · obtain ⟨route, hroute⟩ : ∃ route, towerNaming.resolve "clock::Tick" {} = .ok route := ⟨_, rfl⟩
    use route, hroute
    constructor
    · obtain rfl := Except.ok.inj hroute
      decide
    · apply hother "clock::Tick" _ _ _
        { space := "Clock.Tower", name := "TickMissed", role := .reject } rfl (by decide) rfl rfl
        hroute
  · intro hroute
    obtain ⟨rejected, hrejected, hrole⟩ := (hrejection "clock::Tick").1.mp hroute
    obtain rfl := Except.ok.inj hrejected
    contradiction

end AmqpBus.Naming

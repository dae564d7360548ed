import AmqpBus.Proofs.Route
import AmqpBus.Subscription.Basic

/-!
# Routes of subscriptions

The route of a subscription is the one of its type with companions for its queue.  There is
always a queue for dead letters, and a retry queue where the broker is to bring messages
again, which it only can if it does not count them as handled.
-/

namespace AmqpBus

namespace Queue

variable (queue : Queue) (strategy : RetryStrategy)

theorem name_withCompanions :
  (queue.withCompanions strategy).name = queue.name
  := by
  rw [withCompanions]
  split <;> rfl

theorem deadLetters_withCompanions :
  (queue.withCompanions strategy).deadLetters = some (queue.name ++ "-dlq")
  := by
  rw [withCompanions]
  split <;> rfl

theorem retry_withCompanions (h : strategy.place = .requeue) :
  (queue.withCompanions strategy).retry
    = some (queue.name ++ "-retry", retryTtl strategy.interval)
  := by
  rw [withCompanions, h]
  rfl

end Queue

namespace Processing

variable {D α : Type} {processing : Processing D α} {override : Override} {route : Route}

/-- The route of a subscription is the one of its type with companions for its queue. -/
theorem exists_of_route (h : processing.route override = .ok route) :
  ∃ plain, processing.naming.resolve processing.format.type override = .ok plain
    ∧ ¬(plain.consumer.autoAck ∧ processing.strategy.place = .requeue)
    ∧ route = { plain with queue := plain.queue.withCompanions processing.strategy }
  := by
  rw [Processing.route] at h
  obtain ⟨plain, hplain, h⟩ := exists_of_bind_eq_ok h
  use plain, hplain
  split at h
  · contradiction
  · rename_i hauto
    exact ⟨hauto, (Except.ok.inj h).symm⟩

/-- A subscription is to messages of the full name of its type. -/
theorem messageType_of_route (h : processing.route override = .ok route) :
  ∃ descriptor, processing.naming.registry.descriptor processing.format.type = .ok descriptor
    ∧ route.messageType = descriptor.fullName
  := by
  obtain ⟨plain, hplain, -, rfl⟩ := exists_of_route h
  apply Naming.messageType_of_resolve hplain

/-- There is always a queue for dead letters. -/
theorem deadLetters_of_route (h : processing.route override = .ok route) :
  route.queue.deadLetters = some (route.queue.name ++ "-dlq")
  := by
  obtain ⟨plain, -, -, rfl⟩ := exists_of_route h
  rw [Queue.name_withCompanions]
  apply Queue.deadLetters_withCompanions

/-- Where the broker brings messages again, there is a retry queue. -/
theorem retry_of_route (h : processing.route override = .ok route)
    (hplace : processing.strategy.place = .requeue) :
  route.queue.retry
    = some (route.queue.name ++ "-retry", Queue.retryTtl processing.strategy.interval)
  := by
  obtain ⟨plain, -, -, rfl⟩ := exists_of_route h
  rw [Queue.name_withCompanions]
  apply Queue.retry_withCompanions _ _ hplace

/-- The broker brings no message again that it counts as handled. -/
theorem autoAck_of_route (h : processing.route override = .ok route)
    (hplace : processing.strategy.place = .requeue) :
  route.consumer.autoAck = false
  := by
  obtain ⟨plain, -, hauto, rfl⟩ := exists_of_route h
  apply Bool.eq_false_iff.mpr
  intro htrue
  apply hauto ⟨htrue, hplace⟩

end Processing

end AmqpBus

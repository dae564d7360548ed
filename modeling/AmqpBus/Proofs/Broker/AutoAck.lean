import AmqpBus.Proofs.Broker.Settlement

/-!
# Deliveries that count as handled

Where the broker counts messages as handled once they are sent, nothing is left to settle.
A delivery of the type of its subscription is then handed to the handler, and the broker is
asked for nothing, whatever the answer is.  A delivery of another type is not treated so:
the broker is asked to remove it, as it is where answers settle deliveries.
-/

namespace AmqpBus.Broker

namespace Delivery

variable {delivery : Delivery} {deeds : List Deed} {consumed : Consumed} {route : Route}

/-- Whatever the answer is, it is only noted. -/
theorem does_passOver {answer : Except BusError Acknowledgement} {span : Span}
    (h : Does (passOver answer span) deeds consumed) :
  deeds = [] ∧ consumed.1 = .ok ()
  := by
  unfold passOver at h
  split at h
  · obtain ⟨rfl, rfl⟩ := does_pure_iff.mp h
    constructor <;> rfl
  · simp only [does_bind_iff, does_warn_iff, does_pure_iff] at h
    obtain ⟨_, _, _, rfl, ⟨rfl, rfl⟩, rfl⟩ := h
    constructor <;> rfl
  · obtain ⟨rfl, rfl⟩ := does_complaint_iff.mp h
    constructor <;> rfl

/-- A delivery of the type of the subscription is handed to the handler. -/
theorem deeds_of_consume_own (hauto : route.consumer.autoAck = true)
    (htype : delivery.messageType route = route.messageType)
    (h : Does (delivery.consume route) deeds consumed) :
  consumed.1 = .ok ()
    ∧ ∃ fresh now delivered answer,
      deeds = [.handle (delivery.message route fresh now delivered) answer]
  := by
  obtain ⟨fresh, now, delivered, answer, rest, _, rfl, hrest⟩ := does_consume_own htype h
  rw [hauto, if_pos rfl] at hrest
  obtain ⟨rfl, hvalue⟩ := does_passOver hrest
  exact ⟨hvalue, fresh, now, delivered, answer, rfl⟩

/-- A delivery of another type is removed without asking the handler. -/
theorem deeds_of_consume_foreign (htype : delivery.messageType route ≠ route.messageType)
    (h : Does (delivery.consume route) deeds consumed) :
  ∃ success, deeds = [.method (.ack delivery.tag false) success]
  := by
  obtain ⟨_, hsettle⟩ := does_consume_foreign htype h
  cases settles_of_settle hsettle with
  | removed success => exact ⟨success, rfl⟩
  | dropped _ hfails _ => simp [Fails] at hfails
  | kept hfails _ => simp [Fails] at hfails
  | buried _ hfails _ => simp [Fails] at hfails

/-- A subscription whose deliveries count as handled asks the broker for nothing when it
consumes a delivery of its type: whatever the message is and whatever the handler answers,
it is handed over once, nothing is settled and nothing goes to the dead letters.  Only for a
delivery of another type the broker is asked, and then to remove it. -/
theorem consume_autoAck (hauto : route.consumer.autoAck = true)
    (h : Does (delivery.consume route) deeds consumed) :
  (delivery.messageType route = route.messageType →
      consumed.1 = .ok ()
      ∧ ∃ fresh now delivered answer,
        deeds = [.handle (delivery.message route fresh now delivered) answer])
    ∧ (delivery.messageType route ≠ route.messageType →
      ∃ success, deeds = [.method (.ack delivery.tag false) success])
  := by
  constructor
  · intro htype
    apply deeds_of_consume_own hauto htype h
  · intro htype
    apply deeds_of_consume_foreign htype h

end Delivery

/-- A subscription to ticks that count as handled once they are sent. -/
def hastyRoute : Route :=
  { tickRoute with consumer := { tickRoute.consumer with autoAck := true } }

theorem consume_autoAck_tick :
  ∃ fresh now delivered answer,
    deedsOf ((tickDelivery.consume hastyRoute).history rejecting ())
      = [.handle (tickDelivery.message hastyRoute fresh now delivered) answer]
  := by
  have hcourse := Interaction.course_history rejecting (tickDelivery.consume hastyRoute) ()
  have hauto : hastyRoute.consumer.autoAck = true := rfl
  obtain ⟨hown, -⟩ := Delivery.consume_autoAck hauto ⟨_, hcourse, rfl⟩
  apply (hown rfl).2

/-- A delivery of another type to a subscription of ticks. -/
def strayDelivery : Delivery :=
  { tickDelivery with properties := { kind := some "clock.Tock" } }

/-- The broker is asked to remove a stray delivery that already counts as handled. -/
theorem ack_of_stray_delivery :
  hastyRoute.consumer.autoAck = true
    ∧ deedsOf ((strayDelivery.consume hastyRoute).history rejecting ())
      = [.method (.ack 7 false) true]
  := by
  constructor <;> rfl

end AmqpBus.Broker

import AmqpBus.Broker.Consumption
import AmqpBus.Proofs.Broker.Work
import AmqpBus.Proofs.Ticks

/-!
# Settling a delivery

The deeds of consuming a delivery whose answers settle it.  There are few: the handler is
asked at most once, and what the broker is asked then depends on the answer and on what
has failed.  A delivery is removed from its queue only when it was handled, or is of
another type, or has a copy among the dead letters.
-/

namespace AmqpBus.Broker

open Amqp (Method)

namespace Delivery

variable {delivery : Delivery} {span : Span} {deeds : List Deed} {consumed : Consumed}

/-- The method that copies a delivery to a queue. -/
def copyTo (delivery : Delivery) (target : String) : Method :=
  .publish "" target false false delivery.properties delivery.payload

/-! ### Single methods -/

theorem deeds_of_ack (h : Does (delivery.ack span) deeds consumed) :
  ∃ success, deeds = [.method (.ack delivery.tag false) success]
  := by
  obtain ⟨_, success, rest, hsend, hrest, rfl⟩ := does_bind_iff.mp h
  obtain rfl := does_send_iff.mp hsend
  obtain rfl : rest = [] := by
    cases success with
    | true => apply (does_pure_iff.mp hrest).1
    | false => apply (does_complaint_iff.mp hrest).1
  use success
  rfl

theorem deeds_of_nack {requeue : Bool} (h : Does (delivery.nack requeue span) deeds consumed) :
  ∃ success, deeds = [.method (.nack delivery.tag false requeue) success]
  := by
  obtain ⟨_, success, rest, hsend, hrest, rfl⟩ := does_bind_iff.mp h
  obtain rfl := does_send_iff.mp hsend
  obtain rfl : rest = [] := by
    cases success with
    | true => apply (does_pure_iff.mp hrest).1
    | false => apply (does_complaint_iff.mp hrest).1
  use success
  rfl

/-- A delivery that is buried is removed once its copy has been taken. -/
theorem deeds_of_bury {target : String} (h : Does (delivery.bury target span) deeds consumed) :
  deeds = [.method (delivery.copyTo target) false]
    ∨ ∃ success, deeds = [.method (delivery.copyTo target) true,
        .method (.ack delivery.tag false) success]
  := by
  simp only [bury, does_bind_iff, does_complain_iff, does_send_iff] at h
  obtain ⟨_, _, _, rfl, ⟨_, copied, rest, rfl, hrest, rfl⟩, rfl⟩ := h
  cases copied with
  | true =>
      right
      obtain ⟨success, rfl⟩ := deeds_of_ack hrest
      use success
      rfl
  | false =>
      left
      obtain ⟨rfl, -⟩ := does_complaint_iff.mp hrest
      rfl

/-! ### Answers -/

/-- An answer says that the message failed for good. -/
def Fails (answer : Except BusError Acknowledgement) : Prop :=
  answer = .ok .reject ∨ ∃ error, answer = .error error ∧ error ≠ .cancelled

/-- The deeds that settle a delivery of a queue by an answer. -/
inductive Settles (delivery : Delivery) (queue : Queue) :
    Except BusError Acknowledgement → List Deed → Prop
  | removed (success : Bool) :
      Settles delivery queue (.ok .ack) [.method (.ack delivery.tag false) success]
  | parked (delay : Time.Duration) (success : Bool) (hretry : queue.retry.isSome) :
      Settles delivery queue (.ok (.retryAfter delay))
        [.method (.nack delivery.tag false false) success]
  | returned (delay : Time.Duration) (success : Bool) (hretry : queue.retry = none) :
      Settles delivery queue (.ok (.retryAfter delay))
        [.method (.nack delivery.tag false true) success]
  | cancelled (success : Bool) :
      Settles delivery queue (.error .cancelled)
        [.method (.nack delivery.tag false true) success]
  | dropped {answer : Except BusError Acknowledgement} (success : Bool) (hfails : Fails answer)
      (htarget : queue.deadLetters = none) :
      Settles delivery queue answer [.method (.nack delivery.tag false false) success]
  | kept {answer : Except BusError Acknowledgement} {target : String} (hfails : Fails answer)
      (htarget : queue.deadLetters = some target) :
      Settles delivery queue answer [.method (delivery.copyTo target) false]
  | buried {answer : Except BusError Acknowledgement} {target : String} (success : Bool)
      (hfails : Fails answer) (htarget : queue.deadLetters = some target) :
      Settles delivery queue answer
        [.method (delivery.copyTo target) true, .method (.ack delivery.tag false) success]

variable {queue : Queue} {answer : Except BusError Acknowledgement}

theorem settles_of_settle_reject (h : Does (delivery.settle queue .reject span) deeds consumed)
    (hfails : Fails answer) :
  Settles delivery queue answer deeds
  := by
  cases htarget : queue.deadLetters with
  | none =>
      simp only [settle, htarget] at h
      obtain ⟨success, rfl⟩ := deeds_of_nack h
      apply Settles.dropped success hfails htarget
  | some target =>
      simp only [settle, htarget] at h
      obtain rfl | ⟨success, rfl⟩ := deeds_of_bury h
      · apply Settles.kept hfails htarget
      · apply Settles.buried success hfails htarget

theorem settles_of_settle {decision : Acknowledgement}
    (h : Does (delivery.settle queue decision span) deeds consumed) :
  Settles delivery queue (.ok decision) deeds
  := by
  cases decision with
  | ack =>
      obtain ⟨_, ⟨outcome, span⟩, rest, hack, hrest, rfl⟩ := does_bind_iff.mp h
      obtain ⟨success, rfl⟩ := deeds_of_ack hack
      obtain rfl : rest = [] := by
        cases outcome with
        | ok done => apply (does_pure_iff.mp hrest).1
        | error error => apply (does_pure_iff.mp hrest).1
      apply Settles.removed
  | retryAfter delay =>
      cases hretry : queue.retry with
      | some retry =>
          simp only [settle, hretry, Option.isSome_some, if_true, does_bind_iff,
            does_debug_iff] at h
          obtain ⟨_, _, _, rfl, hnack, rfl⟩ := h
          obtain ⟨success, rfl⟩ := deeds_of_nack hnack
          apply Settles.parked delay success
          rw [hretry, Option.isSome_some]
      | none =>
          have hnack : Does (delivery.nack true span) deeds consumed := by
            simp only [settle, hretry, Option.isSome_none, Bool.false_eq_true, if_false] at h
            split at h
            · simp only [does_bind_iff, does_pause_iff] at h
              obtain ⟨_, _, _, rfl, hnack, rfl⟩ := h
              apply hnack
            · apply h
          obtain ⟨success, rfl⟩ := deeds_of_nack hnack
          apply Settles.returned delay success hretry
  | reject => apply settles_of_settle_reject h (.inl rfl)

theorem settles_of_settleBy (h : Does (delivery.settleBy queue answer span) deeds consumed) :
  Settles delivery queue answer deeds
  := by
  unfold settleBy at h
  split at h
  · apply settles_of_settle h
  · simp only [does_bind_iff, does_warn_iff] at h
    obtain ⟨_, _, _, rfl, hnack, rfl⟩ := h
    obtain ⟨success, rfl⟩ := deeds_of_nack hnack
    apply Settles.cancelled
  · rename_i error herror
    simp only [does_bind_iff, does_complain_iff] at h
    obtain ⟨_, _, _, rfl, hsettle, rfl⟩ := h
    apply settles_of_settle_reject hsettle (.inr ⟨error, rfl, herror⟩)

/-- The deeds of consuming a delivery whose answers settle it. -/
inductive Consumes (delivery : Delivery) (route : Route) : List Deed → Prop
  | foreign {deeds : List Deed} (htype : delivery.messageType route ≠ route.messageType)
      (hsettles : Settles delivery route.queue (.ok .ack) deeds) : Consumes delivery route deeds
  | handled (message : Inbound) {answer : Except BusError Acknowledgement} {deeds : List Deed}
      (hsettles : Settles delivery route.queue answer deeds) :
      Consumes delivery route (.handle message answer :: deeds)

variable {route : Route}

/-- A delivery of another type is settled as one that was handled. -/
theorem does_consume_foreign (htype : delivery.messageType route ≠ route.messageType)
    (h : Does (delivery.consume route) deeds consumed) :
  ∃ span, Does (delivery.settle route.queue .ack span) deeds consumed
  := by
  simp only [consume, htype, ne_eq, not_false_eq_true, if_true, does_bind_iff, does_debug_iff,
    does_warn_iff] at h
  obtain ⟨_, _, _, rfl, ⟨_, _, _, rfl, hsettle, rfl⟩, rfl⟩ := h
  exact ⟨_, hsettle⟩

/-- A delivery of the type of the subscription is handed to the handler first, and then its
answer counts unless the broker needs none. -/
theorem does_consume_own (htype : delivery.messageType route = route.messageType)
    (h : Does (delivery.consume route) deeds consumed) :
  ∃ fresh now delivered answer rest span,
    deeds = .handle (delivery.message route fresh now delivered) answer :: rest
      ∧ Does
        (if route.consumer.autoAck then passOver answer span
          else delivery.settleBy route.queue answer span)
        rest consumed
  := by
  simp only [consume, htype, ne_eq, not_true_eq_false, if_false, does_bind_iff,
    does_debug_iff, does_newId_iff, does_now_iff, does_handle_iff] at h
  obtain ⟨_, _, _, rfl, ⟨_, fresh, _, rfl, ⟨_, now, _, rfl, ⟨_, delivered, _, rfl, hasked, rfl⟩,
    rfl⟩, rfl⟩, rfl⟩ := h
  obtain ⟨_, answer, rest, rfl, hrest, rfl⟩ := hasked
  exact ⟨fresh, now, delivered, answer, rest, _, rfl, hrest⟩

theorem consumes_of_consume (hmanual : route.consumer.autoAck = false)
    (h : Does (delivery.consume route) deeds consumed) :
  Consumes delivery route deeds
  := by
  by_cases htype : delivery.messageType route = route.messageType
  · obtain ⟨_, _, _, answer, rest, _, rfl, hrest⟩ := does_consume_own htype h
    rw [hmanual, if_neg Bool.false_ne_true] at hrest
    apply Consumes.handled _ (settles_of_settleBy hrest)
  · obtain ⟨_, hsettle⟩ := does_consume_foreign htype h
    apply Consumes.foreign htype (settles_of_settle hsettle)

/-! ### What deeds settle -/

theorem Settles.handle_notMem (h : Settles delivery queue answer deeds) (message : Inbound)
    (reply : Except BusError Acknowledgement) :
  .handle message reply ∉ deeds
  := by
  cases h <;> simp

theorem Settles.countP_asksHandler (h : Settles delivery queue answer deeds) :
  deeds.countP Deed.asksHandler = 0
  := by
  cases h <;> rfl

theorem Settles.countP_settles_le (h : Settles delivery queue answer deeds) :
  deeds.countP Deed.settles ≤ 1
  := by
  cases h <;> simp [Deed.settles, copyTo]

/-- Only the one delivery is settled. -/
theorem Settles.settles_own (h : Settles delivery queue answer deeds) {deed : Deed}
    (hdeed : deed ∈ deeds) (hsettles : deed.settles) :
  ∃ success, deed = .method (.ack delivery.tag false) success
    ∨ ∃ requeue, deed = .method (.nack delivery.tag false requeue) success
  := by
  cases h with
  | removed success =>
      obtain rfl := List.mem_singleton.mp hdeed
      use success, .inl rfl
  | parked delay success _ =>
      obtain rfl := List.mem_singleton.mp hdeed
      use success, .inr ⟨false, rfl⟩
  | returned delay success _ =>
      obtain rfl := List.mem_singleton.mp hdeed
      use success, .inr ⟨true, rfl⟩
  | cancelled success =>
      obtain rfl := List.mem_singleton.mp hdeed
      use success, .inr ⟨true, rfl⟩
  | dropped success _ _ =>
      obtain rfl := List.mem_singleton.mp hdeed
      use success, .inr ⟨false, rfl⟩
  | kept _ _ =>
      obtain rfl := List.mem_singleton.mp hdeed
      contradiction
  | buried success _ _ =>
      obtain rfl | hack := List.mem_cons.mp hdeed
      · contradiction
      · obtain rfl := List.mem_singleton.mp hack
        use success, .inl rfl

/-- A delivery is removed where the answer says so, or right after its copy was taken. -/
theorem Settles.removes (h : Settles delivery queue answer deeds) {tag : UInt64}
    {allBefore success : Bool} (hack : .method (.ack tag allBefore) success ∈ deeds) :
  answer = .ok .ack
    ∨ ∃ target, queue.deadLetters = some target
      ∧ deeds = [.method (delivery.copyTo target) true, .method (.ack tag allBefore) success]
  := by
  cases h with
  | removed _ =>
      left
      rfl
  | parked _ _ _ => simp at hack
  | returned _ _ _ => simp at hack
  | cancelled _ => simp at hack
  | dropped _ _ _ => simp at hack
  | kept _ _ => simp [copyTo] at hack
  | @buried _ target _ _ htarget =>
      right
      obtain hcopy | hack := List.mem_cons.mp hack
      · simp [copyTo] at hcopy
      · rw [List.mem_singleton.mp hack]
        use target, htarget

/-- Where a message has failed, its delivery ends among the dead letters, or with the broker,
or stays unsettled. -/
theorem Settles.of_fails (h : Settles delivery queue answer deeds) (hfails : Fails answer) :
  (∃ target success, queue.deadLetters = some target
      ∧ deeds = [.method (delivery.copyTo target) true,
          .method (.ack delivery.tag false) success])
    ∨ (∃ success, queue.deadLetters = none
      ∧ deeds = [.method (.nack delivery.tag false false) success])
    ∨ ∃ target, queue.deadLetters = some target
      ∧ deeds = [.method (delivery.copyTo target) false]
  := by
  cases h with
  | removed _ => simp [Fails] at hfails
  | parked _ _ _ => simp [Fails] at hfails
  | returned _ _ _ => simp [Fails] at hfails
  | cancelled _ => simp [Fails] at hfails
  | dropped success _ htarget =>
      right
      left
      use success, htarget
  | kept _ htarget =>
      right
      right
      exact ⟨_, htarget, rfl⟩
  | buried success _ htarget =>
      left
      exact ⟨_, success, htarget, rfl⟩

theorem Settles.of_cancelled (h : Settles delivery queue (.error .cancelled) deeds) :
  ∃ success, deeds = [.method (.nack delivery.tag false true) success]
  := by
  have hfails : ¬ Fails (.error .cancelled) := by simp [Fails]
  cases h with
  | cancelled success => use success
  | dropped _ h _ => contradiction
  | kept h _ => contradiction
  | buried _ h _ => contradiction

/-- A message that the handler was asked about comes first, and the rest is by its answer. -/
theorem Consumes.of_mem {route : Route} (h : Consumes delivery route deeds) {message : Inbound}
    (hhandle : .handle message answer ∈ deeds) :
  ∃ rest, deeds = .handle message answer :: rest
    ∧ Settles delivery route.queue answer rest
  := by
  cases h with
  | foreign _ hsettles =>
      have hnone := hsettles.handle_notMem message answer
      contradiction
  | @handled asked reply rest hsettles =>
      obtain heq | hrest := List.mem_cons.mp hhandle
      · obtain ⟨rfl, rfl⟩ := Deed.handle.inj heq
        use rest
      · have hnone := hsettles.handle_notMem message answer
        contradiction

theorem Consumes.countP_asksHandler_le {route : Route} (h : Consumes delivery route deeds) :
  deeds.countP Deed.asksHandler ≤ 1
  := by
  cases h with
  | foreign _ hsettles =>
      rw [hsettles.countP_asksHandler]
      apply Nat.zero_le
  | handled message hsettles =>
      apply Nat.le_of_eq
      rw [List.countP_cons_of_pos rfl, hsettles.countP_asksHandler]

theorem Consumes.countP_settles_le {route : Route} (h : Consumes delivery route deeds) :
  deeds.countP Deed.settles ≤ 1
  := by
  cases h with
  | foreign _ hsettles => apply hsettles.countP_settles_le
  | handled message hsettles =>
      rw [List.countP_cons_of_neg Bool.false_ne_true]
      apply hsettles.countP_settles_le

theorem Consumes.settles_own {route : Route} (h : Consumes delivery route deeds) {deed : Deed}
    (hdeed : deed ∈ deeds) (hsettle : deed.settles) :
  ∃ success, deed = .method (.ack delivery.tag false) success
    ∨ ∃ requeue, deed = .method (.nack delivery.tag false requeue) success
  := by
  cases h with
  | foreign _ hsettles => apply hsettles.settles_own hdeed hsettle
  | handled message hsettles =>
      obtain rfl | hdeed := List.mem_cons.mp hdeed
      · contradiction
      · apply hsettles.settles_own hdeed hsettle

theorem Consumes.removes {route : Route} (h : Consumes delivery route deeds) {tag : UInt64}
    {allBefore success : Bool} (hack : .method (.ack tag allBefore) success ∈ deeds) :
  delivery.messageType route ≠ route.messageType
    ∨ (∃ message, .handle message (.ok .ack) ∈ deeds)
    ∨ ∃ target before, route.queue.deadLetters = some target
      ∧ deeds = before ++ [.method (delivery.copyTo target) true,
          .method (.ack tag allBefore) success]
  := by
  cases h with
  | foreign htype _ =>
      left
      apply htype
  | handled message hsettles =>
      right
      obtain hhandle | hack := List.mem_cons.mp hack
      · contradiction
      · obtain rfl | ⟨target, htarget, rfl⟩ := hsettles.removes hack
        · left
          use message, List.mem_cons_self
        · right
          exact ⟨target, [.handle message _], htarget, rfl⟩

/-- A delivery whose answers settle it is never removed unless it was handled.  The handler
is asked at most once, and at most one request settles a delivery, which is this one alone.
A request to remove it comes only for a delivery of another type, or after the handler has
said so, or right after a copy went to the dead letters.  Hence a delivery that the handler
rejects, or fails on, ends among the dead letters where there are any and otherwise with the
broker, or stays unsettled when the copy is not taken; and one that was cancelled goes back
to its queue. -/
theorem consume_never_loses {route : Route} (hmanual : route.consumer.autoAck = false)
    (h : Does (delivery.consume route) deeds consumed) :
  deeds.countP Deed.asksHandler ≤ 1
    ∧ deeds.countP Deed.settles ≤ 1
    ∧ (∀ deed ∈ deeds, deed.settles →
      ∃ success, deed = .method (.ack delivery.tag false) success
        ∨ ∃ requeue, deed = .method (.nack delivery.tag false requeue) success)
    ∧ (∀ tag allBefore success, .method (.ack tag allBefore) success ∈ deeds →
      delivery.messageType route ≠ route.messageType
        ∨ (∃ message, .handle message (.ok .ack) ∈ deeds)
        ∨ ∃ target before, route.queue.deadLetters = some target
          ∧ deeds = before ++ [.method (delivery.copyTo target) true,
              .method (.ack tag allBefore) success])
    ∧ (∀ message answer, .handle message answer ∈ deeds →
      (answer = .ok .reject ∨ ∃ error, answer = .error error ∧ error ≠ .cancelled) →
      (∃ target success, route.queue.deadLetters = some target
          ∧ deeds = [.handle message answer, .method (delivery.copyTo target) true,
              .method (.ack delivery.tag false) success])
        ∨ (∃ success, route.queue.deadLetters = none
          ∧ deeds = [.handle message answer, .method (.nack delivery.tag false false) success])
        ∨ ∃ target, route.queue.deadLetters = some target
          ∧ deeds = [.handle message answer, .method (delivery.copyTo target) false])
    ∧ ∀ message, .handle message (.error .cancelled) ∈ deeds →
      ∃ success, deeds = [.handle message (.error .cancelled),
        .method (.nack delivery.tag false true) success]
  := by
  have hconsumes := consumes_of_consume hmanual h
  use hconsumes.countP_asksHandler_le, hconsumes.countP_settles_le
  use fun _ => hconsumes.settles_own, fun _ _ _ => hconsumes.removes
  constructor
  · intro message answer hhandle hfails
    obtain ⟨rest, rfl, hsettles⟩ := hconsumes.of_mem hhandle
    obtain ⟨target, success, htarget, rfl⟩ | ⟨success, htarget, rfl⟩ | ⟨target, htarget, rfl⟩ :=
      hsettles.of_fails hfails
    · left
      use target, success
    · right
      left
      use success
    · right
      right
      use target
  · intro message hhandle
    obtain ⟨rest, rfl, hsettles⟩ := hconsumes.of_mem hhandle
    obtain ⟨success, rfl⟩ := hsettles.of_cancelled
    use success

end Delivery

/-- A tick without properties. -/
def tickDelivery : Delivery where
  tag := 7
  properties := {}
  payload := ByteArray.empty

/-- Replies of a broker that carries out every method and of a handler that rejects every
message. -/
def rejecting : (question : Question) → Unit → question.Reply × Unit
  | .method _, _ => (true, ())
  | .handle _, _ => (.ok .reject, ())
  | .newId, _ => ((tick 0).context.id, ())
  | .now, _ => ((tick 0).context.createdAt, ())
  | .traceEntries, _ => ([], ())
  | .listen _, _ => ((), ())
  | .pause _, _ => ((), ())
  | .log _, _ => ((), ())

theorem consume_never_loses_rejected_tick :
  ∃ message,
    deedsOf ((tickDelivery.consume tickRoute).history rejecting ())
      = [.handle message (.ok .reject), .method (tickDelivery.copyTo "ticks-dlq") true,
          .method (.ack 7 false) true]
    ∧ (deedsOf ((tickDelivery.consume tickRoute).history rejecting ())).countP Deed.settles ≤ 1
  := by
  have hcourse := Interaction.course_history rejecting (tickDelivery.consume tickRoute) ()
  have hmanual : tickRoute.consumer.autoAck = false := rfl
  obtain ⟨-, hsettles, -⟩ := Delivery.consume_never_loses hmanual ⟨_, hcourse, rfl⟩
  exact ⟨_, rfl, hsettles⟩

end AmqpBus.Broker

import AmqpBus.Proofs.Broker.OwnType
import AmqpBus.Proofs.Retry.HandingBack

/-!
# Every decision finds its queue

The decisions of processing and the companions of a queue are made for each other.  A
message is handed back only on a subscription whose queue has a retry queue, and there is
always a queue for dead letters.  So a subscription never waits by itself with a delivery in
hand, and it drops no delivery for want of a queue.
-/

namespace AmqpBus

open Interaction

variable {D α : Type}

namespace Broker

/-! ### Work that never waits -/

/-- Whether a question is a pause. -/
def Question.Pauses : Question → Prop
  | .pause _ => True
  | _ => False

/-- Work that never pauses, given the replies that are allowed. -/
def Work.NeverPauses (allows : (question : Question) → question.Reply → Prop) (work : Work α) :
    Prop :=
  work.Asks allows fun question => ¬question.Pauses

namespace Work.NeverPauses

variable {allows : (question : Question) → question.Reply → Prop}

theorem debug (text : String) :
  NeverPauses allows (Work.debug text)
  := Asks.request id

theorem warn (text : String) :
  NeverPauses allows (Work.warn text)
  := Asks.request id

theorem complain (text : String) :
  NeverPauses allows (Work.complain text)
  := Asks.request id

theorem send (method : Amqp.Method) :
  NeverPauses allows (Work.send method)
  := Asks.request id

end Work.NeverPauses

namespace Delivery

open Work

variable (delivery : Delivery) {route : Route} {queue : Queue}
  {allows : (question : Question) → question.Reply → Prop}

theorem neverPauses_ack (span : Span) :
  (delivery.ack span).NeverPauses allows
  := by
  rw [ack]
  apply Asks.bind (NeverPauses.send _)
  intro success
  split
  · apply Asks.pure
  · apply Asks.bind (NeverPauses.complain _)
    intro _
    apply Asks.pure

theorem neverPauses_nack (requeue : Bool) (span : Span) :
  (delivery.nack requeue span).NeverPauses allows
  := by
  rw [nack]
  apply Asks.bind (NeverPauses.send _)
  intro success
  split
  · apply Asks.pure
  · apply Asks.bind (NeverPauses.complain _)
    intro _
    apply Asks.pure

theorem neverPauses_bury (target : String) (span : Span) :
  (delivery.bury target span).NeverPauses allows
  := by
  rw [bury]
  apply Asks.bind (NeverPauses.complain _)
  intro _
  apply Asks.bind (NeverPauses.send _)
  intro copied
  split
  · apply neverPauses_ack
  · apply Asks.bind (NeverPauses.complain _)
    intro _
    apply Asks.pure

/-- Settling a delivery only waits for one that is to come again, and only where there is no
retry queue. -/
theorem neverPauses_settle {decision : Acknowledgement}
    (h : ∀ delay, decision = .retryAfter delay → queue.retry.isSome) (span : Span) :
  (delivery.settle queue decision span).NeverPauses allows
  := by
  cases decision with
  | ack =>
      apply Asks.bind (delivery.neverPauses_ack span)
      intro consumed
      split <;> apply Asks.pure
  | retryAfter delay =>
      rw [settle, if_pos (h delay rfl)]
      apply Asks.bind (NeverPauses.debug _)
      intro _
      apply neverPauses_nack
  | reject =>
      rw [settle]
      split
      · apply neverPauses_nack
      · apply neverPauses_bury

theorem neverPauses_settleBy {answer : Except BusError Acknowledgement}
    (h : ∀ delay, answer = .ok (.retryAfter delay) → queue.retry.isSome) (span : Span) :
  (delivery.settleBy queue answer span).NeverPauses allows
  := by
  unfold settleBy
  split
  · apply neverPauses_settle
    rintro delay rfl
    apply h delay rfl
  · apply Asks.bind (NeverPauses.warn _)
    intro _
    apply neverPauses_nack
  · apply Asks.bind (NeverPauses.complain _)
    intro _
    apply neverPauses_settle
    intro delay hne
    contradiction

theorem neverPauses_passOver (answer : Except BusError Acknowledgement) (span : Span) :
  (passOver answer span).NeverPauses allows
  := by
  unfold passOver
  split
  · apply Asks.pure
  · apply Asks.bind (NeverPauses.warn _)
    intro _
    apply Asks.pure
  · apply Asks.bind (NeverPauses.complain _)
    intro _
    apply Asks.pure

/-- Consuming a delivery never waits if messages are handed back only where there is a retry
queue. -/
theorem neverPauses_consume
    (h : ∀ message delay, allows (.handle message) (.ok (.retryAfter delay)) →
      route.queue.retry.isSome) :
  (delivery.consume route).NeverPauses allows
  := by
  rw [consume]
  apply Asks.bind (NeverPauses.debug _)
  intro _
  split
  · apply Asks.bind (NeverPauses.warn _)
    intro _
    apply neverPauses_settle
    intro delay hne
    contradiction
  · apply Asks.bind (Asks.request id)
    intro fresh
    apply Asks.bind (Asks.request id)
    intro now
    apply Asks.bind (Asks.request id)
    intro delivered
    refine ⟨id, fun answer hanswer => ?_⟩
    change NeverPauses allows (if route.consumer.autoAck then _ else _)
    split
    · apply neverPauses_passOver
    · apply neverPauses_settleBy
      rintro delay rfl
      apply h _ _ hanswer

variable {delivery} {deeds : List Deed} {consumed : Consumed}

/-- So there is no pause in a course in which messages were handed back only where there is
a retry queue. -/
theorem pause_notMem {turns : List (Turn Question Question.Reply)}
    (hcourse : Course (delivery.consume route) turns consumed)
    (hretry : ∀ message delay, .handle message (.ok (.retryAfter delay)) ∈ deedsOf turns →
      route.queue.retry.isSome) (delay : Time.Duration) (reply : Unit) :
  ⟨.pause delay, reply⟩ ∉ turns
  := by
  -- the replies of the course itself are the ones that are allowed
  let given (question : Question) (reply : question.Reply) : Prop := ⟨question, reply⟩ ∈ turns
  have hgiven : ∀ message delay, given (.handle message) (.ok (.retryAfter delay)) →
      route.queue.retry.isSome := by
    intro message delay hmem
    apply hretry message delay (handle_mem_deedsOf hmem)
  intro hmem
  apply (delivery.neverPauses_consume hgiven).of_mem hcourse (fun _ hturn => hturn) hmem
  trivial

/-! ### What is left of the ways to settle -/

theorem retries_message (route : Route) (fresh : Uuid) (now delivered : Time.Moment) :
  (delivery.message route fresh now delivered).context.retries
    = (DeliveryHeaders.ofProperties delivery.properties).count
  := by
  have hnew (headers : DeliveryHeaders) : (headers.context fresh now).retries = 0 := by
    rw [DeliveryHeaders.context]
    split <;> rfl
  rw [message, Context.recordDelivery]
  dsimp only
  rw [hnew]
  apply if_pos UInt32.zero_le

/-- A delivery that is to come again goes to the retry queue where there is one. -/
theorem Settles.of_retryAfter {delay : Time.Duration}
    (h : Settles delivery queue (.ok (.retryAfter delay)) deeds) (hretry : queue.retry.isSome) :
  ∃ success, deeds = [.method (.nack delivery.tag false false) success]
  := by
  cases h with
  | parked _ success _ => use success
  | returned _ _ hnone =>
      rw [hnone] at hretry
      contradiction
  | dropped _ hfails _ => simp [Fails] at hfails
  | kept hfails _ => simp [Fails] at hfails
  | buried _ hfails _ => simp [Fails] at hfails

/-- Where there is a queue for dead letters, a delivery is given away only to come again. -/
theorem Settles.of_nack {answer : Except BusError Acknowledgement} {target : String}
    {tag : UInt64} {allBefore success : Bool} (h : Settles delivery queue answer deeds)
    (htarget : queue.deadLetters = some target)
    (hnack : .method (.nack tag allBefore false) success ∈ deeds) :
  ∃ delay, answer = .ok (.retryAfter delay)
  := by
  cases h with
  | parked delay _ _ => use delay
  | removed _ => simp at hnack
  | returned _ _ _ => simp at hnack
  | cancelled _ => simp at hnack
  | dropped _ _ hnone =>
      rw [hnone] at htarget
      contradiction
  | kept _ _ => simp [copyTo] at hnack
  | buried _ _ _ => simp [copyTo] at hnack

theorem retryAfter_of_nack {target : String} {tag : UInt64} {allBefore success : Bool}
    (htarget : route.queue.deadLetters = some target)
    (h : Does (delivery.consume route) deeds consumed)
    (hnack : .method (.nack tag allBefore false) success ∈ deeds) :
  ∃ message delay, .handle message (.ok (.retryAfter delay)) ∈ deeds
  := by
  by_cases htype : delivery.messageType route = route.messageType
  · cases hauto : route.consumer.autoAck with
    | true =>
        obtain ⟨-, fresh, now, delivered, answer, rfl⟩ := deeds_of_consume_own hauto htype h
        simp at hnack
    | false =>
        cases consumes_of_consume hauto h with
        | foreign hforeign _ => contradiction
        | handled message hsettles =>
            obtain hne | hnack := List.mem_cons.mp hnack
            · contradiction
            · obtain ⟨delay, rfl⟩ := hsettles.of_nack htarget hnack
              use message, delay, List.mem_cons_self
  · obtain ⟨_, rfl⟩ := deeds_of_consume_foreign htype h
    simp at hnack

end Delivery

end Broker

/-! ### Subscriptions -/

/-- The answers that the handler of a subscription can give to a message, each an
acknowledgement or an error of the bus. -/
def Processing.CanAnswer (processing : Processing D α) (message : Inbound)
    (answer : Except BusError Acknowledgement) : Prop :=
  ∃ (H : Type) (turns : List (Turn (Request D H) Request.Reply)),
    Course (processing.handle message) turns (answer.mapError ProcessingFault.bus)

/-- A message can be handed back wherever the strategy and the budget allow it. -/
theorem Processing.canAnswer_retryAfter (processing : Processing D α) {message : Inbound}
    {payload : α} (hplace : processing.strategy.place = .requeue)
    (hpayload : processing.format.decode? message.payload = some payload)
    (hbudget : message.context.retries < processing.strategy.retries) :
  processing.CanAnswer message (.ok (.retryAfter processing.strategy.interval))
  := by
  let supply := Supply.ofOutcomes [.error (.failed "")]
  have hsequel : (processing.sequel message 1 (.error (.failed "")) : Operation D Empty Answer)
      = (do
        Operation.warn "error whiling handling msg, requeuing for latter"
        return .ok (.retryAfter processing.strategy.interval)) := by
    rw [sequel, hplace]
    dsimp only
    rw [requeued, if_pos hbudget]
  have hvalue : ((processing.handle message : Operation D Empty Answer).run Supply.reply supply).1
      = .ok (.retryAfter processing.strategy.interval) := by
    have hnext : nextCount? 0 = some 1 := rfl
    rw [handle, processing.process_eq_attempt hpayload, attempt, hnext]
    change ((processing.sequel message 1 (.error (.failed "")) >>= fun answer =>
      Operation.release >>= fun _ => pure answer).run Supply.reply _).1 = _
    rw [hsequel]
    rfl
  have hcourse := course_history Supply.reply
    (processing.handle message : Operation D Empty Answer) supply
  rw [hvalue] at hcourse
  exact ⟨Empty, _, hcourse⟩

namespace Broker

open Delivery

/-- Every decision finds its queue.  Let a subscription have been handed over with a route,
and let a delivery be consumed on this route by its handler.  That the message is to come
again is decided only where the broker brings messages again, after the one run of the
handler has failed and while the budget is not used up; then answers settle deliveries, there
is a retry queue, and the broker is asked once, to pass the delivery on to it.  The
subscription never waits by itself.  A delivery that has failed goes to the queue for dead
letters, and none is given away for want of one. -/
theorem decisions_find_queues {processing : Processing D α} {override : Override}
    {route : Route} (hsubscribed : processing.Subscribed override route)
    {delivery : Delivery} {turns : List (Turn Question Question.Reply)} {consumed : Consumed}
    (hcourse : Course (delivery.consume route) turns consumed)
    (hanswers : ∀ message answer, .handle message answer ∈ deedsOf turns →
      processing.CanAnswer message answer) :
  (∀ message delay, .handle message (.ok (.retryAfter delay)) ∈ deedsOf turns →
      processing.strategy.place = .requeue
        ∧ (∀ (H : Type) (handling : List (Turn (Request D H) Request.Reply)),
            Course (processing.handle message) handling (.ok (.retryAfter delay)) →
            ∃ payload cause, processing.format.decode? message.payload = some payload
              ∧ actsOf handling
                = [.dispatch (processing.call payload message.context) (.error (.failed cause))])
        ∧ (DeliveryHeaders.ofProperties delivery.properties).count < processing.strategy.retries
        ∧ route.consumer.autoAck = false
        ∧ (∃ ttl, route.queue.retry = some (route.queue.name ++ "-retry", ttl))
        ∧ ∃ success, deedsOf turns
            = [.handle message (.ok (.retryAfter delay)),
                .method (.nack delivery.tag false false) success])
    ∧ (∀ delay reply, ⟨.pause delay, reply⟩ ∉ turns)
    ∧ route.queue.deadLetters = some (route.queue.name ++ "-dlq")
    ∧ (∀ message answer, .handle message answer ∈ deedsOf turns → Fails answer →
      route.consumer.autoAck = false →
      deedsOf turns = [.handle message answer,
          .method (delivery.copyTo (route.queue.name ++ "-dlq")) false]
        ∨ ∃ success, deedsOf turns = [.handle message answer,
            .method (delivery.copyTo (route.queue.name ++ "-dlq")) true,
            .method (.ack delivery.tag false) success])
    ∧ ∀ tag allBefore success, .method (.nack tag allBefore false) success ∈ deedsOf turns →
      ∃ message delay, .handle message (.ok (.retryAfter delay)) ∈ deedsOf turns
  := by
  have hroute := hsubscribed.route_eq
  have hdeadLetters := Processing.deadLetters_of_route hroute
  have hdoes : Does (delivery.consume route) (deedsOf turns) consumed := ⟨turns, hcourse, rfl⟩
  refine ⟨?_, ?_, hdeadLetters, ?_, fun _ _ _ => retryAfter_of_nack hdeadLetters hdoes⟩
  · intro message delay hmem
    obtain ⟨_, _, hhandling⟩ := hanswers _ _ hmem
    obtain ⟨hplace, -, hbudget, -⟩ := Processing.course_handle hhandling
    have hauto := Processing.autoAck_of_route hroute hplace
    have hretry := Processing.retry_of_route hroute hplace
    refine ⟨hplace, fun _ _ h => (Processing.course_handle h).2.2.2, ?_, hauto, ⟨_, hretry⟩, ?_⟩
    · obtain ⟨-, fresh, now, delivered, rfl⟩ := message_of_mem hdoes hmem
      rw [retries_message] at hbudget
      apply hbudget
    · obtain ⟨rest, hdeeds, hsettles⟩ := (consumes_of_consume hauto hdoes).of_mem hmem
      obtain ⟨success, rfl⟩ := hsettles.of_retryAfter (by rw [hretry, Option.isSome_some])
      use success
  · apply pause_notMem hcourse
    intro message delay hmem
    obtain ⟨_, _, hhandling⟩ := hanswers _ _ hmem
    obtain ⟨hplace, -⟩ := Processing.course_handle hhandling
    rw [Processing.retry_of_route hroute hplace, Option.isSome_some]
  · intro message answer hmem hfails hmanual
    obtain ⟨rest, hdeeds, hsettles⟩ := (consumes_of_consume hmanual hdoes).of_mem hmem
    rw [hdeeds]
    obtain ⟨target, success, htarget, rfl⟩ | ⟨_, hnone, -⟩ | ⟨target, htarget, rfl⟩ :=
      hsettles.of_fails hfails
    · right
      obtain rfl := Option.some.inj (hdeadLetters.symm.trans htarget)
      use success
    · rw [hnone] at hdeadLetters
      contradiction
    · left
      obtain rfl := Option.some.inj (hdeadLetters.symm.trans htarget)
      rfl

/-- The route of a subscription to ticks that the broker is to bring again. -/
def clockRoute : Route where
  messageType := "clock.Tick"
  exchange := { name := "clock" }
  routingKey := "clock.tick"
  queue := (({ name := "clock.tick" } : Queue).withDeadLetters).withRetry 2000
  binding := { queue := "clock.tick", exchange := "clock", key := "clock.tick" }
  consumer := { tag := "clock.tick" }

/-- Replies of a broker that carries out every method and of a handler that wants every
message again. -/
def postponing : (question : Question) → Unit → question.Reply × Unit
  | .handle _, _ => (.ok (.retryAfter (.ofSeconds 2)), ())
  | question, state => rejecting question state

/-- A tick that is to come again is passed on to the retry queue of its queue. -/
theorem decisions_find_queues_tick :
  (clocking .requeue).Subscribed {} clockRoute
    ∧ ∃ message success,
      deedsOf ((tickDelivery.consume clockRoute).history postponing ())
        = [.handle message (.ok (.retryAfter (.ofSeconds 2))),
            .method (.nack 7 false false) success]
      ∧ (clocking .requeue).CanAnswer message (.ok (.retryAfter (.ofSeconds 2)))
  := by
  have hsubscribed : (clocking .requeue).Subscribed {} clockRoute :=
    ⟨Unit, (), (), _, _, _, course_history Supply.reply _ (.ofOutcomes []),
      .tail _ (.tail _ (.head _))⟩
  have hcourse := course_history postponing (tickDelivery.consume clockRoute) ()
  have hdeeds : ∃ fresh now delivered rest,
      deedsOf ((tickDelivery.consume clockRoute).history postponing ())
          = .handle (tickDelivery.message clockRoute fresh now delivered)
              (.ok (.retryAfter (.ofSeconds 2))) :: rest
        ∧ rest.countP Deed.asksHandler = 0 := ⟨_, _, _, _, rfl, rfl⟩
  obtain ⟨fresh, now, delivered, rest, hdeeds, hrest⟩ := hdeeds
  have hcan : (clocking .requeue).CanAnswer (tickDelivery.message clockRoute fresh now delivered)
      (.ok (.retryAfter (.ofSeconds 2))) := by
    apply (clocking .requeue).canAnswer_retryAfter rfl rfl
    rw [retries_message]
    decide
  have hanswers : ∀ message answer,
      .handle message answer ∈ deedsOf ((tickDelivery.consume clockRoute).history postponing ()) →
      (clocking .requeue).CanAnswer message answer := by
    intro message answer hmem
    rw [hdeeds] at hmem
    obtain heq | hmem := List.mem_cons.mp hmem
    · obtain ⟨rfl, rfl⟩ := Deed.handle.inj heq
      apply hcan
    · have hnone := List.countP_eq_zero.mp hrest _ hmem
      contradiction
  obtain ⟨hagain, -⟩ := decisions_find_queues hsubscribed hcourse hanswers
  obtain ⟨-, -, -, -, -, success, hsettled⟩ :=
    hagain (tickDelivery.message clockRoute fresh now delivered) (.ofSeconds 2) (by simp [hdeeds])
  exact ⟨hsubscribed, _, success, hsettled, hcan⟩

end Broker

end AmqpBus

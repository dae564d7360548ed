import AmqpBus.Proofs.Broker.Parking

/-!
# Deaths

How often a message was delivered before is what the broker counts of its deaths.  The count
has 64 bits and a sign, and what is recorded of it has 32 bits and none.  A count that does
not fit is recorded as none.  Up to there the record follows the count, so a message that
has died as often as the budget allows is not handed back.  Beyond it a message comes again
as if it were new.
-/

namespace AmqpBus

open Interaction

variable {D α : Type}

/-! ### What is recorded of a count -/

namespace DeliveryHeaders

/-- The largest count that is recorded. -/
def mostRecorded : ℤ := 0xFFFFFFFF

/-- The earlier deliveries that are recorded of a count of deaths. -/
def recorded (deaths : Int64) : ℕ :=
  if deaths.toInt ≤ mostRecorded then deaths.toInt.toNat else 0

theorem toNat_countOf {headers : Amqp.Table} {deaths : Int64}
    (h : deaths? headers = some deaths) :
  (countOf headers).toNat = recorded deaths
  := by
  have hcapacity : (Number.capacity 32 : ℤ) = mostRecorded + 1 := rfl
  have hsize : UInt32.size = 0xFFFFFFFF + 1 := rfl
  simp only [countOf, h, Number.isUnsigned, Bool.and_eq_true, decide_eq_true_eq, hcapacity]
  split
  · rename_i hfits
    rw [recorded, if_pos (by omega)]
    apply UInt32.toNat_ofNat_of_lt'
    rw [mostRecorded] at hfits
    omega
  · rename_i hfits
    rw [recorded]
    split
    · rw [Int.toNat_of_nonpos (by omega)]
      rfl
    · rfl

/-- Where a budget has been reached, the record is below it only if the count does not
fit. -/
theorem recorded_lt_iff {deaths : Int64} {budget : ℕ} (h : budget ≤ deaths.toInt) :
  recorded deaths < budget ↔ mostRecorded < deaths.toInt ∧ 0 < budget
  := by
  rw [recorded]
  split <;> omega

/-- More deaths are recorded as fewer only if they do not fit. -/
theorem recorded_lt_recorded_iff {fewer more : Int64} (h : fewer.toInt ≤ more.toInt) :
  recorded more < recorded fewer
    ↔ 0 < fewer.toInt ∧ fewer.toInt ≤ mostRecorded ∧ mostRecorded < more.toInt
  := by
  rw [recorded, recorded]
  split <;> split <;> omega

end DeliveryHeaders

/-! ### Answers to a failure -/

/-- The answers that the handler of a subscription can give to a message after it broke down
on it. -/
def Processing.CanAnswerFailure (processing : Processing D α) (message : Inbound)
    (answer : Except BusError Acknowledgement) : Prop :=
  ∃ (H : Type) (turns : List (Turn (Request D H) Request.Reply)) (call : D) (cause : String),
    Course (processing.handle message) turns (answer.mapError ProcessingFault.bus)
      ∧ .dispatch call (.error (.failed cause)) ∈ actsOf turns

/-- A message can be handed back only after a failure. -/
theorem Processing.CanAnswer.of_retryAfter {processing : Processing D α} {message : Inbound}
    {delay : Time.Duration} (h : processing.CanAnswer message (.ok (.retryAfter delay))) :
  processing.CanAnswerFailure message (.ok (.retryAfter delay))
  := by
  obtain ⟨H, turns, hcourse⟩ := h
  obtain ⟨-, -, -, payload, cause, -, hacts⟩ := course_handle hcourse
  use H, turns, processing.call payload message.context, cause, hcourse
  rw [hacts]
  apply List.mem_singleton_self

/-- After a failure a message is handed back exactly while the budget is not used up. -/
theorem Processing.CanAnswerFailure.eq_retryAfter_iff {processing : Processing D α}
    {message : Inbound} {answer : Except BusError Acknowledgement}
    (h : processing.CanAnswerFailure message answer)
    (hplace : processing.strategy.place = .requeue) :
  (∃ delay, answer = .ok (.retryAfter delay))
    ↔ message.context.retries < processing.strategy.retries
  := by
  obtain ⟨H, turns, call, cause, hcourse, hmem⟩ := h
  rw [← answer_eq_retryAfter_iff hplace hcourse hmem]
  cases answer with
  | ok decision => simp [Except.mapError]
  | error error => simp [Except.mapError]

namespace Broker

open Delivery DeliveryHeaders

/-- A delivery is given away, to wherever the dead letters of its queue go. -/
def GivesAway (deeds : List Deed) : Prop :=
  ∃ tag allBefore success, .method (.nack tag allBefore false) success ∈ deeds

/-- A delivery that answers settle is given away exactly when its message is handed back, for
there is a retry queue and a queue for dead letters. -/
theorem givesAway_iff {route : Route} {delivery : Delivery} {deeds : List Deed}
    {consumed : Consumed} {message : Inbound} {answer : Except BusError Acknowledgement}
    {target : String} (hmanual : route.consumer.autoAck = false)
    (hretry : route.queue.retry.isSome) (htarget : route.queue.deadLetters = some target)
    (h : Does (delivery.consume route) deeds consumed) (hmem : .handle message answer ∈ deeds) :
  GivesAway deeds ↔ ∃ delay, answer = .ok (.retryAfter delay)
  := by
  obtain ⟨rest, rfl, hsettles⟩ := (consumes_of_consume hmanual h).of_mem hmem
  constructor
  · rintro ⟨tag, allBefore, success, hnack⟩
    obtain hne | hnack := List.mem_cons.mp hnack
    · contradiction
    · apply hsettles.of_nack htarget hnack
  · rintro ⟨delay, rfl⟩
    obtain ⟨success, rfl⟩ := hsettles.of_retryAfter hretry
    use delivery.tag, false, success
    simp

variable {processing : Processing D α} {override : Override} {route : Route}
  {delivery : Delivery} {deaths : Int64}

theorem toNat_retries_message (h : deaths? (delivery.properties.headers.getD ∅) = some deaths)
    (route : Route) (fresh : Uuid) (now delivered : Time.Moment) :
  (delivery.message route fresh now delivered).context.retries.toNat = recorded deaths
  := by
  rw [retries_message]
  apply toNat_countOf h

/-- Redelivery by the broker is bounded by what is recorded of the deaths of a message.  Let
the broker bring messages again, and let a delivery come with a count of deaths.  After a
failure its message is handed back, and the delivery is given away, exactly while the record
is below the budget.  Where the deaths have reached the budget, this is so only if their
count does not fit the record and there is a budget at all.  And of two deliveries the one
with more deaths is recorded with fewer only if its count does not fit. -/
theorem redelivery_bounded_by_record (hsubscribed : processing.Subscribed override route)
    (hplace : processing.strategy.place = .requeue)
    (hdeaths : deaths? (delivery.properties.headers.getD ∅) = some deaths) :
  (∀ turns consumed message answer, Course (delivery.consume route) turns consumed →
      .handle message answer ∈ deedsOf turns → processing.CanAnswerFailure message answer →
      ((∃ delay, answer = .ok (.retryAfter delay))
          ↔ recorded deaths < processing.strategy.retries.toNat)
        ∧ (GivesAway (deedsOf turns) ↔ recorded deaths < processing.strategy.retries.toNat)
        ∧ (processing.strategy.retries.toNat ≤ deaths.toInt →
          (GivesAway (deedsOf turns)
            ↔ mostRecorded < deaths.toInt ∧ 0 < processing.strategy.retries.toNat)))
    ∧ ∀ (other : Delivery) (fewer : Int64),
      deaths? (other.properties.headers.getD ∅) = some fewer → fewer.toInt ≤ deaths.toInt →
      ∀ fresh now delivered fresh' now' delivered',
        (delivery.message route fresh now delivered).context.retries
            < (other.message route fresh' now' delivered').context.retries
          ↔ 0 < fewer.toInt ∧ fewer.toInt ≤ mostRecorded ∧ mostRecorded < deaths.toInt
  := by
  constructor
  · intro turns consumed message answer hcourse hmem hfailure
    have hroute := hsubscribed.route_eq
    have hdoes : Does (delivery.consume route) (deedsOf turns) consumed := ⟨turns, hcourse, rfl⟩
    have hagain : (∃ delay, answer = .ok (.retryAfter delay))
        ↔ recorded deaths < processing.strategy.retries.toNat := by
      obtain ⟨-, fresh, now, delivered, rfl⟩ := message_of_mem hdoes hmem
      rw [hfailure.eq_retryAfter_iff hplace, UInt32.lt_iff_toNat_lt,
        toNat_retries_message hdeaths]
    have hgives : GivesAway (deedsOf turns) ↔ recorded deaths < processing.strategy.retries.toNat
        := by
      have hretry := Processing.retry_of_route hroute hplace
      rw [← hagain]
      apply givesAway_iff (Processing.autoAck_of_route hroute hplace)
        (by rw [hretry, Option.isSome_some]) (Processing.deadLetters_of_route hroute) hdoes hmem
    use hagain, hgives
    intro hreached
    rw [hgives, recorded_lt_iff hreached]
  · intro other fewer hfewer hle fresh now delivered fresh' now' delivered'
    rw [UInt32.lt_iff_toNat_lt, toNat_retries_message hdeaths, toNat_retries_message hfewer,
      recorded_lt_recorded_iff hle]

/-- A tick that comes with a count of deaths. -/
def deadTick (deaths : Int64) : Delivery :=
  { tickDelivery with
    properties :=
      { headers := some (Dictionary.ofList
          [("x-death", .array [.table [("count", .int64 deaths)]])]) } }

theorem deaths?_deadTick (deaths : Int64) :
  deaths? ((deadTick deaths).properties.headers.getD ∅) = some deaths
  := rfl

/-- A tick that is to come again is given away. -/
theorem deedsOf_deadTick (deaths : Int64) :
  ∃ fresh now delivered, deedsOf (((deadTick deaths).consume clockRoute).history postponing ())
    = [.handle ((deadTick deaths).message clockRoute fresh now delivered)
          (.ok (.retryAfter (.ofSeconds 2))),
        .method (.nack 7 false false) true]
  := ⟨_, _, _, rfl⟩

/-- While the record is below the budget, a tick can be handed back. -/
theorem canAnswerFailure_deadTick (deaths : Int64)
    (h : recorded deaths < (clocking .requeue).strategy.retries.toNat) (fresh : Uuid)
    (now delivered : Time.Moment) :
  (clocking .requeue).CanAnswerFailure ((deadTick deaths).message clockRoute fresh now delivered)
    (.ok (.retryAfter (.ofSeconds 2)))
  := by
  apply Processing.CanAnswer.of_retryAfter
  apply (clocking .requeue).canAnswer_retryAfter rfl rfl
  rw [UInt32.lt_iff_toNat_lt, toNat_retries_message (deaths?_deadTick deaths)]
  apply h

theorem subscribed_clockRoute :
  (clocking .requeue).Subscribed {} clockRoute
  := ⟨Unit, (), (), _, _, _, course_history Supply.reply _ (.ofOutcomes []),
    .tail _ (.tail _ (.head _))⟩

/-- A tick that has died twice comes again, and it is recorded with no fewer deliveries than
one that has died once. -/
theorem redelivery_bounded_by_record_tick :
  GivesAway (deedsOf (((deadTick 2).consume clockRoute).history postponing ()))
    ∧ ∀ fresh now delivered, ¬((deadTick 2).message clockRoute fresh now delivered).context.retries
      < ((deadTick 1).message clockRoute fresh now delivered).context.retries
  := by
  obtain ⟨hagain, hrecord⟩ := redelivery_bounded_by_record subscribed_clockRoute rfl
    (deaths?_deadTick 2)
  constructor
  · obtain ⟨fresh, now, delivered, hdeeds⟩ := deedsOf_deadTick 2
    have hmem := hdeeds ▸ List.mem_cons_self
    have hfailure := canAnswerFailure_deadTick 2 (by decide) fresh now delivered
    obtain ⟨-, hgives, -⟩ := hagain _ _ _ _ (course_history postponing _ ()) hmem hfailure
    apply hgives.mpr
    decide
  · intro fresh now delivered
    rw [hrecord (deadTick 1) 1 (deaths?_deadTick 1) (by decide) fresh now delivered fresh now
      delivered]
    decide

/-- A tick that has died more often than can be recorded comes again as if it were new.  Its
deaths have long reached the budget, and it is recorded with fewer deliveries than a tick
that has died once less. -/
theorem givesAway_of_unrecorded_deaths :
  (clocking .requeue).Subscribed {} clockRoute
    ∧ (clocking .requeue).strategy.place = .requeue
    ∧ deaths? ((deadTick 4294967296).properties.headers.getD ∅) = some 4294967296
    ∧ (deadTick 4294967296).messageType clockRoute = clockRoute.messageType
    ∧ (clocking .requeue).strategy.retries.toNat ≤ (4294967296 : Int64).toInt
    ∧ (∃ turns consumed message, Course ((deadTick 4294967296).consume clockRoute) turns consumed
      ∧ .handle message (.ok (.retryAfter (.ofSeconds 2))) ∈ deedsOf turns
      ∧ (clocking .requeue).CanAnswerFailure message (.ok (.retryAfter (.ofSeconds 2)))
      ∧ GivesAway (deedsOf turns))
    ∧ (4294967295 : Int64) < 4294967296
    ∧ ∀ fresh now delivered,
      ((deadTick 4294967296).message clockRoute fresh now delivered).context.retries
      < ((deadTick 4294967295).message clockRoute fresh now delivered).context.retries
  := by
  refine ⟨subscribed_clockRoute, rfl, deaths?_deadTick _, rfl, by decide, ?_, by decide, ?_⟩
  · obtain ⟨fresh, now, delivered, hdeeds⟩ := deedsOf_deadTick 4294967296
    refine ⟨_, _, _, course_history postponing _ (), hdeeds ▸ List.mem_cons_self,
      canAnswerFailure_deadTick _ (by decide) fresh now delivered, 7, false, true, ?_⟩
    rw [hdeeds]
    apply List.mem_cons_of_mem _ (List.mem_singleton_self _)
  · intro fresh now delivered
    rw [UInt32.lt_iff_toNat_lt, toNat_retries_message (deaths?_deadTick _),
      toNat_retries_message (deaths?_deadTick _)]
    decide

end Broker

end AmqpBus

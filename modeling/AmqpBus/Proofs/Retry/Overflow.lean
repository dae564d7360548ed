import AmqpBus.Broker.Consumption
import AmqpBus.Proofs.Retry.Courses

/-!
# Counts that do not fit

Attempts are counted in 32 bits, and processing has no acknowledgement when a count does not
fit.  Where all attempts are made in the process, this takes the greatest budget there is and
as many failures.  Where the broker brings messages again, it takes one failure of a message
that says of itself that it was brought as often as can be counted, which everyone who
publishes a message can make it say; the failure has then been compensated for.
-/

namespace AmqpBus

open Interaction Operation

variable {D H α : Type}

/-! ### Answers -/

theorem provided_eq_countOverflow_iff {answer : Answer} {outcome : Except BusError Unit} :
  Answer.provided answer outcome = .error .countOverflow
    ↔ answer = .error .countOverflow ∧ outcome = .ok ()
  := by
  cases outcome with
  | ok done => simp [Answer.provided]
  | error error => simp [Answer.provided, Answer.failed]

namespace Processing

variable (processing : Processing D α)

theorem exhaustion_ne_countOverflow (message : Inbound) (attempts : UInt32) :
  processing.exhaustion message attempts ≠ .error .countOverflow
  := by
  rw [exhaustion]
  split <;> simp [Answer.failed]

theorem refusal_ne_countOverflow (message : Inbound) (payload : α) (reason : Refusal)
    (supply : Supply) :
  (processing.refusal message payload reason supply).value ≠ .error .countOverflow
  := by
  rw [refusal]
  split
  · intro hoverflow
    obtain ⟨hack, -⟩ := provided_eq_countOverflow_iff.mp hoverflow
    contradiction
  · split <;> simp [Answer.failed]

/-! ### Counting deliveries -/

section Requeue

variable {message : Inbound} {payload : α}
  (hpayload : processing.format.decode? message.payload = some payload) (cause : String)
  (supply : Supply)

include hpayload

/-- A message that was brought as often as can be counted is compensated for, and then the
count does not fit. -/
theorem perform_requeued_of_max (hcount : message.context.retries = 0xFFFFFFFF) :
  (processing.requeued message cause : Operation D H Answer).perform supply
    = (processing.compensation message payload (.failed cause) supply).map
        (Answer.provided (.error .countOverflow))
  := by
  have hbudget : ¬message.context.retries < processing.strategy.retries := by
    rw [hcount, UInt32.lt_iff_toNat_lt, not_lt]
    apply Nat.le_of_lt_succ (UInt32.toNat_lt_size _)
  have hnext : nextCount? message.context.retries = none := by
    rw [hcount]
    rfl
  rw [requeued, if_neg hbudget, perform_bind, processing.perform_compensate hpayload]
  obtain ⟨acts, outcome, left⟩ :=
    processing.compensation message payload (.failed cause) supply
  cases outcome with
  | ok done => simp [Answer.provided, hnext]
  | error error => simp [Answer.provided]

theorem value_requeued_iff :
  ((processing.requeued message cause : Operation D H Answer).perform supply).value
      = .error .countOverflow
    ↔ message.context.retries = 0xFFFFFFFF
      ∧ (processing.compensation message payload (.failed cause) supply).value = .ok ()
  := by
  by_cases hcount : message.context.retries = 0xFFFFFFFF
  · rw [processing.perform_requeued_of_max hpayload cause supply hcount]
    simp [Performance.map, provided_eq_countOverflow_iff, hcount]
  · rw [processing.perform_requeued hpayload hcount, handingBack]
    split
    · simp [hcount]
    · simp [Performance.map, provided_eq_countOverflow_iff, hcount, exhaustion_ne_countOverflow]

end Requeue

/-- What follows the last attempt. -/
theorem value_sequel_iff {message : Inbound} {payload : α}
    (hpayload : processing.format.decode? message.payload = some payload) {count : UInt32}
    {outcome : Except HandlerError Unit} (hlast : processing.goesOn count outcome = false)
    (supply : Supply) :
  ((processing.sequel message count outcome : Operation D H Answer).perform supply).value
      = .error .countOverflow
    ↔ processing.strategy.place = .requeue ∧ message.context.retries = 0xFFFFFFFF
      ∧ ∃ cause, outcome = .error (.failed cause)
        ∧ (processing.compensation message payload (.failed cause) supply).value = .ok ()
  := by
  match outcome with
  | .ok () => simp [sequel]
  | .error (.domain _) => simp [sequel]
  | .error (.rejected reason) =>
      simp [sequel, processing.perform_refused hpayload, refusal_ne_countOverflow]
  | .error (.failed cause) =>
      rw [sequel]
      cases hplace : processing.strategy.place with
      | requeue => simp [processing.value_requeued_iff hpayload]
      | inProcess =>
          have hused : ¬count ≤ processing.strategy.retries := by
            simpa [goesOn, hplace] using hlast
          simp [hused, perform_exhausted, exhaustion_ne_countOverflow]

/-! ### Counting attempts in the process -/

/-- By induction on the attempts that can still be counted, all of which have to fail. -/
theorem value_attempt_inProcess_iff {message : Inbound} {payload : α}
    (hplace : processing.strategy.place = .inProcess)
    (hpayload : processing.format.decode? message.payload = some payload) {left : ℕ}
    {made : UInt32} (hleft : made.toNat + left = 0xFFFFFFFF)
    (hmade : made.toNat ≤ processing.strategy.retries.toNat) (supply : Supply) :
  ((processing.attempt message payload made : Operation D H Answer).perform supply).value
      = .error .countOverflow
    ↔ processing.strategy.retries = 0xFFFFFFFF ∧ ∀ n < left, isFailure (supply.outcomes.get n)
  := by
  induction left generalizing made supply with
  | zero =>
      have hbudget : processing.strategy.retries = 0xFFFFFFFF := by
        have hlt := processing.strategy.retries.toNat_lt_size
        rw [← UInt32.toNat_inj]
        simp only [UInt32.size] at hlt
        simp
        omega
      rw [processing.perform_attempt_of_overflow (nextCount?_eq_none_iff.mpr hleft)]
      simp [hbudget]
  | succ left ih =>
      obtain ⟨count, hnext, hcount⟩ := exists_nextCount? (by omega : made.toNat < 0xFFFFFFFF)
      have hhead : supply.outcomes.get 0 = supply.outcomes.head := rfl
      rw [processing.perform_attempt hnext, Performance.value_after, Nat.forall_lt_succ_left,
        hhead]
      cases hfailure : isFailure supply.outcomes.head with
      | false =>
          have hlast := processing.goesOn_of_not_isFailure hfailure count
          rw [processing.value_sequel_iff hpayload hlast, hplace]
          simp
      | true =>
          have hgoes := processing.goesOn_of_isFailure hfailure hplace count
          by_cases hwithin : count ≤ processing.strategy.retries
          · rw [decide_eq_true hwithin] at hgoes
            rw [processing.perform_sequel_of_goesOn hgoes,
              processing.attempts_eq hpayload (.inl rfl), Performance.value_after,
              ih (by omega) (UInt32.le_iff_toNat_le.mp hwithin)]
            simp
          · rw [decide_eq_false hwithin] at hgoes
            have hbudget : processing.strategy.retries ≠ 0xFFFFFFFF := by
              intro hmax
              rw [hmax, UInt32.le_iff_toNat_le] at hwithin
              apply hwithin
              apply Nat.le_of_lt_succ (UInt32.toNat_lt_size _)
            rw [processing.value_sequel_iff hpayload hgoes, hplace]
            simp [hbudget]

/-! ### Processing a message -/

/-- The ways in which a count does not fit. -/
def Overflows (message : Inbound) (payload : α) (supply : Supply) : Prop :=
  match processing.strategy.place with
  | .inProcess =>
    processing.strategy.retries = 0xFFFFFFFF ∧ (0xFFFFFFFF : ℕ) ≤ leadingFailures supply.outcomes
  | .requeue =>
    message.context.retries = 0xFFFFFFFF
      ∧ ∃ cause, supply.outcomes.head = .error (.failed cause)
        ∧ (processing.compensation message payload (.failed cause)
            { supply with outcomes := supply.outcomes.tail }).value = .ok ()

theorem value_processed_iff {message : Inbound} {payload : α}
    (hpayload : processing.format.decode? message.payload = some payload) (supply : Supply) :
  (processing.processed H message supply).value = .error .countOverflow
    ↔ processing.Overflows message payload supply
  := by
  rw [processed, processing.process_eq_attempt hpayload, Overflows]
  cases hplace : processing.strategy.place with
  | inProcess =>
      have hleft : (0 : UInt32).toNat + 0xFFFFFFFF = 0xFFFFFFFF := rfl
      rw [processing.value_attempt_inProcess_iff hplace hpayload hleft (Nat.zero_le _),
        le_leadingFailures_iff]
  | requeue =>
      have hnext : nextCount? 0 = some 1 := rfl
      rw [processing.perform_attempt hnext, Performance.value_after,
        processing.value_sequel_iff hpayload (processing.goesOn_of_requeue hplace ..), hplace]
      simp

/-- Processing a message has no answer exactly where a count does not fit: when all attempts
are made in the process, the budget is the greatest one and the handler fails all the way; or
when the broker brings messages again, the message has the greatest count and the handler
fails once, which could be compensated for.  Cancelling the token never causes it: a course
that ends so is one of processing without cancellation. -/
theorem countOverflow_iff (processing : Processing D α) (message : Inbound) (supply : Supply) :
  ((processing.processed H message supply).value = .error .countOverflow
      ↔ ∃ payload, processing.format.decode? message.payload = some payload
        ∧ processing.Overflows message payload supply)
    ∧ ∀ turns : List (Turn (Request D H) Request.Reply),
      Course (processing.process message) turns (.error .countOverflow) →
        ∃ given, processing.processed H message given
          = ⟨actsOf turns, .error .countOverflow, supply⟩
  := by
  cases hpayload : processing.format.decode? message.payload with
  | none =>
      rw [processing.processed_of_unreadable hpayload]
      constructor
      · simp
      · intro turns hcourse
        rw [processing.process_of_unreadable hpayload] at hcourse
        obtain ⟨-, hanswer⟩ := Quiet.noted _ _ turns _ hcourse
        contradiction
  | some payload =>
      constructor
      · rw [processing.value_processed_iff hpayload]
        simp
      · intro turns hcourse
        have hattempted := processing.attempted_of_process hpayload hcourse
        have hanswer : .error .countOverflow ≠ Answer.failed .cancelled := by
          simp [Answer.failed]
        apply exists_perform_eq hcourse
        apply Attempted.undisturbed processing hattempted hanswer

/-- A tick that was brought as often as can be counted is cancelled while its handler is run. -/
theorem countOverflow_of_worn_tick :
  let turns : List (Turn (Request (Unit × Context) Empty) Request.Reply) :=
    [⟨.isCancelled, false⟩,
      ⟨.dispatch ((), (tick 0xFFFFFFFF).context), .error (.failed "late")⟩]
  Course ((ticking .requeue none).process (tick 0xFFFFFFFF)) turns (.error .countOverflow)
    ∧ ∃ given, (ticking .requeue none).processed Empty (tick 0xFFFFFFFF) given
      = ⟨actsOf turns, .error .countOverflow, .ofOutcomes []⟩
  := by
  intro turns
  have hpayload : (ticking .requeue none).format.decode? (tick 0xFFFFFFFF).payload = some () := rfl
  have hcourse : Course ((ticking .requeue none).process (tick 0xFFFFFFFF)) turns
      (.error .countOverflow) := by
    rw [process_eq_attempt _ hpayload]
    exact course_history Supply.reply
      ((ticking .requeue none).attempt (H := Empty) (tick 0xFFFFFFFF) () 0)
      (.ofOutcomes [.error (.failed "late")])
  obtain ⟨-, hcauses⟩ := countOverflow_iff (H := Empty) (ticking .requeue none) (tick 0xFFFFFFFF)
    (.ofOutcomes [])
  exact ⟨hcourse, hcauses turns hcourse⟩

end Processing

/-- A tick whose publisher says that it was dead as often as can be counted. -/
def wornTick : Broker.Delivery where
  tag := 7
  properties :=
    { headers := some (.ofList [("x-death", .array [.table [("count", .int64 4294967295)]])]) }
  payload := ByteArray.empty

/-- A single delivery can make a count overflow. -/
theorem countOverflow_of_delivery :
  let time := (tick 0).context.createdAt
  ((ticking .requeue none).processed Empty
      (wornTick.message tickRoute (tick 0).context.id time time)
      (.ofOutcomes [.error (.failed "late")])).value
    = .error .countOverflow
  := by
  intro time
  have hpayload : (ticking .requeue none).format.decode?
      (wornTick.message tickRoute (tick 0).context.id time time).payload
    = some () := rfl
  have hcount : (wornTick.message tickRoute (tick 0).context.id time time).context.retries
      = 0xFFFFFFFF := by
    decide
  apply (Processing.value_processed_iff _ hpayload _).mpr
  exact ⟨hcount, "late", rfl, rfl⟩

end AmqpBus

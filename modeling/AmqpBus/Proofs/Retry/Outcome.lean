import AmqpBus.Proofs.Handling
import AmqpBus.Proofs.Retry.Attempt
import AmqpBus.Proofs.Retry.Failures
import AmqpBus.Proofs.Ticks

/-!
# What follows an outcome

The performance of each part of processing that comes after a dispatch, written down
outright: of compensating for an error, of the refusal of a message, of a failure that is
left to the broker, and of a budget that is used up.  Together they give the performance
of one attempt.
-/

namespace AmqpBus

open Operation

variable {D H α : Type}

/-- The message of a reject event in a context, or why there is none. -/
def Naming.rejection (naming : Naming) (event : RejectEvent) (context : Context) :
    Except BusError Outbound :=
  match naming.resolveRejection event.type with
  | .error error => .error error
  | .ok route =>
    match event.payload? with
    | none => .error (.serialization route.messageType)
    | some payload => .ok { route, payload, context, options := {} }

/-- The answer, provided that something went well before. -/
def Answer.provided (answer : Answer) : Except BusError Unit → Answer
  | .ok () => answer
  | .error error => .failed error

/-! ### Publishing a reject event -/

/-- Handing over a message, or failing where there is none. -/
def Supply.handOver (supply : Supply) :
    Except BusError Outbound → Performance D (Except BusError Unit)
  | .error error => ⟨[], .error error, supply⟩
  | .ok message =>
    ⟨[.publish message (some supply.publications.head)],
      supply.publications.head.mapError .transport,
      { supply with publications := supply.publications.tail }⟩

theorem perform_handOver (message : Outbound) (supply : Supply) :
  (Naming.handOver message : Operation D H (Except BusError Unit)).perform supply
    = supply.handOver (.ok message)
  := by
  rw [Naming.handOver, Supply.handOver]
  cases h : supply.publications.head with
  | ok done => simp [h, Except.mapError]
  | error error => simp [h, Except.mapError]

theorem perform_publishRejection (naming : Naming) (event : RejectEvent) (context : Context)
    (supply : Supply) :
  (naming.publishRejection event context : Operation D H (Except BusError Unit)).perform supply
    = supply.handOver (naming.rejection event context)
  := by
  rw [Naming.publishRejection, Naming.rejection]
  cases naming.resolveRejection event.type with
  | error error => rfl
  | ok route =>
      cases event.payload? with
      | none => rfl
      | some payload => apply perform_handOver

namespace Processing

variable (processing : Processing D α)

/-- Compensating for an error. -/
def compensation (message : Inbound) (payload : α) (error : HandlerError) (supply : Supply) :
    Performance D (Except BusError Unit) :=
  match processing.failures.toReject with
  | none => ⟨[], .ok (), supply⟩
  | some toReject =>
    supply.handOver (processing.naming.rejection (toReject payload error) message.context)

@[simp]
theorem perform_told (outcome : Except BusError Unit) (supply : Supply) :
  (told outcome : Operation D H Unit).perform supply = ⟨[], (), supply⟩
  := by
  cases outcome <;> rfl

theorem perform_compensate {message : Inbound} {payload : α}
    (hpayload : processing.format.decode? message.payload = some payload)
    (error : HandlerError) (supply : Supply) :
  (processing.compensate message error : Operation D H (Except BusError Unit)).perform supply
    = processing.compensation message payload error supply
  := by
  cases hreject : processing.failures.toReject with
  | none =>
      rw [compensate, compensation, hreject]
      rfl
  | some toReject =>
      rw [processing.compensate_eq message error hreject, compensation, hreject]
      simp only [decode, hpayload, perform_bind, perform_pure, perform_publishRejection]
      simp

/-! ### Answers -/

/-- The answer when the budget is used up. -/
def exhaustion (message : Inbound) (attempts : UInt32) : Answer :=
  if processing.failures.rethrow then .failed (.exhausted message.messageType attempts)
  else .ok .ack

/-- The refusal of a message. -/
def refusal (message : Inbound) (payload : α) (reason : Refusal) (supply : Supply) :
    Performance D Answer :=
  if processing.failures.toReject.isSome then
    (processing.compensation message payload (.rejected reason) supply).map
      (Answer.provided (.ok .ack))
  else
    ⟨[], if processing.failures.rethrow then .failed (.rejected reason) else .ok .ack, supply⟩

theorem refusal_of_none (h : processing.failures.toReject = none) (message : Inbound)
    (payload : α) (reason : Refusal) (supply : Supply) :
  processing.refusal message payload reason supply
    = ⟨[], if processing.failures.rethrow then .failed (.rejected reason) else .ok .ack, supply⟩
  := by
  simp [refusal, h]

theorem refusal_of_some {toReject : α → HandlerError → RejectEvent}
    (h : processing.failures.toReject = some toReject) (message : Inbound) (payload : α)
    (reason : Refusal) (supply : Supply) :
  processing.refusal message payload reason supply
    = (supply.handOver (processing.naming.rejection (toReject payload (.rejected reason))
        message.context)).map (Answer.provided (.ok .ack))
  := by
  simp [refusal, compensation, h]

/-- A failure that is left to the broker. -/
def handingBack (message : Inbound) (payload : α) (cause : String) (supply : Supply) :
    Performance D Answer :=
  if message.context.retries < processing.strategy.retries then
    ⟨[], .ok (.retryAfter processing.strategy.interval), supply⟩
  else
    (processing.compensation message payload (.failed cause) supply).map
      (Answer.provided (processing.exhaustion message (message.context.retries + 1)))

theorem perform_exhausted (message : Inbound) (attempts : UInt32) (supply : Supply) :
  (processing.exhausted message attempts : Operation D H Answer).perform supply
    = ⟨[], processing.exhaustion message attempts, supply⟩
  := by
  rw [exhausted, exhaustion]
  cases processing.failures.rethrow <;> rfl

theorem perform_refused {message : Inbound} {payload : α}
    (hpayload : processing.format.decode? message.payload = some payload)
    (reason : Refusal) (supply : Supply) :
  (processing.refused message reason : Operation D H Answer).perform supply
    = processing.refusal message payload reason supply
  := by
  rw [refused, refusal]
  split
  · rw [perform_bind, processing.perform_compensate hpayload]
    obtain ⟨acts, outcome, left⟩ :=
      processing.compensation message payload (.rejected reason) supply
    cases outcome <;> simp [Answer.provided]
  · cases processing.failures.rethrow <;> rfl

theorem perform_requeued {message : Inbound} {payload : α}
    (hpayload : processing.format.decode? message.payload = some payload)
    (hcount : message.context.retries ≠ 0xFFFFFFFF) (cause : String) (supply : Supply) :
  (processing.requeued message cause : Operation D H Answer).perform supply
    = processing.handingBack message payload cause supply
  := by
  rw [requeued, handingBack]
  split
  · rfl
  · rw [perform_bind, processing.perform_compensate hpayload]
    obtain ⟨acts, outcome, left⟩ :=
      processing.compensation message payload (.failed cause) supply
    cases outcome with
    | error error => simp [Answer.provided]
    | ok done => simp [Answer.provided, nextCount?, hcount, perform_exhausted]

/-! ### One attempt -/

/-- What comes after the last attempt, by its outcome. -/
def closing (message : Inbound) (payload : α) (attempt : UInt32) (supply : Supply) :
    Except HandlerError Unit → Performance D Answer
  | .ok () => ⟨[], .ok .ack, supply⟩
  | .error (.domain _) => ⟨[], .ok .ack, supply⟩
  | .error (.rejected reason) => processing.refusal message payload reason supply
  | .error (.failed cause) =>
    match processing.strategy.place with
    | .inProcess => ⟨[], processing.exhaustion message attempt, supply⟩
    | .requeue => processing.handingBack message payload cause supply

/-- The pauses between two attempts. -/
def rest : List (Act D) :=
  if processing.strategy.interval = 0 then [] else [.pause processing.strategy.interval true]

theorem perform_wait (supply : Supply) :
  (processing.wait : Operation D H Bool).perform supply = ⟨processing.rest, true, supply⟩
  := by
  rw [wait, rest]
  split <;> rfl

/-- Whether an attempt with an outcome is followed by another one in the same process. -/
def goesOn (attempt : UInt32) : Except HandlerError Unit → Bool
  | .error (.failed _) =>
    processing.strategy.place = .inProcess && attempt ≤ processing.strategy.retries
  | _ => false

theorem goesOn_of_not_isFailure {outcome : Except HandlerError Unit}
    (h : isFailure outcome = false) (attempt : UInt32) :
  processing.goesOn attempt outcome = false
  := by
  match outcome, h with
  | .ok (), _ => rfl
  | .error (.domain _), _ => rfl
  | .error (.rejected _), _ => rfl

theorem goesOn_of_isFailure {outcome : Except HandlerError Unit} (h : isFailure outcome)
    (hplace : processing.strategy.place = .inProcess) (attempt : UInt32) :
  processing.goesOn attempt outcome = decide (attempt ≤ processing.strategy.retries)
  := by
  obtain ⟨cause, rfl⟩ := exists_cause_of_isFailure h
  simp [goesOn, hplace]

theorem goesOn_of_requeue (hplace : processing.strategy.place = .requeue) (attempt : UInt32)
    (outcome : Except HandlerError Unit) :
  processing.goesOn attempt outcome = false
  := by
  match outcome with
  | .ok () => rfl
  | .error (.domain _) => rfl
  | .error (.rejected _) => rfl
  | .error (.failed _) => simp [goesOn, hplace]

/-- Only a failure asks how many attempts there were. -/
theorem closing_eq_of_not_isFailure {outcome : Except HandlerError Unit}
    (h : isFailure outcome = false) (message : Inbound) (payload : α) (first second : UInt32)
    (supply : Supply) :
  processing.closing message payload first supply outcome
    = processing.closing message payload second supply outcome
  := by
  match outcome, h with
  | .ok (), _ => rfl
  | .error (.domain _), _ => rfl
  | .error (.rejected _), _ => rfl

theorem sequel_of_goesOn {count : UInt32} {outcome : Except HandlerError Unit}
    (h : processing.goesOn count outcome) (message : Inbound) :
  (processing.sequel message count outcome : Operation D H Answer) = (do
    warn "error whiling handling msg, retrying"
    if ← processing.wait then processing.attempts message none count
    else return .failed .cancelled)
  := by
  match outcome with
  | .error (.failed _) =>
      simp only [goesOn, Bool.and_eq_true, decide_eq_true_eq] at h
      simp [sequel, h.1, h.2]

theorem perform_sequel_of_goesOn {count : UInt32} {outcome : Except HandlerError Unit}
    (h : processing.goesOn count outcome) (message : Inbound) (supply : Supply) :
  (processing.sequel message count outcome : Operation D H Answer).perform supply
    = ((processing.attempts message none count : Operation D H Answer).perform supply).after
        processing.rest
  := by
  simp [processing.sequel_of_goesOn h, perform_wait]

theorem perform_sequel_of_last {message : Inbound} {payload : α}
    (hpayload : processing.format.decode? message.payload = some payload)
    (hcount : processing.strategy.place = .requeue → message.context.retries ≠ 0xFFFFFFFF)
    {count : UInt32} {outcome : Except HandlerError Unit}
    (hlast : processing.goesOn count outcome = false) (supply : Supply) :
  (processing.sequel message count outcome : Operation D H Answer).perform supply
    = processing.closing message payload count supply outcome
  := by
  match outcome with
  | .ok () => simp [sequel, closing]
  | .error (.domain _) => simp [sequel, closing]
  | .error (.rejected _) => apply processing.perform_refused hpayload
  | .error (.failed _) =>
      rw [sequel, closing]
      cases hplace : processing.strategy.place with
      | requeue => apply processing.perform_requeued hpayload (hcount hplace)
      | inProcess =>
          have hused : ¬count ≤ processing.strategy.retries := by
            simpa [goesOn, hplace] using hlast
          simp [hused, perform_exhausted]

/-- An attempt runs the handler with the payload, and then the next attempt is made or
processing closes. -/
theorem perform_attempts {message : Inbound} {payload : α} {unused : Option α}
    (hpayload : processing.format.decode? message.payload = some payload)
    (hcount : processing.strategy.place = .requeue → message.context.retries ≠ 0xFFFFFFFF)
    (hunused : unused = none ∨ unused = some payload) {made attempt : UInt32}
    (hattempt : nextCount? made = some attempt) (supply : Supply) :
  (processing.attempts message unused made : Operation D H Answer).perform supply
    = (if processing.goesOn attempt supply.outcomes.head then
          ((processing.attempts message none attempt : Operation D H Answer).perform
            { supply with outcomes := supply.outcomes.tail }).after processing.rest
        else
          processing.closing message payload attempt
            { supply with outcomes := supply.outcomes.tail } supply.outcomes.head).after
        [.dispatch (processing.call payload message.context) supply.outcomes.head]
  := by
  rw [processing.attempts_eq hpayload hunused, processing.perform_attempt hattempt]
  cases hgoes : processing.goesOn attempt supply.outcomes.head with
  | true => rw [processing.perform_sequel_of_goesOn hgoes, if_pos rfl]
  | false =>
      rw [processing.perform_sequel_of_last hpayload hcount hgoes, if_neg Bool.false_ne_true]

/-! ### Processing a message -/

/-- The performance of processing a message. -/
def processed (H : Type) (message : Inbound) (supply : Supply) : Performance D Answer :=
  (processing.process message : Operation D H Answer).perform supply

theorem processed_of_unreadable {message : Inbound}
    (hpayload : processing.format.decode? message.payload = none) (supply : Supply) :
  processing.processed H message supply = ⟨[], .ok .reject, supply⟩
  := by
  rw [processed, process, decode, hpayload]
  rfl

theorem processed_eq {message : Inbound} {payload : α}
    (hpayload : processing.format.decode? message.payload = some payload) (supply : Supply) :
  processing.processed H message supply
    = (processing.attempts message (some payload) 0 : Operation D H Answer).perform supply
  := by
  rw [processed, process, decode, hpayload]
  rfl

/-- Where the broker brings messages again, one attempt is made. -/
theorem processed_requeue {message : Inbound} {payload : α}
    (hplace : processing.strategy.place = .requeue)
    (hcount : message.context.retries < 0xFFFFFFFF)
    (hpayload : processing.format.decode? message.payload = some payload) (supply : Supply) :
  processing.processed H message supply
    = (processing.closing message payload 1 { supply with outcomes := supply.outcomes.tail }
        supply.outcomes.head).after
      [.dispatch (processing.call payload message.context) supply.outcomes.head]
  := by
  have hnext : nextCount? 0 = some 1 := rfl
  have hne : message.context.retries ≠ 0xFFFFFFFF := by
    intro hmax
    simp [hmax] at hcount
  rw [processing.processed_eq hpayload,
    processing.perform_attempts hpayload (fun _ => hne) (.inr rfl) hnext,
    processing.goesOn_of_requeue hplace]
  rfl

/-! ### What processing closes with -/

theorem isSome_of_mem_handOver {supply : Supply} {rejection : Except BusError Outbound}
    {act : Act D} (h : act ∈ (supply.handOver rejection).acts) :
  act.publication?.isSome
  := by
  cases rejection with
  | error error => contradiction
  | ok message =>
      obtain rfl := List.mem_singleton.mp h
      rfl

theorem isSome_of_mem_compensation {message : Inbound} {payload : α} {error : HandlerError}
    {supply : Supply} {act : Act D}
    (h : act ∈ (processing.compensation message payload error supply).acts) :
  act.publication?.isSome
  := by
  rw [compensation] at h
  split at h
  · contradiction
  · apply isSome_of_mem_handOver h

/-- After the last attempt there are only publications. -/
theorem isSome_of_mem_closing {message : Inbound} {payload : α} {attempt : UInt32}
    {outcome : Except HandlerError Unit} {supply : Supply} {act : Act D}
    (h : act ∈ (processing.closing message payload attempt supply outcome).acts) :
  act.publication?.isSome
  := by
  match outcome with
  | .ok () => contradiction
  | .error (.domain _) => contradiction
  | .error (.rejected _) =>
      rw [closing, refusal] at h
      split at h
      · apply processing.isSome_of_mem_compensation h
      · contradiction
  | .error (.failed _) =>
      rw [closing] at h
      split at h
      · contradiction
      · rw [handingBack] at h
        split at h
        · contradiction
        · apply processing.isSome_of_mem_compensation h

end Processing

/-! ### Processing ticks -/

/-- Processing ticks with up to three attempts after the first one. -/
def ticking (place : RetryPlace) (toReject : Option (Unit → HandlerError → RejectEvent)) :
    Processing (Unit × Context) Unit where
  naming := tickNaming
  strategy := { place, retries := 3, interval := .ofSeconds 2 }
  format := tickFormat
  call := Prod.mk
  failures := { toReject, rethrow := true }

/-- Processing the ticks of a bus that they are registered with. -/
def clocking (place : RetryPlace) : Processing (Unit × Context) Unit :=
  { ticking place none with naming := clockNaming }

/-- Surroundings in which all goes well but for the given outcomes of the handler. -/
def Supply.ofOutcomes (outcomes : List (Except HandlerError Unit)) : Supply where
  outcomes := outcomes.foldr Stream'.cons (Stream'.const (.ok ()))
  publications := Stream'.const (.ok ())
  subscriptions := Stream'.const (.ok ())
  contexts := Stream'.const (tick 0).context

end AmqpBus

import AmqpBus.Proofs.Performance
import AmqpBus.Retry.Processing

/-!
# One attempt

The attempts to process a message as they follow each other.  Where the payload can be read,
each of them asks whether the token is cancelled, runs the handler, and goes on by the
outcome, which may lead to the next attempt.
-/

namespace AmqpBus.Processing

open Interaction Operation

variable {D H α : Type} (processing : Processing D α)

/-- What follows the outcome of an attempt, which is counted from one. -/
def sequel (message : Inbound) (count : UInt32) :
    Except HandlerError Unit → Operation D H Answer
  | .ok () => do
    debug "message successfully processed"
    return .ok .ack
  | .error (.domain _) => do
    warn "domain failure, removing message from queue"
    return .ok .ack
  | .error (.rejected refusal) => processing.refused message refusal
  | .error (.failed cause) =>
    match processing.strategy.place with
    | .requeue => processing.requeued message cause
    | .inProcess => do
      if count ≤ processing.strategy.retries then
        warn "error whiling handling msg, retrying"
        if ← processing.wait then processing.attempts message none count
        else return .failed .cancelled
      else processing.exhausted message count

/-- The attempt after `made` others, with a payload that was read. -/
def attempt (message : Inbound) (payload : α) (made : UInt32) : Operation D H Answer := do
  if ← isCancelled then
    warn "processing cancelled"
    return .failed .cancelled
  match nextCount? made with
  | none => return .error .countOverflow
  | some count =>
    let outcome ← dispatch (processing.call payload message.context)
    processing.sequel message count outcome

/-! ### Counting attempts -/

/-- Only the greatest count has no next one. -/
theorem nextCount?_eq_none_iff {count : UInt32} :
  nextCount? count = none ↔ count.toNat = 0xFFFFFFFF
  := by
  rw [nextCount?, ite_eq_left_iff, ← UInt32.toNat_inj]
  simp

theorem exists_nextCount? {count : UInt32} (h : count.toNat < 0xFFFFFFFF) :
  ∃ next, nextCount? count = some next ∧ next.toNat = count.toNat + 1
  := by
  cases hnext : nextCount? count with
  | none =>
      rw [nextCount?_eq_none_iff] at hnext
      omega
  | some next => exact ⟨next, rfl, toNat_of_nextCount? hnext⟩

/-! ### Attempts as programs -/

theorem decode_eq {message : Inbound} {payload : α}
    (hpayload : processing.format.decode? message.payload = some payload) :
  (processing.decode message : Operation D H (Option α)) = pure (some payload)
  := by
  rw [decode, hpayload]

theorem payloadFor_eq {message : Inbound} {payload : α} {unused : Option α}
    (hpayload : processing.format.decode? message.payload = some payload)
    (hunused : unused = none ∨ unused = some payload) :
  (processing.payloadFor message unused : Operation D H (Option α)) = pure (some payload)
  := by
  obtain rfl | rfl := hunused
  · rw [payloadFor, processing.decode_eq hpayload]
  · rfl

/-- Where the payload can be read, the attempts are one attempt with what follows it. -/
theorem attempts_eq {message : Inbound} {payload : α} {unused : Option α}
    (hpayload : processing.format.decode? message.payload = some payload)
    (hunused : unused = none ∨ unused = some payload) (made : UInt32) :
  (processing.attempts message unused made : Operation D H Answer)
    = processing.attempt message payload made
  := by
  rw [attempts, attempt]
  congr 1
  funext cancelled
  cases cancelled with
  | true => rfl
  | false =>
      rw [processing.payloadFor_eq hpayload hunused]
      simp only [pure_bind, Bool.false_eq_true, if_false]
      split
      · simp_all
      · rename_i hcount
        rw [hcount]
        rfl

/-- A message that cannot be read is rejected before any attempt. -/
theorem process_of_unreadable {message : Inbound}
    (hpayload : processing.format.decode? message.payload = none) :
  (processing.process message : Operation D H Answer) = (do
    complain "failure to parse payload, rejecting message"
    return .ok .reject)
  := by
  rw [process, decode, hpayload]
  rfl

/-- Where the payload can be read, processing is the first attempt with what follows it. -/
theorem process_eq_attempt {message : Inbound} {payload : α}
    (hpayload : processing.format.decode? message.payload = some payload) :
  (processing.process message : Operation D H Answer)
    = processing.attempt message payload 0
  := by
  rw [process, processing.decode_eq hpayload, pure_bind]
  apply processing.attempts_eq hpayload (.inr rfl)

/-! ### How an attempt begins -/

/-- The token is found to be cancelled, or the attempts cannot be counted any more, or the
handler is run. -/
theorem attempt_cases {message : Inbound} {payload : α} {made : UInt32}
    {turns : List (Turn (Request D H) Request.Reply)} {answer : Answer}
    (h : Course (processing.attempt message payload made) turns answer) :
  (turns = [⟨.isCancelled, true⟩, ⟨.log ⟨.warning, "processing cancelled"⟩, ()⟩]
      ∧ answer = .failed .cancelled)
    ∨ (nextCount? made = none ∧ turns = [⟨.isCancelled, false⟩]
      ∧ answer = .error .countOverflow)
    ∨ ∃ count outcome rest, nextCount? made = some count
      ∧ turns = ⟨.isCancelled, false⟩
        :: ⟨.dispatch (processing.call payload message.context), outcome⟩ :: rest
      ∧ Course (processing.sequel message count outcome) rest answer
  := by
  rw [attempt] at h
  obtain ⟨_, cancelled, rest, hcheck, hrest, rfl⟩ := course_bind_iff.mp h
  obtain rfl := course_request_iff.mp hcheck
  cases cancelled with
  | true =>
      left
      obtain ⟨_, _, _, hwarn, hanswer, rfl⟩ := course_bind_iff.mp hrest
      obtain rfl := course_request_iff.mp hwarn
      obtain ⟨rfl, rfl⟩ := course_pure_iff.mp hanswer
      exact ⟨rfl, rfl⟩
  | false =>
      right
      cases hnext : nextCount? made with
      | none =>
          left
          rw [hnext] at hrest
          obtain ⟨rfl, rfl⟩ := course_pure_iff.mp hrest
          exact ⟨rfl, rfl, rfl⟩
      | some count =>
          right
          rw [hnext] at hrest
          obtain ⟨_, outcome, last, hdispatch, hlast, rfl⟩ := course_bind_iff.mp hrest
          obtain rfl := course_request_iff.mp hdispatch
          exact ⟨count, outcome, last, rfl, rfl, hlast⟩

/-! ### Undisturbed attempts -/

/-- An undisturbed attempt runs the handler and goes on by the outcome. -/
theorem perform_attempt {made count : UInt32} (hnext : nextCount? made = some count)
    (message : Inbound) (payload : α) (supply : Supply) :
  (processing.attempt message payload made : Operation D H Answer).perform supply
    = ((processing.sequel message count supply.outcomes.head : Operation D H Answer).perform
        { supply with outcomes := supply.outcomes.tail }).after
      [.dispatch (processing.call payload message.context) supply.outcomes.head]
  := by
  simp [attempt, hnext]

/-- An attempt that cannot be counted any more is not made. -/
theorem perform_attempt_of_overflow {made : UInt32} (hnext : nextCount? made = none)
    (message : Inbound) (payload : α) (supply : Supply) :
  (processing.attempt message payload made : Operation D H Answer).perform supply
    = ⟨[], .error .countOverflow, supply⟩
  := by
  simp [attempt, hnext]

end AmqpBus.Processing

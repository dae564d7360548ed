import AmqpBus.Handling
import AmqpBus.Publishing
import AmqpBus.Retry.Strategy

/-!
# Processing a delivery

A delivered message is decoded and dispatched to its handler, and the outcome decides
what becomes of it.  A message that cannot be decoded is rejected; one that is handled
or invalid is acknowledged; one that the handler refuses is compensated by a reject
event; and one whose handler broke down is tried again by the retry strategy, up to its
budget.  Attempts are counted in 32 bits, and a count that does not fit is a fault of its
own.
-/

namespace AmqpBus

open Operation

/-- What a subscription says about failures: the reject event that stands for one, if any,
and whether errors are passed on to the transport. -/
structure FailureOptions (α : Type) where
  toReject : Option (α → HandlerError → RejectEvent) := none
  rethrow : Bool := false

/-- Why a delivery has no acknowledgement: an error of the bus, or a count that does not
fit 32 bits. -/
inductive ProcessingFault where
  | bus (error : BusError)
  | countOverflow
  deriving DecidableEq

/-- What becomes of a delivery. -/
abbrev Answer := Except ProcessingFault Acknowledgement

/-- The count after a count, if it fits 32 bits. -/
def nextCount? (count : UInt32) : Option UInt32 :=
  if count = 0xFFFFFFFF then none else some (count + 1)

theorem toNat_of_nextCount? {count next : UInt32} (h : nextCount? count = some next) :
  next.toNat = count.toNat + 1
  := by
  have hcount : count ≠ 0xFFFFFFFF := by
    intro hmax
    simp [nextCount?, hmax] at h
  have hne : count.toNat ≠ 0xFFFFFFFF := by
    intro hmax
    apply hcount
    apply UInt32.toNat_inj.mp
    simpa using hmax
  have hlt := count.toNat_lt
  simp only [nextCount?, if_neg hcount, Option.some.injEq] at h
  rw [← h, UInt32.toNat_add]
  simp
  omega

theorem nextCount?_of_ne {count : UInt32} (h : count ≠ 0xFFFFFFFF) :
  nextCount? count = some (count + 1)
  := if_neg h

/-- The answer of an error of the bus. -/
def Answer.failed (error : BusError) : Answer := .error (.bus error)

/-- All that processing depends on beside the message: the names of the bus, the retry
strategy, the format of the message type, the call that dispatches a message in a context,
and what the subscription says about failures. -/
structure Processing (D α : Type) where
  naming : Naming
  strategy : RetryStrategy
  format : Format α
  call : α → Context → D
  failures : FailureOptions α

namespace Processing

variable {D H α : Type} (processing : Processing D α)

/-- Reads the payload of a message. -/
def decode (message : Inbound) : Operation D H (Option α) := do
  match processing.format.decode? message.payload with
  | some payload => return some payload
  | none =>
    complain "failure to parse payload, rejecting message"
    return none

/-- Publishes the reject event for an error, if there is one. -/
def compensate (message : Inbound) (error : HandlerError) :
    Operation D H (Except BusError Unit) :=
  match processing.failures.toReject with
  | none => return .ok ()
  | some toReject => do
    match ← processing.decode message with
    | none => return .ok ()
    | some payload =>
      let handling : Handling (Operation D H) BusError Unit :=
        { onSuccess := some fun _ => debug "compensation event published"
          onError := some
            { callback := fun _ => complain "failure to publish compensation event"
              rethrow := true } }
      let event := toReject payload error
      let outcome ← handling.execute (processing.naming.publishRejection event message.context)
      return outcome.map fun _ => ()

/-- The answer when the budget is used up. -/
def exhausted (message : Inbound) (attempts : UInt32) : Operation D H Answer := do
  complain "too many attempts, removing message from queue"
  if processing.failures.rethrow then
    return .failed (.exhausted message.messageType attempts)
  else return .ok .ack

/-- The answer when the handler refuses the message. -/
def refused (message : Inbound) (refusal : Refusal) : Operation D H Answer := do
  if processing.failures.toReject.isSome then
    match ← processing.compensate message (.rejected refusal) with
    | .error error => return .failed error
    | .ok () => return .ok .ack
  else if processing.failures.rethrow then return .failed (.rejected refusal)
  else
    warn "message rejected without compensation"
    return .ok .ack

/-- The answer when the handler broke down and the broker is to bring the message
again. -/
def requeued (message : Inbound) (cause : String) : Operation D H Answer := do
  if message.context.retries < processing.strategy.retries then
    warn "error whiling handling msg, requeuing for latter"
    return .ok (.retryAfter processing.strategy.interval)
  else
    match ← processing.compensate message (.failed cause) with
    | .error error => return .failed error
    | .ok () =>
      match nextCount? message.context.retries with
      | none => return .error .countOverflow
      | some attempts => processing.exhausted message attempts

/-- Waits between two attempts. -/
def wait : Operation D H Bool :=
  if processing.strategy.interval = 0 then return true
  else pause processing.strategy.interval

/-- The payload for the next attempt: the one that was read before or else the one that is
read now. -/
def payloadFor (message : Inbound) : Option α → Operation D H (Option α)
  | some payload => return some payload
  | none => processing.decode message

/-- Makes the attempt after `made` others, with a payload that was read before unless it
has been used. -/
def attempts (message : Inbound) (unused : Option α) (made : UInt32) : Operation D H Answer := do
  if ← isCancelled then
    warn "processing cancelled"
    return .failed .cancelled
  match ← processing.payloadFor message unused with
  | none => return .ok .reject
  | some payload =>
    match _hcount : nextCount? made with
    | none => return .error .countOverflow
    | some attempt =>
      match ← dispatch (processing.call payload message.context) with
      | .ok () =>
        debug "message successfully processed"
        return .ok .ack
      | .error (.domain _) =>
        warn "domain failure, removing message from queue"
        return .ok .ack
      | .error (.rejected refusal) => processing.refused message refusal
      | .error (.failed cause) =>
        match processing.strategy.place with
        | .requeue => processing.requeued message cause
        | .inProcess =>
          if attempt ≤ processing.strategy.retries then
            warn "error whiling handling msg, retrying"
            if ← processing.wait then attempts message none attempt
            else return .failed .cancelled
          else processing.exhausted message attempt
termination_by UInt32.size - made.toNat
decreasing_by
  have hattempt := toNat_of_nextCount? _hcount
  have hlt := attempt.toNat_lt_size
  omega

/-- Processes a message. -/
def process (message : Inbound) : Operation D H Answer := do
  match ← processing.decode message with
  | none => return .ok .reject
  | some payload => processing.attempts message (some payload) 0

/-- Processes a message when no other one of the subscription is being processed. -/
def handle (message : Inbound) : Operation D H Answer := do
  if ← acquire then
    let answer ← processing.process message
    release
    return answer
  else return .failed .cancelled

end Processing

end AmqpBus

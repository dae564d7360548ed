import AmqpBus.Proofs.Ensures
import AmqpBus.Proofs.Handling
import AmqpBus.Proofs.Retry.Attempt

/-!
# What processing a message asks

Processing a message, with all the attempts and whatever follows them, asks little of its
surroundings, whatever the replies are.  It leaves the permit of the subscription alone and
makes no subscription, and all that it hands to the transport are reject events, in the
context of the message and with nothing asked for beside them.
-/

namespace AmqpBus

open Interaction

variable {D H α : Type}

/-- An outbound message is a reject event as it is published in a context. -/
def Naming.Rejects (naming : Naming) (context : Context) (outbound : Outbound) : Prop :=
  ∃ event : RejectEvent, naming.resolveRejection event.type = .ok outbound.route
    ∧ event.payload? = some outbound.payload ∧ outbound.context = context
    ∧ outbound.options = {}

namespace Processing

open Operation

/-- What processing a message may ask. -/
def MayAsk (processing : Processing D α) (message : Inbound) : Request D H → Prop
  | .isCancelled => True
  | .dispatch _ => True
  | .pause _ => True
  | .publish outbound => processing.naming.Rejects message.context outbound
  | .log _ => True
  | _ => False

/-- An operation that asks no more than processing a message may. -/
def Confined (processing : Processing D α) (message : Inbound) {β : Type}
    (operation : Operation D H β) : Prop :=
  operation.Asks (fun _ _ => True) (processing.MayAsk message)

/-- What may be asked when a message is not dispatched any more. -/
def MayConclude (processing : Processing D α) (message : Inbound) : Request D H → Prop
  | .isCancelled => True
  | .publish outbound => processing.naming.Rejects message.context outbound
  | .log _ => True
  | _ => False

/-- An operation that asks no more than may be asked when a message is not dispatched any
more. -/
def Concludes (processing : Processing D α) (message : Inbound) {β : Type}
    (operation : Operation D H β) : Prop :=
  operation.Asks (fun _ _ => True) (processing.MayConclude message)

variable (processing : Processing D α) (message : Inbound)

theorem concludes_debug (text : String) :
  processing.Concludes message (debug text : Operation D H Unit)
  := Asks.request trivial

theorem concludes_warn (text : String) :
  processing.Concludes message (warn text : Operation D H Unit)
  := Asks.request trivial

theorem concludes_complain (text : String) :
  processing.Concludes message (complain text : Operation D H Unit)
  := Asks.request trivial

/-! ### Compensation -/

theorem concludes_publish {outbound : Outbound}
    (h : processing.naming.Rejects message.context outbound) :
  processing.Concludes message
    (publish outbound : Operation D H (Option (Except BrokerError Unit)))
  := Asks.request h

theorem concludes_handOver {outbound : Outbound}
    (h : processing.naming.Rejects message.context outbound) :
  processing.Concludes message
    (Naming.handOver outbound : Operation D H (Except BusError Unit))
  := by
  rw [Naming.handOver]
  apply Asks.bind (Asks.request trivial)
  intro cancelled
  split
  · apply Asks.pure
  · apply Asks.bind (processing.concludes_debug message _)
    intro _
    apply Asks.bind (processing.concludes_publish message h)
    intro outcome
    split
    · apply Asks.pure
    · apply Asks.pure
    · apply Asks.bind (processing.concludes_complain message _)
      intro _
      apply Asks.pure

theorem concludes_publishRejection (event : RejectEvent) :
  processing.Concludes message
    (processing.naming.publishRejection event message.context :
      Operation D H (Except BusError Unit))
  := by
  rw [Naming.publishRejection]
  split
  · apply Asks.pure
  · rename_i route hroute
    split
    · apply Asks.pure
    · rename_i payload hpayload
      apply concludes_handOver
      use event, hroute, hpayload

theorem concludes_decode :
  processing.Concludes message (processing.decode message : Operation D H (Option α))
  := by
  rw [decode]
  split
  · apply Asks.pure
  · apply Asks.bind (processing.concludes_complain message _)
    intro _
    apply Asks.pure

theorem concludes_told (outcome : Except BusError Unit) :
  processing.Concludes message (told outcome : Operation D H Unit)
  := by
  cases outcome with
  | ok _ => apply concludes_debug
  | error _ => apply concludes_complain

theorem concludes_compensate (error : HandlerError) :
  processing.Concludes message
    (processing.compensate message error : Operation D H (Except BusError Unit))
  := by
  cases hreject : processing.failures.toReject with
  | none =>
      rw [compensate, hreject]
      apply Asks.pure
  | some toReject =>
      rw [processing.compensate_eq message error hreject]
      apply Asks.bind (processing.concludes_decode message)
      intro payload
      split
      · apply Asks.pure
      · apply Asks.bind (processing.concludes_publishRejection message _)
        intro outcome
        apply Asks.bind (processing.concludes_told message outcome)
        intro _
        apply Asks.pure

/-! ### Attempts -/

theorem concludes_exhausted (attempts : UInt32) :
  processing.Concludes message (processing.exhausted message attempts : Operation D H Answer)
  := by
  rw [exhausted]
  apply Asks.bind (processing.concludes_complain message _)
  intro _
  split <;> apply Asks.pure

theorem concludes_refused (reason : Refusal) :
  processing.Concludes message (processing.refused message reason : Operation D H Answer)
  := by
  rw [refused]
  split
  · apply Asks.bind (processing.concludes_compensate message _)
    intro outcome
    split <;> apply Asks.pure
  · split
    · apply Asks.pure
    · apply Asks.bind (processing.concludes_warn message _)
      intro _
      apply Asks.pure

theorem concludes_requeued (cause : String) :
  processing.Concludes message (processing.requeued message cause : Operation D H Answer)
  := by
  rw [requeued]
  split
  · apply Asks.bind (processing.concludes_warn message _)
    intro _
    apply Asks.pure
  · apply Asks.bind (processing.concludes_compensate message _)
    intro outcome
    split
    · apply Asks.pure
    · split
      · apply Asks.pure
      · apply concludes_exhausted

variable {processing message}

theorem Concludes.confined {β : Type} {operation : Operation D H β}
    (h : processing.Concludes message operation) :
  processing.Confined message operation
  := by
  apply Asks.imp h
  intro request hmay
  cases request with
  | isCancelled => trivial
  | publish outbound => apply hmay
  | log entry => trivial
  | _ => contradiction

/-- A message is not dispatched again in the process unless the handler broke down and the
strategy is to try again there. -/
theorem concludes_sequel {outcome : Except HandlerError Unit}
    (h : ∀ cause, outcome = .error (.failed cause) → processing.strategy.place = .requeue)
    (count : UInt32) :
  processing.Concludes message (processing.sequel message count outcome : Operation D H Answer)
  := by
  match outcome with
  | .ok () => exact Asks.bind (processing.concludes_debug message _) fun _ => Asks.pure _
  | .error (.domain _) =>
      exact Asks.bind (processing.concludes_warn message _) fun _ => Asks.pure _
  | .error (.rejected _) => apply concludes_refused
  | .error (.failed cause) =>
      rw [sequel, h cause rfl]
      apply concludes_requeued

theorem confined_wait :
  processing.Confined message (processing.wait : Operation D H Bool)
  := by
  rw [wait]
  split
  · apply Asks.pure
  · apply Asks.request trivial

/-- What follows an attempt is confined if the next attempt is. -/
theorem confined_sequel {count : UInt32}
    (h : processing.Confined message
      (processing.attempts message none count : Operation D H Answer))
    (outcome : Except HandlerError Unit) :
  processing.Confined message (processing.sequel message count outcome : Operation D H Answer)
  := by
  by_cases hfailed : ∃ cause, outcome = .error (.failed cause)
  · obtain ⟨cause, rfl⟩ := hfailed
    rw [sequel]
    split
    · apply (processing.concludes_requeued message cause).confined
    · split
      · apply Asks.bind (processing.concludes_warn message _).confined
        intro _
        apply Asks.bind confined_wait
        intro whole
        split
        · apply h
        · apply Asks.pure
      · apply (processing.concludes_exhausted message count).confined
  · apply Concludes.confined
    apply concludes_sequel
    intro cause hcause
    exact absurd ⟨cause, hcause⟩ hfailed

/-- By induction on the attempts that can still be counted. -/
theorem confined_attempt {payload : α}
    (hpayload : processing.format.decode? message.payload = some payload) {left : ℕ}
    {made : UInt32} (hleft : made.toNat + left = 0xFFFFFFFF) :
  processing.Confined message
    (processing.attempt message payload made : Operation D H Answer)
  := by
  induction left generalizing made with
  | zero =>
      rw [attempt, nextCount?_eq_none_iff.mpr hleft]
      apply Asks.bind (Asks.request trivial)
      intro cancelled
      split
      · apply Asks.bind (processing.concludes_warn message _).confined
        intro _
        apply Asks.pure
      · apply Asks.pure
  | succ left ih =>
      obtain ⟨count, hnext, hcount⟩ := exists_nextCount? (by omega : made.toNat < 0xFFFFFFFF)
      rw [attempt, hnext]
      apply Asks.bind (Asks.request trivial)
      intro cancelled
      split
      · apply Asks.bind (processing.concludes_warn message _).confined
        intro _
        apply Asks.pure
      · apply Asks.bind (Asks.request trivial)
        apply confined_sequel
        rw [processing.attempts_eq hpayload (.inl rfl)]
        apply ih
        omega

variable (processing message)

theorem confined_process :
  processing.Confined message (processing.process message : Operation D H Answer)
  := by
  cases hpayload : processing.format.decode? message.payload with
  | none =>
      rw [processing.process_of_unreadable hpayload]
      apply Asks.bind (processing.concludes_complain message _).confined
      intro _
      apply Asks.pure
  | some payload =>
      have hleft : (0 : UInt32).toNat + 0xFFFFFFFF = 0xFFFFFFFF := rfl
      rw [processing.process_eq_attempt hpayload]
      apply confined_attempt hpayload hleft

end Processing

/-! ### The permit of the subscription -/

/-- Whether a request is about the permit. -/
def Request.ConcernsPermit : Request D H → Prop
  | .acquire => True
  | .release => True
  | _ => False

/-- An operation that neither takes the permit nor gives it back. -/
def Operation.LeavesPermit {β : Type} (operation : Operation D H β) : Prop :=
  operation.Ensures (fun _ _ => True) (fun request => ¬request.ConcernsPermit) fun _ => True

theorem Processing.leavesPermit_process (processing : Processing D α) (message : Inbound) :
  (processing.process message : Operation D H Answer).LeavesPermit
  := by
  apply Asks.imp (processing.confined_process message)
  intro request hmay
  cases request with
  | acquire => contradiction
  | release => contradiction
  | _ => exact id

end AmqpBus

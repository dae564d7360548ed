import AmqpBus.Proofs.Interruption
import AmqpBus.Proofs.Retry.Redelivery

/-!
# The courses of processing

What processing asks and answers, whatever the replies are, written down turn by turn.  After
the last attempt at most one message is handed to the transport, if the token is not found to
be cancelled, and all else is written to the log.  Before that come the attempts, each of
which begins when the token is not found to be cancelled, and the pauses between them.
-/

namespace AmqpBus

open Interaction Operation

variable {D H α β : Type}

/-! ### Operations that only write to the log -/

namespace Operation

/-- An operation asks for nothing but entries of the log, and ends with a value. -/
def Quiet (operation : Operation D H α) (value : α) : Prop :=
  ∀ turns result, Course operation turns result →
    (∀ turn ∈ turns, turn.question.Notes) ∧ result = value

namespace Quiet

theorem pure (value : α) :
  Quiet (Pure.pure value : Operation D H α) value
  := by
  intro turns result hcourse
  obtain ⟨rfl, rfl⟩ := course_pure_iff.mp hcourse
  simp

theorem bind {operation : Operation D H α} {value : α} {next : α → Operation D H β} {result : β}
    (h : Quiet operation value) (hnext : Quiet (next value) result) :
  Quiet (operation >>= next) result
  := by
  intro turns last hcourse
  obtain ⟨first, given, second, hfirst, hsecond, rfl⟩ := course_bind_iff.mp hcourse
  obtain ⟨hnotes, rfl⟩ := h first given hfirst
  obtain ⟨hnotes', rfl⟩ := hnext second last hsecond
  exact ⟨List.forall_mem_append.mpr ⟨hnotes, hnotes'⟩, rfl⟩

theorem note (entry : LogEntry) :
  Quiet (Request.ask (.log entry) : Operation D H Unit) ()
  := by
  intro turns result hcourse
  obtain rfl := course_request_iff.mp hcourse
  exact ⟨List.forall_mem_singleton.mpr trivial, rfl⟩

theorem noted (entry : LogEntry) (value : α) :
  Quiet (Request.ask (.log entry) >>= fun _ => Pure.pure value : Operation D H α) value
  := (note entry).bind (pure value)

end Quiet

end Operation

/-! ### One publication at the end -/

/-- The courses of an operation that hands at most one message to the transport and does
nothing else that can be noticed.  If a message is due, the token is asked for first, and the
operation stops with a value of its own when that or the publication tells that the token is
cancelled. -/
inductive Closes (stopped : α) (due : Prop) :
    List (Turn (Request D H) Request.Reply) → α → Prop
  | idle {turns : List (Turn (Request D H) Request.Reply)} {value : α} (hdue : ¬due)
      (hnotes : ∀ turn ∈ turns, turn.question.Notes) : Closes stopped due turns value
  | cancelled {after : List (Turn (Request D H) Request.Reply)} (hdue : due)
      (hafter : ∀ turn ∈ after, turn.question.Notes) :
      Closes stopped due (⟨.isCancelled, true⟩ :: after) stopped
  | published {before after : List (Turn (Request D H) Request.Reply)} {message : Outbound}
      {outcome : Option (Except BrokerError Unit)} {value : α} (hdue : due)
      (hbefore : ∀ turn ∈ before, turn.question.Notes)
      (hafter : ∀ turn ∈ after, turn.question.Notes)
      (hcut : outcome = none → value = stopped) :
      Closes stopped due
        (⟨.isCancelled, false⟩ :: (before ++ [⟨.publish message, outcome⟩]) ++ after) value

theorem Closes.append {stopped value : α} {due : Prop}
    {turns notes : List (Turn (Request D H) Request.Reply)} (h : Closes stopped due turns value)
    (f : α → β) (hnotes : ∀ turn ∈ notes, turn.question.Notes) :
  Closes (f stopped) due (turns ++ notes) (f value)
  := by
  cases h with
  | idle hdue hturns => exact .idle hdue (List.forall_mem_append.mpr ⟨hturns, hnotes⟩)
  | cancelled hdue hafter => exact .cancelled hdue (List.forall_mem_append.mpr ⟨hafter, hnotes⟩)
  | published hdue hbefore hafter hcut =>
      rw [List.append_assoc]
      apply Closes.published hdue hbefore (List.forall_mem_append.mpr ⟨hafter, hnotes⟩)
      intro hnone
      rw [hcut hnone]

/-- Only the value for it tells that the token was cancelled. -/
theorem Closes.undisturbed {stopped value : α} {due : Prop}
    {turns : List (Turn (Request D H) Request.Reply)} (h : Closes stopped due turns value)
    (hvalue : value ≠ stopped) :
  ∀ turn ∈ turns, turn.question.Undisturbed turn.reply
  := by
  cases h with
  | idle hdue hnotes =>
      intro turn hturn
      apply (hnotes turn hturn).undisturbed
  | cancelled hdue hafter => contradiction
  | @published before after message outcome _ hdue hbefore hafter hcut =>
      have hsome : outcome.isSome :=
        Option.ne_none_iff_isSome.mp fun hnone => hvalue (hcut hnone)
      rw [List.cons_append, List.append_assoc, List.singleton_append]
      refine List.forall_mem_cons.mpr ⟨rfl, List.forall_mem_append.mpr
        ⟨?_, List.forall_mem_cons.mpr ⟨hsome, ?_⟩⟩⟩
      · intro turn hturn
        apply (hbefore turn hturn).undisturbed
      · intro turn hturn
        apply (hafter turn hturn).undisturbed

namespace Operation

/-- All courses of an operation hand over at most one message, at the end. -/
def Closing (stopped : α) (due : Prop) (operation : Operation D H α) : Prop :=
  ∀ turns value, Course operation turns value → Closes stopped due turns value

namespace Closing

variable {stopped : α} {due : Prop}

theorem of_quiet {operation : Operation D H α} {value : α} (h : Quiet operation value)
    (hdue : ¬due) :
  Closing stopped due operation
  := by
  intro turns result hcourse
  exact .idle hdue (h turns result hcourse).1

theorem bind (f : α → β) {operation : Operation D H α} {next : α → Operation D H β}
    (h : Closing stopped due operation) (hnext : ∀ value, Quiet (next value) (f value)) :
  Closing (f stopped) due (operation >>= next)
  := by
  intro turns result hcourse
  obtain ⟨first, value, second, hfirst, hsecond, rfl⟩ := course_bind_iff.mp hcourse
  obtain ⟨hnotes, rfl⟩ := hnext value second result hsecond
  apply (h first value hfirst).append f hnotes

theorem of_iff {other : Prop} {operation : Operation D H α} (h : Closing stopped due operation)
    (hiff : due ↔ other) :
  Closing stopped other operation
  := by
  rwa [← propext hiff]

end Closing

end Operation

/-- A message that is handed over is published at the end, if the token is not found to be
cancelled before. -/
theorem closing_handOver (message : Outbound) :
  Closing (.error .cancelled) True
    (Naming.handOver message : Operation D H (Except BusError Unit))
  := by
  intro turns result hcourse
  rw [Naming.handOver] at hcourse
  obtain ⟨_, cancelled, rest, hcheck, hrest, rfl⟩ := course_bind_iff.mp hcourse
  obtain rfl := course_request_iff.mp hcheck
  cases cancelled with
  | true =>
      obtain ⟨rfl, rfl⟩ := course_pure_iff.mp hrest
      apply Closes.cancelled trivial
      simp
  | false =>
      obtain ⟨before, _, _, hnote, hhanded, rfl⟩ := course_bind_iff.mp hrest
      obtain ⟨hbefore, -⟩ := Quiet.note _ before _ hnote
      obtain ⟨_, outcome, after, hpublish, hafter, rfl⟩ := course_bind_iff.mp hhanded
      obtain rfl := course_request_iff.mp hpublish
      rw [List.singleton_append, ← List.append_assoc before, ← List.cons_append]
      cases outcome with
      | none =>
          obtain ⟨rfl, rfl⟩ := course_pure_iff.mp hafter
          apply Closes.published trivial hbefore
          · simp
          · intro _
            rfl
      | some reply =>
          cases reply with
          | ok done =>
              obtain ⟨rfl, rfl⟩ := course_pure_iff.mp hafter
              apply Closes.published trivial hbefore
              · simp
              · intro hnone
                contradiction
          | error error =>
              obtain ⟨hnotes, rfl⟩ := Quiet.noted _ _ after result hafter
              apply Closes.published trivial hbefore hnotes
              intro hnone
              contradiction

/-- A reject event is handed over if its type has a route and it can be written. -/
theorem closing_publishRejection (naming : Naming) (event : RejectEvent) (context : Context) :
  Closing (.error .cancelled) (naming.CanReject event)
    (naming.publishRejection event context : Operation D H (Except BusError Unit))
  := by
  rw [Naming.publishRejection, Naming.CanReject]
  cases naming.resolveRejection event.type with
  | error error =>
      apply Closing.of_quiet (.pure _)
      simp
  | ok route =>
      cases event.payload? with
      | none =>
          apply Closing.of_quiet (.pure _)
          simp
      | some payload =>
          apply (closing_handOver _).of_iff
          simp

namespace Processing

variable (processing : Processing D α)

/-- A reject event can be published for an error. -/
def Compensates (payload : α) (error : HandlerError) : Prop :=
  ∃ toReject, processing.failures.toReject = some toReject
    ∧ processing.naming.CanReject (toReject payload error)

/-- Whether something is left to do after as many attempts, the last of which had an
outcome: another attempt, or a publication. -/
def NeedsMore (message : Inbound) (payload : α) (attempts : ℕ) :
    Except HandlerError Unit → Prop
  | .ok () => False
  | .error (.domain _) => False
  | .error (.rejected reason) => processing.Compensates payload (.rejected reason)
  | .error (.failed cause) =>
    match processing.strategy.place with
    | .inProcess => attempts ≤ processing.strategy.retries.toNat
    | .requeue =>
      processing.strategy.retries ≤ message.context.retries
        ∧ processing.Compensates payload (.failed cause)

/-- Where there is to be another attempt, something is left to do. -/
theorem needsMore_of_goesOn {count : UInt32} {outcome : Except HandlerError Unit}
    (h : processing.goesOn count outcome) (message : Inbound) (payload : α) :
  processing.NeedsMore message payload count.toNat outcome
  := by
  match outcome with
  | .error (.failed _) =>
      simp only [goesOn, Bool.and_eq_true, decide_eq_true_eq] at h
      simpa [NeedsMore, h.1] using UInt32.le_iff_toNat_le.mp h.2

section

variable {message : Inbound} {payload : α}
  (hpayload : processing.format.decode? message.payload = some payload)
include hpayload

/-- Compensation publishes the reject event that stands for an error, if there is one. -/
theorem closing_compensate (error : HandlerError) :
  Closing (.error .cancelled) (processing.Compensates payload error)
    (processing.compensate message error : Operation D H (Except BusError Unit))
  := by
  rw [Compensates]
  cases hreject : processing.failures.toReject with
  | none =>
      rw [compensate, hreject]
      apply Closing.of_quiet (.pure _)
      simp
  | some toReject =>
      rw [processing.compensate_eq message error hreject]
      simp only [processing.decode_eq hpayload, pure_bind]
      have hrejection := closing_publishRejection (D := D) (H := H) processing.naming
        (toReject payload error) message.context
      apply (hrejection.bind id _).of_iff
      · simp
      · intro outcome
        cases outcome with
        | ok done => apply Quiet.noted
        | error error => apply Quiet.noted

omit hpayload in
theorem quiet_exhausted (attempts : UInt32) :
  Quiet (processing.exhausted message attempts : Operation D H Answer)
    (processing.exhaustion message attempts)
  := by
  rw [exhausted, exhaustion]
  apply (Quiet.note _).bind
  split
  · apply Quiet.pure
  · apply Quiet.pure

theorem closing_refused (reason : Refusal) :
  Closing (.failed .cancelled) (processing.Compensates payload (.rejected reason))
    (processing.refused message reason : Operation D H Answer)
  := by
  rw [refused]
  split
  · apply (processing.closing_compensate hpayload (.rejected reason)).bind
      (Answer.provided (.ok .ack))
    intro outcome
    cases outcome with
    | ok done => apply Quiet.pure
    | error error => apply Quiet.pure
  · rename_i hnone
    have hdue : ¬processing.Compensates payload (.rejected reason) := by
      rintro ⟨toReject, hsome, -⟩
      simp [hsome] at hnone
    split
    · apply Closing.of_quiet (.pure _) hdue
    · apply Closing.of_quiet (.noted _ _) hdue

theorem closing_requeued (cause : String) :
  Closing (.failed .cancelled)
    (processing.strategy.retries ≤ message.context.retries
      ∧ processing.Compensates payload (.failed cause))
    (processing.requeued message cause : Operation D H Answer)
  := by
  rw [requeued]
  split
  · rename_i hlt
    apply Closing.of_quiet (.noted _ _)
    rintro ⟨hle, -⟩
    apply absurd hlt
    simpa using hle
  · rename_i hle
    have hcompensate := processing.closing_compensate (H := H) hpayload (.failed cause)
    apply (hcompensate.bind (Answer.provided ((nextCount? message.context.retries).elim
      (.error .countOverflow) (processing.exhaustion message))) _).of_iff
    · simpa using fun _ => hle
    · intro outcome
      cases outcome with
      | error error => apply Quiet.pure
      | ok done =>
          cases nextCount? message.context.retries with
          | none => apply Quiet.pure
          | some attempts => apply processing.quiet_exhausted

/-- After the last attempt. -/
theorem closing_sequel {count : UInt32} {outcome : Except HandlerError Unit}
    (hlast : processing.goesOn count outcome = false) :
  Closing (.failed .cancelled) (processing.NeedsMore message payload count.toNat outcome)
    (processing.sequel message count outcome : Operation D H Answer)
  := by
  match outcome with
  | .ok () => apply Closing.of_quiet (.noted _ _) id
  | .error (.domain _) => apply Closing.of_quiet (.noted _ _) id
  | .error (.rejected _) => apply processing.closing_refused hpayload
  | .error (.failed _) =>
      rw [sequel, NeedsMore]
      cases hplace : processing.strategy.place with
      | requeue => apply processing.closing_requeued hpayload
      | inProcess =>
          have hused : ¬count ≤ processing.strategy.retries := by
            simpa [goesOn, hplace] using hlast
          simp only [hused, if_false]
          apply Closing.of_quiet (processing.quiet_exhausted _)
          rwa [← UInt32.le_iff_toNat_le]

end

/-! ### All attempts -/

/-- The courses of the attempts after as many others.  Each of them begins by asking for the
token, and then the handler is run, unless the attempts cannot be counted any more.  Before the
next one there may be a pause, which may be cut. -/
inductive Attempted (message : Inbound) (payload : α) :
    ℕ → List (Turn (Request D H) Request.Reply) → Answer → Prop
  | cancelled {made : ℕ} {after : List (Turn (Request D H) Request.Reply)}
      (hafter : ∀ turn ∈ after, turn.question.Notes) :
      Attempted message payload made (⟨.isCancelled, true⟩ :: after) (.failed .cancelled)
  | overflow {made : ℕ} :
      Attempted message payload made [⟨.isCancelled, false⟩] (.error .countOverflow)
  | last {made : ℕ} {outcome : Except HandlerError Unit}
      {turns : List (Turn (Request D H) Request.Reply)} {answer : Answer}
      (h : Closes (.failed .cancelled) (processing.NeedsMore message payload (made + 1) outcome)
        turns answer) :
      Attempted message payload made
        (⟨.isCancelled, false⟩ :: ⟨.dispatch (processing.call payload message.context), outcome⟩
          :: turns)
        answer
  | again {made : ℕ} {outcome : Except HandlerError Unit}
      {waits turns : List (Turn (Request D H) Request.Reply)} {answer : Answer}
      (hmore : processing.NeedsMore message payload (made + 1) outcome)
      (hwaits : ∀ turn ∈ waits, turn.question.Idles ∧ turn.question.Undisturbed turn.reply)
      (h : Attempted message payload (made + 1) turns answer) :
      Attempted message payload made
        (⟨.isCancelled, false⟩ :: ⟨.dispatch (processing.call payload message.context), outcome⟩
          :: (waits ++ turns))
        answer
  | cut {made : ℕ} {outcome : Except HandlerError Unit}
      {waits : List (Turn (Request D H) Request.Reply)}
      (hmore : processing.NeedsMore message payload (made + 1) outcome)
      (hwaits : ∀ turn ∈ waits, turn.question.Idles) :
      Attempted message payload made
        (⟨.isCancelled, false⟩ :: ⟨.dispatch (processing.call payload message.context), outcome⟩
          :: waits)
        (.failed .cancelled)

/-- Nothing is disturbed unless the answer tells so. -/
theorem Attempted.undisturbed {message : Inbound} {payload : α} {made : ℕ}
    {turns : List (Turn (Request D H) Request.Reply)} {answer : Answer}
    (h : processing.Attempted message payload made turns answer)
    (hanswer : answer ≠ .failed .cancelled) :
  ∀ turn ∈ turns, turn.question.Undisturbed turn.reply
  := by
  induction h with
  | cancelled hafter => contradiction
  | overflow => exact List.forall_mem_singleton.mpr rfl
  | last h =>
      refine List.forall_mem_cons.mpr ⟨rfl, List.forall_mem_cons.mpr ⟨trivial, ?_⟩⟩
      apply h.undisturbed hanswer
  | again hmore hwaits h ih =>
      refine List.forall_mem_cons.mpr ⟨rfl, List.forall_mem_cons.mpr ⟨trivial, ?_⟩⟩
      refine List.forall_mem_append.mpr ⟨?_, ih hanswer⟩
      intro turn hturn
      apply (hwaits turn hturn).2
  | cut hmore hwaits => contradiction

/-- A wait is undisturbed unless it is cut. -/
theorem idles_of_wait {turns : List (Turn (Request D H) Request.Reply)} {whole : Bool}
    (h : Course (processing.wait : Operation D H Bool) turns whole) :
  ∀ turn ∈ turns, turn.question.Idles ∧ (whole = true → turn.question.Undisturbed turn.reply)
  := by
  rw [wait] at h
  split at h
  · obtain ⟨rfl, -⟩ := course_pure_iff.mp h
    simp
  · obtain rfl := course_request_iff.mp h
    exact List.forall_mem_singleton.mpr ⟨trivial, id⟩

/-- Where another attempt is due, it comes after a wait, unless the wait is cut. -/
theorem waits_of_sequel {message : Inbound} {payload : α}
    (hpayload : processing.format.decode? message.payload = some payload) {count : UInt32}
    {outcome : Except HandlerError Unit} (hgoes : processing.goesOn count outcome)
    {turns : List (Turn (Request D H) Request.Reply)} {answer : Answer}
    (h : Course (processing.sequel message count outcome) turns answer) :
  (∃ waits rest, turns = waits ++ rest
      ∧ (∀ turn ∈ waits, turn.question.Idles ∧ turn.question.Undisturbed turn.reply)
      ∧ Course (processing.attempt message payload count) rest answer)
    ∨ ((∀ turn ∈ turns, turn.question.Idles) ∧ answer = .failed .cancelled)
  := by
  rw [processing.sequel_of_goesOn hgoes] at h
  obtain ⟨notes, _, _, hnotes, hwait, rfl⟩ := course_bind_iff.mp h
  obtain ⟨hnotes, -⟩ := Quiet.note _ notes _ hnotes
  obtain ⟨pause, whole, rest, hpause, hrest, rfl⟩ := course_bind_iff.mp hwait
  have hwaits := processing.idles_of_wait hpause
  cases whole with
  | true =>
      left
      rw [if_pos rfl, processing.attempts_eq hpayload (.inl rfl)] at hrest
      use notes ++ pause, rest, (List.append_assoc notes pause rest).symm
      refine ⟨List.forall_mem_append.mpr ⟨?_, ?_⟩, hrest⟩
      · intro turn hturn
        exact ⟨(hnotes turn hturn).idles, (hnotes turn hturn).undisturbed _⟩
      · intro turn hturn
        exact ⟨(hwaits turn hturn).1, (hwaits turn hturn).2 rfl⟩
  | false =>
      right
      obtain ⟨rfl, rfl⟩ := course_pure_iff.mp hrest
      rw [List.append_nil]
      refine ⟨List.forall_mem_append.mpr ⟨?_, ?_⟩, rfl⟩
      · intro turn hturn
        exact (hnotes turn hturn).idles
      · intro turn hturn
        exact (hwaits turn hturn).1

/-- Attempts go on as described, whatever the replies are.  By induction on the attempts that can
still be counted. -/
theorem attempted_of_attempt {message : Inbound} {payload : α}
    (hpayload : processing.format.decode? message.payload = some payload) {left : ℕ}
    {made : UInt32} (hleft : made.toNat + left = 0xFFFFFFFF)
    {turns : List (Turn (Request D H) Request.Reply)} {answer : Answer}
    (h : Course (processing.attempt message payload made) turns answer) :
  processing.Attempted message payload made.toNat turns answer
  := by
  induction left generalizing made turns with
  | zero =>
      obtain ⟨rfl, rfl⟩ | ⟨-, rfl, rfl⟩ | ⟨count, _, _, hnext, -, -⟩ := processing.attempt_cases h
      · exact .cancelled (List.forall_mem_singleton.mpr trivial)
      · exact .overflow
      · rw [nextCount?_eq_none_iff.mpr hleft] at hnext
        contradiction
  | succ left ih =>
      obtain ⟨rfl, rfl⟩ | ⟨-, rfl, rfl⟩ | ⟨count, outcome, rest, hnext, rfl, hrest⟩ :=
        processing.attempt_cases h
      · exact .cancelled (List.forall_mem_singleton.mpr trivial)
      · exact .overflow
      have hcount := toNat_of_nextCount? hnext
      cases hgoes : processing.goesOn count outcome with
      | false =>
          have hcloses := processing.closing_sequel hpayload hgoes rest answer hrest
          rw [hcount] at hcloses
          exact .last hcloses
      | true =>
          have hmore := processing.needsMore_of_goesOn hgoes message payload
          rw [hcount] at hmore
          obtain ⟨waits, later, rfl, hwaits, hlater⟩ | ⟨hwaits, rfl⟩ :=
            processing.waits_of_sequel hpayload hgoes hrest
          · have hagain := ih (by omega) hlater
            rw [hcount] at hagain
            exact .again hmore hwaits hagain
          · exact .cut hmore hwaits

/-- The courses of processing a message that can be read. -/
theorem attempted_of_process {message : Inbound} {payload : α}
    (hpayload : processing.format.decode? message.payload = some payload)
    {turns : List (Turn (Request D H) Request.Reply)} {answer : Answer}
    (h : Course (processing.process message) turns answer) :
  processing.Attempted message payload 0 turns answer
  := by
  have hleft : (0 : UInt32).toNat + 0xFFFFFFFF = 0xFFFFFFFF := rfl
  rw [processing.process_eq_attempt hpayload] at h
  apply processing.attempted_of_attempt hpayload hleft h

end Processing

end AmqpBus

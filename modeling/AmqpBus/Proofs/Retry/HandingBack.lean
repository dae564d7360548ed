import AmqpBus.Proofs.Retry.Asking

/-!
# Messages handed back

Processing hands a message back to the broker, to come again, only where the strategy says
so, only right after the handler broke down on it, and only while the budget is not used
up.  The handler has then been run once and nothing was published.  Where the strategy says
so, every message that the handler broke down on is handed back while the budget lasts.
-/

namespace AmqpBus

open Interaction Operation

variable {D H α β : Type}

/-! ### Operations that hand nothing back -/

namespace Operation

/-- Whatever the replies are, an operation does not answer that a message is to come
again. -/
def Keeps (operation : Operation D H Answer) : Prop :=
  ∀ turns delay, ¬Course operation turns (.ok (.retryAfter delay))

theorem Keeps.ack :
  Keeps (pure (.ok .ack) : Operation D H Answer)
  := by
  intro turns delay hcourse
  obtain ⟨-, hanswer⟩ := course_pure_iff.mp hcourse
  contradiction

theorem Keeps.error (fault : ProcessingFault) :
  Keeps (pure (.error fault) : Operation D H Answer)
  := by
  intro turns delay hcourse
  obtain ⟨-, hanswer⟩ := course_pure_iff.mp hcourse
  contradiction

/-- What counts is how an operation ends. -/
theorem Keeps.bind {operation : Operation D H β} {next : β → Operation D H Answer}
    (h : ∀ value, (next value).Keeps) :
  (operation >>= next).Keeps
  := by
  intro turns delay hcourse
  obtain ⟨_, value, rest, -, hnext, -⟩ := course_bind_iff.mp hcourse
  apply h value rest delay hnext

end Operation

namespace Processing

variable (processing : Processing D α)

theorem keeps_exhausted (message : Inbound) (attempts : UInt32) :
  (processing.exhausted message attempts : Operation D H Answer).Keeps
  := by
  rw [exhausted]
  apply Keeps.bind
  intro _
  split
  · apply Keeps.error
  · apply Keeps.ack

theorem keeps_refused (message : Inbound) (refusal : Refusal) :
  (processing.refused message refusal : Operation D H Answer).Keeps
  := by
  rw [refused]
  split
  · apply Keeps.bind
    intro outcome
    split
    · apply Keeps.error
    · apply Keeps.ack
  · split
    · apply Keeps.error
    · apply Keeps.bind
      intro _
      apply Keeps.ack

/-- Nothing is handed back unless the handler broke down. -/
theorem keeps_sequel_of_handled (message : Inbound) (count : UInt32)
    {outcome : Except HandlerError Unit} (h : ∀ cause, outcome ≠ .error (.failed cause)) :
  (processing.sequel message count outcome : Operation D H Answer).Keeps
  := by
  match outcome with
  | .ok () => exact Keeps.bind fun _ => .ack
  | .error (.domain _) => exact Keeps.bind fun _ => .ack
  | .error (.rejected _) => apply keeps_refused
  | .error (.failed cause) => exact absurd rfl (h cause)

/-- Where attempts are made in the process, nothing is handed back after one of them if
nothing is after the next. -/
theorem keeps_sequel_inProcess {message : Inbound} {count : UInt32}
    (hplace : processing.strategy.place = .inProcess)
    (h : (processing.attempts message none count : Operation D H Answer).Keeps)
    (outcome : Except HandlerError Unit) :
  (processing.sequel message count outcome : Operation D H Answer).Keeps
  := by
  by_cases hfailed : ∃ cause, outcome = .error (.failed cause)
  · obtain ⟨cause, rfl⟩ := hfailed
    rw [sequel, hplace]
    dsimp only
    split
    · apply Keeps.bind
      intro _
      apply Keeps.bind
      intro whole
      split
      · apply h
      · apply Keeps.error
    · apply keeps_exhausted
  · apply keeps_sequel_of_handled
    apply not_exists.mp hfailed

/-- By induction on the attempts that can still be counted. -/
theorem keeps_attempt {message : Inbound} {payload : α}
    (hplace : processing.strategy.place = .inProcess)
    (hpayload : processing.format.decode? message.payload = some payload) {left : ℕ}
    {made : UInt32} (hleft : made.toNat + left = 0xFFFFFFFF) :
  (processing.attempt message payload made : Operation D H Answer).Keeps
  := by
  induction left generalizing made with
  | zero =>
      rw [attempt, nextCount?_eq_none_iff.mpr hleft]
      apply Keeps.bind
      intro cancelled
      split
      · apply Keeps.bind
        intro _
        apply Keeps.error
      · apply Keeps.error
  | succ left ih =>
      obtain ⟨count, hnext, hcount⟩ := exists_nextCount? (by omega : made.toNat < 0xFFFFFFFF)
      rw [attempt, hnext]
      apply Keeps.bind
      intro cancelled
      split
      · apply Keeps.bind
        intro _
        apply Keeps.error
      · apply Keeps.bind
        apply processing.keeps_sequel_inProcess hplace
        rw [processing.attempts_eq hpayload (.inl rfl)]
        apply ih
        omega

/-! ### Where the broker brings messages again -/

variable {processing} {message : Inbound} {delay : Time.Duration}
  {turns : List (Turn (Request D H) Request.Reply)}

theorem course_requeued {cause : String}
    (h : Course (processing.requeued message cause : Operation D H Answer) turns
      (.ok (.retryAfter delay))) :
  delay = processing.strategy.interval
    ∧ message.context.retries < processing.strategy.retries ∧ actsOf turns = []
  := by
  rw [requeued] at h
  split at h
  · rename_i hbudget
    obtain ⟨_, _, _, hwarn, hrest, rfl⟩ := course_bind_iff.mp h
    obtain rfl := course_request_iff.mp hwarn
    obtain ⟨rfl, hanswer⟩ := course_pure_iff.mp hrest
    obtain rfl := Acknowledgement.retryAfter.inj (Except.ok.inj hanswer)
    exact ⟨rfl, hbudget, rfl⟩
  · refine absurd h (Keeps.bind (fun outcome => ?_) turns delay)
    split
    · apply Keeps.error
    · split
      · apply Keeps.error
      · apply keeps_exhausted

/-- After an attempt a message is handed back only when the handler broke down. -/
theorem course_sequel {count : UInt32} {outcome : Except HandlerError Unit}
    (hplace : processing.strategy.place = .requeue)
    (h : Course (processing.sequel message count outcome : Operation D H Answer) turns
      (.ok (.retryAfter delay))) :
  (∃ cause, outcome = .error (.failed cause)) ∧ delay = processing.strategy.interval
    ∧ message.context.retries < processing.strategy.retries ∧ actsOf turns = []
  := by
  by_cases hfailed : ∃ cause, outcome = .error (.failed cause)
  · use hfailed
    obtain ⟨cause, rfl⟩ := hfailed
    rw [sequel, hplace] at h
    apply course_requeued h
  · have hkeeps := processing.keeps_sequel_of_handled (H := H) message count
      (not_exists.mp hfailed)
    exact absurd h (hkeeps turns delay)

/-- The handler was run once, and it broke down. -/
theorem course_attempt {payload : α} {made : UInt32}
    (hplace : processing.strategy.place = .requeue)
    (h : Course (processing.attempt message payload made : Operation D H Answer) turns
      (.ok (.retryAfter delay))) :
  delay = processing.strategy.interval
    ∧ message.context.retries < processing.strategy.retries
    ∧ ∃ cause, actsOf turns
      = [.dispatch (processing.call payload message.context) (.error (.failed cause))]
  := by
  obtain ⟨-, hanswer⟩ | ⟨-, -, hanswer⟩ | ⟨count, outcome, last, -, rfl, hlast⟩ :=
    processing.attempt_cases h
  · contradiction
  · contradiction
  · obtain ⟨⟨cause, rfl⟩, hdelay, hbudget, hacts⟩ := course_sequel hplace hlast
    refine ⟨hdelay, hbudget, cause, ?_⟩
    rw [actsOf_cons, actsOf_cons, hacts]
    rfl

/-- When processing hands a message back, the strategy says so, the budget is not used up,
and the handler was run once and broke down. -/
theorem course_process (h : Course (processing.process message : Operation D H Answer) turns
    (.ok (.retryAfter delay))) :
  processing.strategy.place = .requeue ∧ delay = processing.strategy.interval
    ∧ message.context.retries < processing.strategy.retries
    ∧ ∃ payload cause, processing.format.decode? message.payload = some payload
      ∧ actsOf turns
        = [.dispatch (processing.call payload message.context) (.error (.failed cause))]
  := by
  cases hpayload : processing.format.decode? message.payload with
  | none =>
      rw [processing.process_of_unreadable hpayload] at h
      obtain ⟨_, _, _, -, hanswer, -⟩ := course_bind_iff.mp h
      obtain ⟨-, hanswer⟩ := course_pure_iff.mp hanswer
      contradiction
  | some payload =>
      rw [processing.process_eq_attempt hpayload] at h
      cases hplace : processing.strategy.place with
      | inProcess =>
          have hleft : (0 : UInt32).toNat + 0xFFFFFFFF = 0xFFFFFFFF := rfl
          exact absurd h (processing.keeps_attempt hplace hpayload hleft turns delay)
      | requeue =>
          obtain ⟨hdelay, hbudget, cause, hacts⟩ := course_attempt hplace h
          exact ⟨rfl, hdelay, hbudget, payload, cause, rfl, hacts⟩

/-- The permit changes nothing about this. -/
theorem course_handle (h : Course (processing.handle message : Operation D H Answer) turns
    (.ok (.retryAfter delay))) :
  processing.strategy.place = .requeue ∧ delay = processing.strategy.interval
    ∧ message.context.retries < processing.strategy.retries
    ∧ ∃ payload cause, processing.format.decode? message.payload = some payload
      ∧ actsOf turns
        = [.dispatch (processing.call payload message.context) (.error (.failed cause))]
  := by
  obtain ⟨_, acquired, _, hacquire, hrest, rfl⟩ := course_bind_iff.mp h
  obtain rfl := course_request_iff.mp hacquire
  split at hrest
  · obtain ⟨_, answer, _, hprocess, hlast, rfl⟩ := course_bind_iff.mp hrest
    obtain ⟨_, _, _, hrelease, hanswer, rfl⟩ := course_bind_iff.mp hlast
    obtain rfl := course_request_iff.mp hrelease
    obtain ⟨rfl, rfl⟩ := course_pure_iff.mp hanswer
    obtain ⟨hplace, hdelay, hbudget, payload, cause, hpayload, hacts⟩ := course_process hprocess
    refine ⟨hplace, hdelay, hbudget, payload, cause, hpayload, ?_⟩
    rw [actsOf_append, actsOf_append, hacts]
    rfl
  · obtain ⟨-, hanswer⟩ := course_pure_iff.mp hrest
    contradiction

/-! ### Where the handler broke down -/

theorem Concludes.dispatch_notMem {operation : Operation D H β} {value : β}
    (h : processing.Concludes message operation) (hcourse : Course operation turns value)
    (call : D) (outcome : Except HandlerError Unit) :
  .dispatch call outcome ∉ actsOf turns
  := by
  intro hmem
  obtain ⟨⟨request, reply⟩, hturn, hact⟩ := List.mem_filterMap.mp hmem
  have hmay := Asks.of_mem h hcourse (fun _ _ => trivial) hturn
  cases request with
  | dispatch _ => apply hmay
  | _ => simp [Request.act?] at hact

/-- Where the broker brings messages again, all that follows is by the outcome of the one run
of the handler. -/
theorem exists_sequel_of_dispatch {payload : α} {made : UInt32} {answer : Answer} {call : D}
    {outcome : Except HandlerError Unit} (hplace : processing.strategy.place = .requeue)
    (h : Course (processing.attempt message payload made : Operation D H Answer) turns answer)
    (hmem : .dispatch call outcome ∈ actsOf turns) :
  ∃ count last, Course (processing.sequel message count outcome : Operation D H Answer) last answer
  := by
  obtain ⟨_, cancelled, rest, hasks, hrest, rfl⟩ := course_bind_iff.mp h
  obtain rfl := course_request_iff.mp hasks
  split at hrest
  · have hconcludes : processing.Concludes message (do
        warn "processing cancelled"
        return .failed .cancelled : Operation D H Answer) :=
      Asks.bind (processing.concludes_warn message _) fun _ => Asks.pure _
    exact absurd hmem (hconcludes.dispatch_notMem hrest call outcome)
  · split at hrest
    · obtain ⟨rfl, -⟩ := course_pure_iff.mp hrest
      exact absurd hmem List.not_mem_nil
    · rename_i count hcount
      obtain ⟨_, given, last, hdispatch, hlast, rfl⟩ := course_bind_iff.mp hrest
      obtain rfl := course_request_iff.mp hdispatch
      obtain heq | hmem := List.mem_cons.mp hmem
      · obtain ⟨-, rfl⟩ := Act.dispatch.inj heq
        use count, last
      · have hconcludes : processing.Concludes message
            (processing.sequel message count given : Operation D H Answer) :=
          concludes_sequel (fun _ _ => hplace) count
        exact absurd hmem (hconcludes.dispatch_notMem hlast call outcome)

/-- While the budget is not used up, a message that the handler broke down on is handed
back. -/
theorem answer_of_failed {answer : Answer} {call : D} {cause : String}
    (hplace : processing.strategy.place = .requeue)
    (hbudget : message.context.retries < processing.strategy.retries)
    (h : Course (processing.process message : Operation D H Answer) turns answer)
    (hmem : .dispatch call (.error (.failed cause)) ∈ actsOf turns) :
  answer = .ok (.retryAfter processing.strategy.interval)
  := by
  cases hpayload : processing.format.decode? message.payload with
  | none =>
      rw [processing.process_of_unreadable hpayload] at h
      have hconcludes : processing.Concludes message (do
          complain "failure to parse payload, rejecting message"
          return .ok .reject : Operation D H Answer) :=
        Asks.bind (processing.concludes_complain message _) fun _ => Asks.pure _
      exact absurd hmem (hconcludes.dispatch_notMem h call _)
  | some payload =>
      rw [processing.process_eq_attempt hpayload] at h
      obtain ⟨count, last, hlast⟩ := exists_sequel_of_dispatch hplace h hmem
      rw [sequel, hplace] at hlast
      dsimp only at hlast
      rw [requeued, if_pos hbudget] at hlast
      obtain ⟨_, _, _, -, hanswer, -⟩ := course_bind_iff.mp hlast
      apply (course_pure_iff.mp hanswer).2

/-- A message that the handler broke down on is handed back exactly while the budget is not
used up. -/
theorem answer_eq_retryAfter_iff {answer : Answer} {call : D} {cause : String}
    (hplace : processing.strategy.place = .requeue)
    (h : Course (processing.handle message : Operation D H Answer) turns answer)
    (hmem : .dispatch call (.error (.failed cause)) ∈ actsOf turns) :
  (∃ delay, answer = .ok (.retryAfter delay))
    ↔ message.context.retries < processing.strategy.retries
  := by
  constructor
  · rintro ⟨delay, rfl⟩
    obtain ⟨-, -, hbudget, -⟩ := course_handle h
    apply hbudget
  · intro hbudget
    use processing.strategy.interval
    obtain ⟨_, acquired, rest, hacquire, hrest, rfl⟩ := course_bind_iff.mp h
    obtain rfl := course_request_iff.mp hacquire
    split at hrest
    · obtain ⟨processed, given, _, hprocess, hlast, rfl⟩ := course_bind_iff.mp hrest
      obtain ⟨_, _, _, hrelease, hanswer, rfl⟩ := course_bind_iff.mp hlast
      obtain rfl := course_request_iff.mp hrelease
      obtain ⟨rfl, rfl⟩ := course_pure_iff.mp hanswer
      apply answer_of_failed hplace hbudget hprocess
      simpa [actsOf, Request.act?] using hmem
    · obtain ⟨rfl, -⟩ := course_pure_iff.mp hrest
      exact absurd hmem List.not_mem_nil

end Processing

end AmqpBus

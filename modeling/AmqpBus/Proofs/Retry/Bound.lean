import AmqpBus.Proofs.Retry.Outcome

/-!
# Attempts in the process

Where attempts are made in the process, a message is dispatched once more than its
handler broke down, as far as the budget reaches.
-/

namespace AmqpBus

open Operation

namespace Processing

variable {D H α : Type} (processing : Processing D α)

/-- The acts of attempts with outcomes, with a rest between any two of them. -/
def attempted (message : Inbound) (payload : α) (outcomes : List (Except HandlerError Unit)) :
    List (Act D) :=
  processing.rest.intercalate
    (outcomes.map fun outcome => [.dispatch (processing.call payload message.context) outcome])

theorem attempted_cons (message : Inbound) (payload : α) (first : Except HandlerError Unit)
    {outcomes : List (Except HandlerError Unit)} (houtcomes : outcomes ≠ []) :
  processing.attempted message payload (first :: outcomes)
    = .dispatch (processing.call payload message.context) first
        :: (processing.rest ++ processing.attempted message payload outcomes)
  := by
  obtain ⟨second, others, rfl⟩ := List.exists_cons_of_ne_nil houtcomes
  simp [attempted, List.intercalate]

variable {processing}

/-- A count within a budget below the largest count can be counted on. -/
theorem nextCount?_of_le_budget {count budget : UInt32} (hbudget : budget < 0xFFFFFFFF)
    (hcount : count.toNat ≤ budget.toNat) :
  nextCount? count = some (count + 1) ∧ (count + 1).toNat = count.toNat + 1
  := by
  have hnext : nextCount? count = some (count + 1) := by
    apply nextCount?_of_ne
    rintro rfl
    rw [UInt32.lt_iff_toNat_lt] at hbudget
    omega
  use hnext, toNat_of_nextCount? hnext

theorem goesOn_of_used_up (processing : Processing D α)
    (hbudget : processing.strategy.retries < 0xFFFFFFFF) (outcome : Except HandlerError Unit) :
  processing.goesOn (processing.strategy.retries + 1) outcome = false
  := by
  have hle : ¬ processing.strategy.retries + 1 ≤ processing.strategy.retries := by
    obtain ⟨-, hsucc⟩ := nextCount?_of_le_budget hbudget le_rfl
    rw [UInt32.le_iff_toNat_le]
    omega
  match outcome with
  | .ok () => rfl
  | .error (.domain _) => rfl
  | .error (.rejected _) => rfl
  | .error (.failed _) => simp [goesOn, hle]

/-- Attempts go on through the failures within the budget and then processing closes. -/
theorem perform_attempts_inProcess {message : Inbound} {payload : α} {unused : Option α}
    (hplace : processing.strategy.place = .inProcess)
    (hbudget : processing.strategy.retries < 0xFFFFFFFF)
    (hpayload : processing.format.decode? message.payload = some payload)
    (hunused : unused = none ∨ unused = some payload) {made : UInt32} {left : ℕ}
    (hleft : made.toNat + left = processing.strategy.retries.toNat) (supply : Supply) :
  (processing.attempts message unused made : Operation D H Answer).perform supply
    = (processing.closing message payload (processing.strategy.retries + 1)
        { supply with
          outcomes := supply.outcomes.drop (failuresWithin left supply.outcomes + 1) }
        (supply.outcomes.get (failuresWithin left supply.outcomes))).after
      (processing.attempted message payload
        (supply.outcomes.take (failuresWithin left supply.outcomes + 1)))
  := by
  induction left generalizing made unused supply with
  | zero =>
      obtain ⟨hnext, -⟩ := nextCount?_of_le_budget hbudget (by omega : made.toNat ≤ _)
      obtain rfl : made = processing.strategy.retries := by
        apply UInt32.toNat_inj.mp
        omega
      rw [processing.perform_attempts hpayload (by simp [hplace]) hunused hnext,
        processing.goesOn_of_used_up hbudget]
      rfl
  | succ left ih =>
      obtain ⟨hnext, hsucc⟩ := nextCount?_of_le_budget hbudget (by omega : made.toNat ≤ _)
      rw [processing.perform_attempts hpayload (by simp [hplace]) hunused hnext]
      cases hfailure : isFailure supply.outcomes.head with
      | false =>
          have hcount : failuresWithin (left + 1) supply.outcomes = 0 := by
            simp [failuresWithin, hfailure]
          rw [processing.goesOn_of_not_isFailure hfailure, hcount,
            processing.closing_eq_of_not_isFailure hfailure _ _ (made + 1)
              (processing.strategy.retries + 1)]
          rfl
      | true =>
          have hcount : failuresWithin (left + 1) supply.outcomes
              = failuresWithin left supply.outcomes.tail + 1 := by
            simp [failuresWithin, hfailure]
          have hattempt : made + 1 ≤ processing.strategy.retries := by
            rw [UInt32.le_iff_toNat_le]
            omega
          rw [processing.goesOn_of_isFailure hfailure hplace, decide_eq_true hattempt, hcount,
            ih (.inl rfl) (by omega), if_pos rfl, Performance.after_after,
            Performance.after_after, Stream'.take_succ (failuresWithin _ _ + 1),
            attempted_cons]
          · rfl
          · simp [Stream'.take_succ]

/-- Processing in the process, in terms of the number of leading failures. -/
theorem processed_inProcess (processing : Processing D α) {message : Inbound} {payload : α}
    (hplace : processing.strategy.place = .inProcess)
    (hbudget : processing.strategy.retries < 0xFFFFFFFF)
    (hpayload : processing.format.decode? message.payload = some payload) (supply : Supply)
    {n : ℕ} (hn : n = failuresWithin processing.strategy.retries.toNat supply.outcomes) :
  processing.processed H message supply
    = (processing.closing message payload (processing.strategy.retries + 1)
        { supply with outcomes := supply.outcomes.drop (n + 1) } (supply.outcomes.get n)).after
      (processing.attempted message payload (supply.outcomes.take (n + 1)))
  := by
  subst hn
  rw [processing.processed_eq hpayload]
  apply perform_attempts_inProcess hplace hbudget hpayload (.inr rfl)
  simp

/-! ### What attempts consist of -/

theorem filterMap_rest {β : Type} {gather : Act D → Option β}
    (hgather : ∀ delay whole, gather (.pause delay whole) = none) :
  processing.rest.filterMap gather = []
  := by
  rw [rest]
  split <;> simp [hgather]

/-- The first attempt is followed by a rest and an attempt for every other one. -/
theorem filterMap_attempted {β : Type} (gather : Act D → Option β) (message : Inbound)
    (payload : α) (first : Except HandlerError Unit)
    (others : List (Except HandlerError Unit)) :
  (processing.attempted message payload (first :: others)).filterMap gather
    = [.dispatch (processing.call payload message.context) first].filterMap gather
      ++ others.flatMap fun outcome => processing.rest.filterMap gather
        ++ [.dispatch (processing.call payload message.context) outcome].filterMap gather
  := by
  induction others generalizing first with
  | nil => simp [attempted]
  | cons second others ih =>
      rw [attempted_cons _ _ _ _ (List.cons_ne_nil second others), ← List.singleton_append,
        List.filterMap_append, List.filterMap_append, ih, List.flatMap_cons, List.append_assoc]

theorem dispatches_attempted (processing : Processing D α) (message : Inbound) (payload : α)
    (outcomes : List (Except HandlerError Unit)) :
  (processing.attempted message payload outcomes).filterMap Act.dispatch?
    = outcomes.map fun outcome => (processing.call payload message.context, outcome)
  := by
  cases outcomes with
  | nil => rfl
  | cons first others =>
      rw [filterMap_attempted, filterMap_rest fun _ _ => rfl, List.map_eq_flatMap]
      rfl

theorem pauses_attempted (processing : Processing D α) (message : Inbound) (payload : α)
    (first : Except HandlerError Unit) (others : List (Except HandlerError Unit)) :
  (processing.attempted message payload (first :: others)).filterMap Act.pause?
    = if processing.strategy.interval = 0 then []
      else List.replicate others.length processing.strategy.interval
  := by
  have hdispatch (outcome : Except HandlerError Unit) :
      [.dispatch (processing.call payload message.context) outcome].filterMap Act.pause? = [] :=
    rfl
  rw [filterMap_attempted, rest]
  simp only [hdispatch, List.append_nil, List.nil_append]
  split
  · simp
  · simp [Act.pause?, List.flatMap_def]

theorem publications_attempted (processing : Processing D α) (message : Inbound) (payload : α)
    (outcomes : List (Except HandlerError Unit)) :
  (processing.attempted message payload outcomes).filterMap Act.publication? = []
  := by
  cases outcomes with
  | nil => rfl
  | cons first others =>
      rw [filterMap_attempted, filterMap_rest fun _ _ => rfl]
      simp [Act.publication?]

/-! ### The answer -/

/-- The answer to an outcome after which no further attempt is made in the process, when
`publication` comes of handing a message to the transport. -/
def answerTo (processing : Processing D α) (message : Inbound) (payload : α)
    (publication : Except BrokerError Unit) : Except HandlerError Unit → Answer
  | .ok () => .ok .ack
  | .error (.domain _) => .ok .ack
  | .error (.rejected reason) =>
    match processing.failures.toReject with
    | none => if processing.failures.rethrow then .failed (.rejected reason) else .ok .ack
    | some toReject =>
      match processing.naming.rejection (toReject payload (.rejected reason)) message.context with
      | .error error => .failed error
      | .ok _ =>
        match publication with
        | .error error => .failed (.transport error)
        | .ok () => .ok .ack
  | .error (.failed _) => processing.exhaustion message (processing.strategy.retries + 1)

theorem value_closing_inProcess (hplace : processing.strategy.place = .inProcess)
    (message : Inbound) (payload : α) (supply : Supply) (outcome : Except HandlerError Unit) :
  (processing.closing message payload (processing.strategy.retries + 1) supply outcome).value
    = processing.answerTo message payload supply.publications.head outcome
  := by
  match outcome with
  | .ok () => rfl
  | .error (.domain _) => rfl
  | .error (.failed _) => simp [closing, hplace, answerTo]
  | .error (.rejected reason) =>
      cases hreject : processing.failures.toReject with
      | none => simp only [closing, answerTo, hreject, processing.refusal_of_none hreject]
      | some toReject =>
          simp only [closing, answerTo, hreject, processing.refusal_of_some hreject]
          cases processing.naming.rejection (toReject payload (.rejected reason))
              message.context with
          | error error => rfl
          | ok outbound =>
              cases h : supply.publications.head with
              | error error => simp [Supply.handOver, h, Except.mapError, Answer.provided]
              | ok done => simp [Supply.handOver, h, Except.mapError, Answer.provided]

theorem answerTo_ne_retryAfter (processing : Processing D α) (message : Inbound) (payload : α)
    (publication : Except BrokerError Unit) (outcome : Except HandlerError Unit)
    (delay : Time.Duration) :
  processing.answerTo message payload publication outcome ≠ .ok (.retryAfter delay)
  := by
  match outcome with
  | .ok () => simp [answerTo]
  | .error (.domain _) => simp [answerTo]
  | .error (.failed _) =>
      simp only [answerTo, exhaustion]
      split <;> simp [Answer.failed]
  | .error (.rejected reason) =>
      simp only [answerTo]
      split
      · split <;> simp [Answer.failed]
      · split
        · simp [Answer.failed]
        · split <;> simp [Answer.failed]

/-! ### What processing consists of -/

/-- What follows the last attempt adds nothing to what is gathered from attempts, unless
publications are gathered. -/
theorem filterMap_acts_closing {β : Type} {gather : Act D → Option β}
    (hgather : ∀ message outcome, gather (.publish message outcome) = none) (message : Inbound)
    (payload : α) (attempt : UInt32) (supply : Supply) (outcome : Except HandlerError Unit) :
  (processing.closing message payload attempt supply outcome).acts.filterMap gather = []
  := by
  apply List.filterMap_eq_nil_iff.mpr
  intro act hact
  have hpublication := processing.isSome_of_mem_closing hact
  cases act with
  | publish message outcome => apply hgather
  | dispatch call outcome => contradiction
  | pause delay whole => contradiction

section InProcess

variable (processing) {message : Inbound} {payload : α}
  (hplace : processing.strategy.place = .inProcess)
  (hbudget : processing.strategy.retries < 0xFFFFFFFF)
  (hpayload : processing.format.decode? message.payload = some payload) (supply : Supply)
  {n : ℕ} (hn : n = failuresWithin processing.strategy.retries.toNat supply.outcomes)

include hplace hbudget hpayload hn

theorem dispatches_inProcess :
  (processing.processed H message supply).dispatches
    = (supply.outcomes.take (n + 1)).map
        (fun outcome => (processing.call payload message.context, outcome))
  := by
  rw [Performance.dispatches, processing.processed_inProcess hplace hbudget hpayload supply hn,
    Performance.acts_after, List.filterMap_append, dispatches_attempted,
    filterMap_acts_closing (fun _ _ => rfl), List.append_nil]

theorem pauses_inProcess :
  (processing.processed H message supply).pauses
    = if processing.strategy.interval = 0 then []
      else List.replicate n processing.strategy.interval
  := by
  rw [Performance.pauses, processing.processed_inProcess hplace hbudget hpayload supply hn,
    Performance.acts_after, List.filterMap_append, Stream'.take_succ, pauses_attempted,
    filterMap_acts_closing (fun _ _ => rfl), List.append_nil, Stream'.length_take]

theorem publications_inProcess :
  (processing.processed H message supply).publications
    = (processing.closing message payload (processing.strategy.retries + 1)
        { supply with outcomes := supply.outcomes.drop (n + 1) }
        (supply.outcomes.get n)).publications
  := by
  rw [Performance.publications, processing.processed_inProcess hplace hbudget hpayload supply hn,
    Performance.acts_after, List.filterMap_append, publications_attempted]
  rfl

theorem value_inProcess :
  (processing.processed H message supply).value
    = processing.answerTo message payload supply.publications.head (supply.outcomes.get n)
  := by
  rw [processing.processed_inProcess hplace hbudget hpayload supply hn, Performance.value_after,
    value_closing_inProcess hplace]

end InProcess

/-- Where there are more failures than the budget, the last outcome is one of them. -/
theorem answerTo_of_lt_leadingFailures {message : Inbound} {payload : α} {supply : Supply}
    {n : ℕ} (hn : n < leadingFailures supply.outcomes) (publication : Except BrokerError Unit) :
  processing.answerTo message payload publication (supply.outcomes.get n)
    = processing.exhaustion message (processing.strategy.retries + 1)
  := by
  have hfailure : isFailure (supply.outcomes.get n) := by
    apply le_leadingFailures_iff.mp (Order.add_one_le_of_lt hn)
    exact Nat.lt_succ_self n
  obtain ⟨cause, hcause⟩ := exists_cause_of_isFailure hfailure
  rw [hcause]
  rfl

/-! ### The bound on attempts -/

/-- The same processing with another interval between attempts. -/
def withInterval (processing : Processing D α) (interval : Time.Duration) : Processing D α :=
  { processing with strategy := { processing.strategy with interval } }

/-- The handler runs once more than there are failures before the first other outcome,
as far as the budget reaches, each time with the same payload in the same context.
Between any two runs, and at no other time, the interval is waited for unless it is zero.
The answer is the one to the last outcome; it never asks the broker to bring the message
again, and it does not depend on the interval, nor do the runs of the handler. -/
theorem attempts_inProcess_bounded {processing : Processing D α} {message : Inbound}
    {payload : α} (hplace : processing.strategy.place = .inProcess)
    (hbudget : processing.strategy.retries < 0xFFFFFFFF)
    (hpayload : processing.format.decode? message.payload = some payload) (supply : Supply) :
  ∃ n : ℕ,
    (n : ℕ∞) = min (leadingFailures supply.outcomes) processing.strategy.retries.toNat
    ∧ (processing.processed H message supply).dispatches
      = (supply.outcomes.take (n + 1)).map
          (fun outcome => (processing.call payload message.context, outcome))
    ∧ (processing.processed H message supply).pauses
      = (if processing.strategy.interval = 0 then []
          else List.replicate n processing.strategy.interval)
    ∧ (∃ publications : List (Act D), (∀ act ∈ publications, act.publication?.isSome)
      ∧ (processing.processed H message supply).acts
        = processing.rest.intercalate ((supply.outcomes.take (n + 1)).map
            (fun outcome => [.dispatch (processing.call payload message.context) outcome]))
          ++ publications)
    ∧ (leadingFailures supply.outcomes ≤ processing.strategy.retries.toNat →
      (processing.processed H message supply).value
        = processing.answerTo message payload supply.publications.head (supply.outcomes.get n))
    ∧ (processing.strategy.retries.toNat < leadingFailures supply.outcomes →
      (processing.processed H message supply).value
        = processing.exhaustion message (processing.strategy.retries + 1))
    ∧ (∀ delay, (processing.processed H message supply).value ≠ .ok (.retryAfter delay))
    ∧ ∀ interval,
      ((processing.withInterval interval).processed H message supply).value
          = (processing.processed H message supply).value
      ∧ ((processing.withInterval interval).processed H message supply).dispatches
          = (processing.processed H message supply).dispatches
  := by
  obtain ⟨n, hn⟩ : ∃ n, n = failuresWithin processing.strategy.retries.toNat supply.outcomes :=
    ⟨_, rfl⟩
  have hmin : (n : ℕ∞)
      = min (leadingFailures supply.outcomes) processing.strategy.retries.toNat := by
    rw [hn, failuresWithin_eq_min]
  have hvalue : (processing.processed H message supply).value = _ :=
    processing.value_inProcess hplace hbudget hpayload supply hn
  have hdispatches : (processing.processed H message supply).dispatches = _ :=
    processing.dispatches_inProcess hplace hbudget hpayload supply hn
  use n, hmin, hdispatches, processing.pauses_inProcess hplace hbudget hpayload supply hn
  refine ⟨?_, fun _ => hvalue, ?_, ?_, ?_⟩
  · rw [processing.processed_inProcess hplace hbudget hpayload supply hn, Performance.acts_after]
    refine ⟨_, ?_, rfl⟩
    intro act
    apply processing.isSome_of_mem_closing
  · intro hlt
    rw [hvalue, answerTo_of_lt_leadingFailures]
    rwa [hmin, min_eq_right hlt.le]
  · intro delay
    rw [hvalue]
    apply answerTo_ne_retryAfter
  · intro interval
    have hother : ((processing.withInterval interval).processed H message supply).value = _ :=
      (processing.withInterval interval).value_inProcess hplace hbudget hpayload supply hn
    have hruns : ((processing.withInterval interval).processed H message supply).dispatches = _ :=
      (processing.withInterval interval).dispatches_inProcess hplace hbudget hpayload supply hn
    constructor
    · rw [hother, hvalue]
      rfl
    · rw [hruns, hdispatches]
      rfl

theorem attempts_inProcess_of_two_failures :
  let performance := (ticking .inProcess none).processed Empty (tick 0)
    (.ofOutcomes [.error (.failed "late"), .error (.failed "lost")])
  performance.dispatches
      = [(((), (tick 0).context), .error (.failed "late")),
          (((), (tick 0).context), .error (.failed "lost")), (((), (tick 0).context), .ok ())]
    ∧ performance.pauses = [.ofSeconds 2, .ofSeconds 2] ∧ performance.value = .ok .ack
  := by
  obtain ⟨n, hmin, hdispatches, hpauses, -, hvalue, -⟩ :=
    @attempts_inProcess_bounded _ Empty _ (ticking .inProcess none) (tick 0) () rfl (by decide) rfl
      (.ofOutcomes [.error (.failed "late"), .error (.failed "lost")])
  have hn : (n : ℕ∞) = (2 : ℕ) := by
    rw [hmin, ← failuresWithin_eq_min]
    rfl
  obtain rfl := Nat.cast_injective hn
  refine ⟨hdispatches, hpauses, ?_⟩
  apply hvalue
  by_contra hlt
  rw [not_le] at hlt
  rw [min_eq_right hlt.le] at hmin
  contradiction

end Processing

end AmqpBus

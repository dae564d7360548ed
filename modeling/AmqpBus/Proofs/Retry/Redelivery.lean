import AmqpBus.Proofs.Retry.Bound
import Mathlib.Algebra.BigOperators.Group.Finset.Basic

/-!
# Attempts by redelivery

A budget is spent in the same way where the broker brings a message again and where all
attempts are made in the process: the handler runs as often and the answer is the same
in the end.  Where an exhausted budget is compensated for, which is only done for messages
that the broker brings again, there is one more publication.
-/

namespace AmqpBus

open Operation

variable {D H α : Type}

/-- The deliveries of one message are counted from zero up to a budget. -/
structure Counted (delivered : ℕ → Inbound) (budget : ℕ) : Prop where
  messageType : ∀ n ≤ budget, (delivered n).messageType = (delivered 0).messageType
  payload : ∀ n ≤ budget, (delivered n).payload = (delivered 0).payload
  count : ∀ n ≤ budget, (delivered n).context.retries.toNat = n

/-- A failure at the end has used up the budget. -/
theorem Counted.retries_of_last_failure {delivered : ℕ → Inbound} {retries : UInt32}
    (h : Counted delivered retries.toNat) {outcomes : Stream' (Except HandlerError Unit)} {n : ℕ}
    (hn : n = failuresWithin retries.toNat outcomes) (hfailure : isFailure (outcomes.get n)) :
  (delivered n).context.retries = retries
  := by
  have hle := failuresWithin_le retries.toNat outcomes
  apply UInt32.toNat_inj.mp
  rw [h.count n (by omega)]
  by_contra hne
  rw [hn, isFailure_get_failuresWithin (by omega)] at hfailure
  contradiction

/-- A reject event can be published: its type has a route and it could be written. -/
def Naming.CanReject (naming : Naming) (event : RejectEvent) : Prop :=
  (∃ route, naming.resolveRejection event.type = .ok route) ∧ event.payload?.isSome

theorem Naming.CanReject.exists_rejection {naming : Naming} {event : RejectEvent}
    (h : naming.CanReject event) (context : Context) :
  ∃ message, naming.rejection event context = .ok message
  := by
  obtain ⟨⟨route, hroute⟩, hpayload⟩ := h
  obtain ⟨payload, hpayload⟩ := Option.isSome_iff_exists.mp hpayload
  use { route, payload, context, options := {} }
  rw [Naming.rejection, hroute, hpayload]

namespace Processing

variable (processing : Processing D α)

/-- The same processing with all attempts in the process. -/
def inProcess (retries : UInt32) (interval : Time.Duration) : Processing D α :=
  { processing with strategy := ⟨.inProcess, retries, interval⟩ }

/-- The same processing with every attempt after the first one by redelivery. -/
def byBroker (retries : UInt32) (interval : Time.Duration) : Processing D α :=
  { processing with strategy := ⟨.requeue, retries, interval⟩ }

/-- The processing of each delivery, which finds what the one before has left. -/
def deliveries (H : Type) (delivered : ℕ → Inbound) (supply : Supply) : ℕ → Performance D Answer
  | 0 => processing.processed H (delivered 0) supply
  | n + 1 => processing.processed H (delivered (n + 1)) (deliveries H delivered supply n).left

/-- Whatever the outcomes are, they can be compensated for, if errors are at all. -/
def Compensable (payload : α) (supply : Supply) : Prop :=
  ∀ toReject, processing.failures.toReject = some toReject →
    supply.publications.head = .ok ()
      ∧ ∀ n error, supply.outcomes.get n = .error error →
        processing.naming.CanReject (toReject payload error)

variable {processing}

/-! ### Deliveries before the last one -/

section Requeue

variable (processing) {delivered : ℕ → Inbound} {payload : α}
  (hplace : processing.strategy.place = .requeue)
  (hbudget : processing.strategy.retries < 0xFFFFFFFF)
  (hdelivered : Counted delivered processing.strategy.retries.toNat)
  (hpayload : processing.format.decode? (delivered 0).payload = some payload) {n : ℕ}

include hplace hbudget hdelivered hpayload

theorem processed_counted (hn : n ≤ processing.strategy.retries.toNat) (supply : Supply) :
  processing.processed H (delivered n) supply
    = (processing.closing (delivered n) payload 1 { supply with outcomes := supply.outcomes.tail }
        supply.outcomes.head).after
      [.dispatch (processing.call payload (delivered n).context) supply.outcomes.head]
  := by
  apply processing.processed_requeue hplace
  · have hcount := hdelivered.count n hn
    rw [UInt32.lt_iff_toNat_lt] at hbudget ⊢
    omega
  · rw [hdelivered.payload n hn, hpayload]

/-- A failure within the budget is left to the broker. -/
theorem processed_of_failure (hn : n < processing.strategy.retries.toNat) (supply : Supply)
    (hfailure : isFailure supply.outcomes.head) :
  processing.processed H (delivered n) supply
    = ⟨[.dispatch (processing.call payload (delivered n).context) supply.outcomes.head],
        .ok (.retryAfter processing.strategy.interval),
        { supply with outcomes := supply.outcomes.tail }⟩
  := by
  have hlt : (delivered n).context.retries < processing.strategy.retries := by
    rw [UInt32.lt_iff_toNat_lt, hdelivered.count n hn.le]
    apply hn
  obtain ⟨cause, hcause⟩ := exists_cause_of_isFailure hfailure
  rw [processing.processed_counted hplace hbudget hdelivered hpayload hn.le, hcause]
  simp [closing, hplace, handingBack, hlt]

/-- Up to the last delivery, each one finds the outcomes that the ones before have left. -/
theorem deliveries_eq {supply : Supply}
    (hn : n ≤ failuresWithin processing.strategy.retries.toNat supply.outcomes) :
  processing.deliveries H delivered supply n
    = processing.processed H (delivered n)
        { supply with outcomes := supply.outcomes.drop n }
  := by
  induction n with
  | zero => rfl
  | succ n ih =>
      have hle := failuresWithin_le processing.strategy.retries.toNat supply.outcomes
      have hfailure : isFailure (supply.outcomes.drop n).head := by
        rw [Stream'.head_drop]
        apply isFailure_of_lt_failuresWithin hn
      have hfound := processing.processed_of_failure (n := n) (H := H) hplace hbudget hdelivered
        hpayload (by omega) { supply with outcomes := supply.outcomes.drop n } hfailure
      rw [deliveries, ih (by omega), hfound, Stream'.tail_drop']

theorem deliveries_of_lt {supply : Supply}
    (hn : n < failuresWithin processing.strategy.retries.toNat supply.outcomes) :
  processing.deliveries H delivered supply n
    = ⟨[.dispatch (processing.call payload (delivered n).context) (supply.outcomes.get n)],
        .ok (.retryAfter processing.strategy.interval),
        { supply with outcomes := supply.outcomes.drop (n + 1) }⟩
  := by
  have hle := failuresWithin_le processing.strategy.retries.toNat supply.outcomes
  have hfailure : isFailure (supply.outcomes.drop n).head := by
    rw [Stream'.head_drop]
    apply isFailure_of_lt_failuresWithin hn
  rw [processing.deliveries_eq hplace hbudget hdelivered hpayload hn.le,
    processing.processed_of_failure hplace hbudget hdelivered hpayload (by omega) _ hfailure,
    Stream'.head_drop, Stream'.tail_drop']

theorem deliveries_of_le {supply : Supply}
    (hn : n ≤ failuresWithin processing.strategy.retries.toNat supply.outcomes) :
  processing.deliveries H delivered supply n
    = (processing.closing (delivered n) payload 1
        { supply with outcomes := supply.outcomes.drop (n + 1) } (supply.outcomes.get n)).after
      [.dispatch (processing.call payload (delivered n).context) (supply.outcomes.get n)]
  := by
  have hle := failuresWithin_le processing.strategy.retries.toNat supply.outcomes
  rw [processing.deliveries_eq hplace hbudget hdelivered hpayload hn,
    processing.processed_counted hplace hbudget hdelivered hpayload (by omega),
    Stream'.head_drop, Stream'.tail_drop']

theorem dispatches_deliveries {supply : Supply}
    (hn : n ≤ failuresWithin processing.strategy.retries.toNat supply.outcomes) :
  (processing.deliveries H delivered supply n).dispatches
    = [(processing.call payload (delivered n).context, supply.outcomes.get n)]
  := by
  rw [processing.deliveries_of_le hplace hbudget hdelivered hpayload hn, Performance.dispatches,
    Performance.acts_after, List.filterMap_append, filterMap_acts_closing fun _ _ => rfl]
  rfl

theorem sum_dispatches_deliveries {supply : Supply}
    (hn : n ≤ failuresWithin processing.strategy.retries.toNat supply.outcomes) :
  ∑ m ∈ Finset.range (n + 1), (processing.deliveries H delivered supply m).dispatches.length
    = n + 1
  := by
  calc ∑ m ∈ Finset.range (n + 1), (processing.deliveries H delivered supply m).dispatches.length
      = ∑ m ∈ Finset.range (n + 1), 1 := by
        apply Finset.sum_congr rfl
        intro m hm
        have hle := Finset.mem_range.mp hm
        rw [processing.dispatches_deliveries hplace hbudget hdelivered hpayload (by omega)]
        rfl
    _ = n + 1 := by simp

/-- Deliveries before the last one publish nothing. -/
theorem sum_publications_deliveries {supply : Supply}
    (hn : n ≤ failuresWithin processing.strategy.retries.toNat supply.outcomes) :
  ∑ m ∈ Finset.range (n + 1), (processing.deliveries H delivered supply m).publications.length
    = (processing.closing (delivered n) payload 1
        { supply with outcomes := supply.outcomes.drop (n + 1) }
        (supply.outcomes.get n)).publications.length
  := by
  have hnone (m : ℕ) (hm : m ∈ Finset.range n) :
      (processing.deliveries H delivered supply m).publications.length = 0 := by
    have hlt := Finset.mem_range.mp hm
    rw [processing.deliveries_of_lt hplace hbudget hdelivered hpayload (by omega)]
    rfl
  rw [Finset.sum_range_succ, Finset.sum_eq_zero hnone, Nat.zero_add,
    processing.deliveries_of_le hplace hbudget hdelivered hpayload hn]
  rfl

end Requeue

/-! ### The last delivery -/

theorem handOver_accepted {naming : Naming} {event : RejectEvent} (h : naming.CanReject event)
    {supply : Supply} (hpublication : supply.publications.head = .ok ()) (context : Context) :
  (supply.handOver (D := D) (naming.rejection event context)).value = .ok ()
    ∧ (supply.handOver (D := D) (naming.rejection event context)).publications.length = 1
  := by
  obtain ⟨message, hmessage⟩ := h.exists_rejection context
  rw [hmessage, Supply.handOver, hpublication]
  constructor <;> rfl

theorem compensation_accepted (processing : Processing D α) {payload : α}
    {error : HandlerError} {supply : Supply}
    (h : ∀ toReject, processing.failures.toReject = some toReject →
      supply.publications.head = .ok () ∧ processing.naming.CanReject (toReject payload error))
    (message : Inbound) :
  (processing.compensation message payload error supply).value = .ok ()
    ∧ (processing.compensation message payload error supply).publications.length
      = if processing.failures.toReject.isSome then 1 else 0
  := by
  rw [compensation]
  split
  · rename_i hnone
    rw [hnone]
    constructor <;> rfl
  · rename_i toReject hsome
    obtain ⟨hpublication, hevent⟩ := h toReject hsome
    rw [hsome]
    apply handOver_accepted hevent hpublication

theorem refusal_accepted (processing : Processing D α) {payload : α} {reason : Refusal}
    {supply : Supply}
    (h : ∀ toReject, processing.failures.toReject = some toReject →
      supply.publications.head = .ok ()
        ∧ processing.naming.CanReject (toReject payload (.rejected reason)))
    (message : Inbound) :
  (processing.refusal message payload reason supply).value
      = (if processing.failures.toReject.isNone && processing.failures.rethrow then
          .failed (.rejected reason)
        else .ok .ack)
    ∧ (processing.refusal message payload reason supply).publications.length
      = if processing.failures.toReject.isSome then 1 else 0
  := by
  obtain ⟨hvalue, hlength⟩ := processing.compensation_accepted h message
  rw [refusal]
  cases hreject : processing.failures.toReject with
  | none => constructor <;> rfl
  | some toReject =>
      rw [hreject] at hlength
      constructor
      · rw [if_pos Option.isSome_some, Performance.map, hvalue]
        rfl
      · apply hlength

/-- The last delivery ends as the last attempt in the process does, but for the
compensation of a failure. -/
theorem closing_byBroker (processing : Processing D α) {retries : UInt32} (i j : Time.Duration)
    {payload : α} {outcome : Except HandlerError Unit} (supply : Supply)
    (haccepted : ∀ error, outcome = .error error →
      ∀ toReject, processing.failures.toReject = some toReject →
        supply.publications.head = .ok () ∧ processing.naming.CanReject (toReject payload error))
    {first last : Inbound} (htype : last.messageType = first.messageType)
    (hlast : isFailure outcome → last.context.retries = retries) (attempt : UInt32) :
  ((processing.byBroker retries j).closing last payload attempt supply outcome).value
      = ((processing.inProcess retries i).closing first payload (retries + 1) supply outcome).value
    ∧ ((processing.byBroker retries j).closing last payload attempt supply
        outcome).publications.length
      = ((processing.inProcess retries i).closing first payload (retries + 1) supply
          outcome).publications.length
        + if processing.failures.toReject.isSome && isFailure outcome then 1 else 0
  := by
  match outcome with
  | .ok () =>
      constructor
      · rfl
      · rw [isFailure, Bool.and_false]
        rfl
  | .error (.domain text) =>
      constructor
      · rfl
      · rw [show isFailure (.error (.domain text)) = false from rfl, Bool.and_false]
        rfl
  | .error (.rejected reason) =>
      rw [show isFailure (.error (.rejected reason)) = false from rfl, Bool.and_false]
      obtain ⟨hlastValue, hlastLength⟩ :=
        processing.refusal_accepted (haccepted _ rfl) last
      obtain ⟨hfirstValue, hfirstLength⟩ :=
        processing.refusal_accepted (haccepted _ rfl) first
      constructor
      · apply hlastValue.trans hfirstValue.symm
      · apply hlastLength.trans hfirstLength.symm
  | .error (.failed cause) =>
      obtain rfl := hlast rfl
      obtain ⟨hvalue, hlength⟩ := processing.compensation_accepted (haccepted _ rfl) last
      have hclosing : (processing.byBroker last.context.retries j).closing last payload attempt
          supply (.error (.failed cause))
          = (processing.compensation last payload (.failed cause) supply).map
              (Answer.provided (processing.exhaustion last (last.context.retries + 1))) :=
        if_neg (UInt32.lt_irrefl _)
      rw [hclosing, show isFailure (.error (.failed cause)) = true from rfl, Bool.and_true]
      constructor
      · rw [Performance.map, hvalue, Answer.provided, exhaustion, htype]
        rfl
      · apply hlength.trans
        apply (Nat.zero_add _).symm

/-- A budget is spent in the same way by redelivery as in the process.  The chain of
deliveries ends within the budget; each of them runs the handler once, with the next outcome;
all but the last ask for redelivery after the interval; the last one answers as all attempts
in the process do, which are as many.  Only a failure at the end makes a difference: it is
compensated for by one more publication, if errors are compensated for at all. -/
theorem byBroker_agrees_with_inProcess {processing : Processing D α} {retries : UInt32}
    (hbudget : retries < 0xFFFFFFFF) (i j : Time.Duration) {delivered : ℕ → Inbound} {payload : α}
    (hdelivered : Counted delivered retries.toNat)
    (hpayload : processing.format.decode? (delivered 0).payload = some payload) {supply : Supply}
    (hcompensable : processing.Compensable payload supply) :
  ∃ n ≤ retries.toNat,
    (∀ m ≤ n,
      ((processing.byBroker retries j).deliveries H delivered supply m).dispatches
        = [(processing.call payload (delivered m).context, supply.outcomes.get m)])
    ∧ (∀ m < n,
      ((processing.byBroker retries j).deliveries H delivered supply m).value
        = .ok (.retryAfter j))
    ∧ (∀ delay,
      ((processing.byBroker retries j).deliveries H delivered supply n).value
        ≠ .ok (.retryAfter delay))
    ∧ ((processing.byBroker retries j).deliveries H delivered supply n).value
      = ((processing.inProcess retries i).processed H (delivered 0) supply).value
    ∧ ∑ m ∈ Finset.range (n + 1),
        ((processing.byBroker retries j).deliveries H delivered supply m).dispatches.length
      = ((processing.inProcess retries i).processed H (delivered 0) supply).dispatches.length
    ∧ ∑ m ∈ Finset.range (n + 1),
        ((processing.byBroker retries j).deliveries H delivered supply m).publications.length
      = ((processing.inProcess retries i).processed H (delivered 0) supply).publications.length
        + if processing.failures.toReject.isSome && isFailure (supply.outcomes.get n) then 1 else 0
  := by
  obtain ⟨n, hn⟩ : ∃ n, n = failuresWithin retries.toNat supply.outcomes := ⟨_, rfl⟩
  have hle : n ≤ retries.toNat := by
    rw [hn]
    apply failuresWithin_le
  have haccepted (error : HandlerError) (herror : supply.outcomes.get n = .error error)
      (toReject : α → HandlerError → RejectEvent)
      (hreject : processing.failures.toReject = some toReject) :
      supply.publications.head = .ok ()
        ∧ processing.naming.CanReject (toReject payload error) := by
    obtain ⟨hpublication, hevents⟩ := hcompensable toReject hreject
    exact ⟨hpublication, hevents n error herror⟩
  obtain ⟨hvalue, hlength⟩ := processing.closing_byBroker i j
    { supply with outcomes := supply.outcomes.drop (n + 1) } haccepted
    (hdelivered.messageType n hle) (hdelivered.retries_of_last_failure hn) 1
  have hagrees : ((processing.byBroker retries j).deliveries H delivered supply n).value
      = ((processing.inProcess retries i).processed H (delivered 0) supply).value := by
    rw [(processing.inProcess retries i).processed_inProcess rfl hbudget hpayload supply hn,
      (processing.byBroker retries j).deliveries_of_le rfl hbudget hdelivered hpayload hn.le,
      Performance.value_after, Performance.value_after]
    apply hvalue
  use n, hle
  refine ⟨?_, ?_, ?_, hagrees, ?_, ?_⟩
  · intro m hm
    apply (processing.byBroker retries j).dispatches_deliveries rfl hbudget hdelivered hpayload
    exact hn ▸ hm
  · intro m hm
    rw [(processing.byBroker retries j).deliveries_of_lt rfl hbudget hdelivered hpayload (hn ▸ hm)]
    rfl
  · intro delay
    rw [hagrees, (processing.inProcess retries i).value_inProcess rfl hbudget hpayload supply hn]
    apply answerTo_ne_retryAfter
  · rw [(processing.inProcess retries i).dispatches_inProcess rfl hbudget hpayload supply hn,
      (processing.byBroker retries j).sum_dispatches_deliveries rfl hbudget hdelivered hpayload
        hn.le,
      List.length_map, Stream'.length_take]
  · rw [(processing.inProcess retries i).publications_inProcess rfl hbudget hpayload supply hn,
      (processing.byBroker retries j).sum_publications_deliveries rfl hbudget hdelivered hpayload
        hn.le]
    apply hlength

theorem byBroker_agrees_on_two_failures :
  let supply := Supply.ofOutcomes [.error (.failed "late"), .error (.failed "lost")]
  let broker := ((ticking .requeue (some tickMissed)).byBroker 1 (.ofSeconds 2)).deliveries Empty
    (fun n => tick (.ofNat n)) supply
  let inProcess := ((ticking .requeue (some tickMissed)).inProcess 1 (.ofMillis 500)).processed
    Empty (tick 0) supply
  ∃ n ≤ 1, (broker n).value = inProcess.value
    ∧ ∑ m ∈ Finset.range (n + 1), (broker m).publications.length
      = inProcess.publications.length + 1
  := by
  intro supply broker inProcess
  have hdelivered : Counted (fun n => tick (.ofNat n)) (1 : UInt32).toNat := by
    constructor
    · intro n hn
      rfl
    · intro n hn
      rfl
    · intro n hn
      have hlt : n ≤ 1 := hn
      change (UInt32.ofNat n).toNat = n
      rw [UInt32.toNat_ofNat']
      omega
  have hcompensable : (ticking .requeue (some tickMissed)).Compensable () supply := by
    intro toReject hreject
    obtain rfl := Option.some.inj hreject
    refine ⟨rfl, ?_⟩
    intro n error herror
    exact ⟨⟨_, rfl⟩, rfl⟩
  obtain ⟨n, hn, -, -, -, hvalue, -, hpublications⟩ :=
    byBroker_agrees_with_inProcess (H := Empty) (by decide) (.ofMillis 500) (.ofSeconds 2)
      hdelivered rfl hcompensable
  have hfailure : isFailure (supply.outcomes.get n) = true := by
    have hle : n ≤ 1 := hn
    match n, hle with
    | 0, _ => rfl
    | 1, _ => rfl
  rw [hfailure] at hpublications
  use n, hn, hvalue, hpublications

end Processing

end AmqpBus

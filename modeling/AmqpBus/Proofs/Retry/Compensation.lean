import AmqpBus.Proofs.Retry.Bound
import AmqpBus.Proofs.Route

/-!
# Compensation

What becomes of a message follows from the last outcome of its handler.  A reject event
stands only for a refusal, or for a failure that was left to the broker too often; it is
published once, before the message is acknowledged, and where it cannot be published the
message is not acknowledged.
-/

namespace AmqpBus

open Operation

variable {D H α : Type}

/-- How the publication of a reject event ends: the messages that are handed to the
transport, and the answer, which is the intended one if the transport accepts the
event. -/
inductive Compensated (naming : Naming) (event : RejectEvent) (context : Context)
    (intended : Answer) : List (Outbound × Option (Except BrokerError Unit)) → Answer → Prop
  | unresolved {error : BusError} :
      naming.resolveRejection event.type = .error error →
      Compensated naming event context intended [] (.failed error)
  | unwritten {route : Route} :
      naming.resolveRejection event.type = .ok route →
      event.payload? = none →
      Compensated naming event context intended [] (.failed (.serialization route.messageType))
  | refused {route : Route} {payload : ByteArray} {error : BrokerError} :
      naming.resolveRejection event.type = .ok route →
      event.payload? = some payload →
      Compensated naming event context intended
        [({ route, payload, context, options := {} }, some (.error error))]
        (.failed (.transport error))
  | accepted {route : Route} {payload : ByteArray} :
      naming.resolveRejection event.type = .ok route →
      event.payload? = some payload →
      Compensated naming event context intended
        [({ route, payload, context, options := {} }, some (.ok ()))] intended

/-- Handing over a reject event compensates. -/
theorem compensated_handOver (naming : Naming) (event : RejectEvent) (context : Context)
    (intended : Answer) (supply : Supply) :
  Compensated naming event context intended
    (supply.handOver (D := D) (naming.rejection event context)).publications
    (intended.provided (supply.handOver (D := D) (naming.rejection event context)).value)
  := by
  rw [Naming.rejection]
  cases hroute : naming.resolveRejection event.type with
  | error error => apply Compensated.unresolved hroute
  | ok route =>
      cases hpayload : event.payload? with
      | none => apply Compensated.unwritten hroute hpayload
      | some payload =>
          cases hpublication : supply.publications.head with
          | error error =>
              simp only [Supply.handOver, hpublication]
              apply Compensated.refused hroute hpayload
          | ok done =>
              simp only [Supply.handOver, hpublication]
              apply Compensated.accepted hroute hpayload

theorem length_publications_le {naming : Naming} {event : RejectEvent} {context : Context}
    {intended answer : Answer}
    {publications : List (Outbound × Option (Except BrokerError Unit))}
    (h : Compensated naming event context intended publications answer) :
  publications.length ≤ 1
  := by
  cases h <;> simp

/-- What is published as a reject event keeps the context and goes to an error exchange. -/
theorem published_of_compensated {naming : Naming} {event : RejectEvent} {context : Context}
    {intended answer : Answer}
    {publications : List (Outbound × Option (Except BrokerError Unit))}
    (h : Compensated naming event context intended publications answer) :
  ∀ publication ∈ publications, publication.1.context = context
    ∧ ∃ descriptor, naming.registry.descriptor event.type = .ok descriptor
      ∧ descriptor.role = .reject
      ∧ publication.1.route.exchange.name = naming.errorExchange descriptor
  := by
  intro publication hpublication
  cases h with
  | unresolved _ => contradiction
  | unwritten _ _ => contradiction
  | refused hroute _ =>
      obtain rfl := List.mem_singleton.mp hpublication
      exact ⟨rfl, Naming.exchange_of_resolveRejection hroute⟩
  | accepted hroute _ =>
      obtain rfl := List.mem_singleton.mp hpublication
      exact ⟨rfl, Naming.exchange_of_resolveRejection hroute⟩

namespace Processing

variable (processing : Processing D α)

/-- Processing ends with what follows the outcome of the last attempt, which is the first
one where the broker brings messages again, and a failure only when the budget is used up
where it does not. -/
theorem processed_eq_closing {message : Inbound} {payload : α}
    (hbudget : processing.strategy.retries < 0xFFFFFFFF)
    (hcount : message.context.retries < 0xFFFFFFFF)
    (hpayload : processing.format.decode? message.payload = some payload) (supply : Supply) :
  ∃ n attempt,
    processing.processed H message supply
      = (processing.closing message payload attempt
          { supply with outcomes := supply.outcomes.drop (n + 1) } (supply.outcomes.get n)).after
        (processing.attempted message payload (supply.outcomes.take (n + 1)))
    ∧ (processing.strategy.place = .inProcess → isFailure (supply.outcomes.get n) →
      n = processing.strategy.retries.toNat ∧ attempt = processing.strategy.retries + 1)
  := by
  cases hplace : processing.strategy.place with
  | inProcess =>
      use failuresWithin processing.strategy.retries.toNat supply.outcomes,
        processing.strategy.retries + 1,
        processing.processed_inProcess hplace hbudget hpayload supply rfl
      intro _ hfailure
      refine ⟨?_, rfl⟩
      by_contra hne
      have hle := failuresWithin_le processing.strategy.retries.toNat supply.outcomes
      rw [isFailure_get_failuresWithin (by omega)] at hfailure
      contradiction
  | requeue =>
      use 0, 1
      refine ⟨?_, by simp⟩
      rw [processing.processed_requeue hplace hcount hpayload]
      rfl

/-- What a performance owes to the outcome of its last attempt. -/
structure Follows (message : Inbound) (payload : α) (last : Except HandlerError Unit)
    (performance : Performance D Answer) : Prop where
  handled : last = .ok () →
    performance.publications = [] ∧ performance.value = .ok .ack
  invalid : ∀ text, last = .error (.domain text) →
    performance.publications = [] ∧ performance.value = .ok .ack
  refused : ∀ reason, last = .error (.rejected reason) → processing.failures.toReject = none →
    performance.publications = []
      ∧ performance.value
        = if processing.failures.rethrow then .failed (.rejected reason) else .ok .ack
  refused_compensated : ∀ reason toReject, last = .error (.rejected reason) →
    processing.failures.toReject = some toReject →
    Compensated processing.naming (toReject payload (.rejected reason)) message.context
      (.ok .ack) performance.publications performance.value
  exhausted_inProcess : ∀ cause, last = .error (.failed cause) →
    processing.strategy.place = .inProcess →
    performance.dispatches.length = processing.strategy.retries.toNat + 1
      ∧ performance.publications = []
      ∧ performance.value = processing.exhaustion message (processing.strategy.retries + 1)
  handed_back : ∀ cause, last = .error (.failed cause) →
    processing.strategy.place = .requeue →
    message.context.retries < processing.strategy.retries →
    performance.publications = []
      ∧ performance.value = .ok (.retryAfter processing.strategy.interval)
  exhausted : ∀ cause, last = .error (.failed cause) →
    processing.strategy.place = .requeue →
    processing.strategy.retries ≤ message.context.retries →
    processing.failures.toReject = none →
    performance.publications = []
      ∧ performance.value = processing.exhaustion message (message.context.retries + 1)
  exhausted_compensated : ∀ cause toReject, last = .error (.failed cause) →
    processing.strategy.place = .requeue →
    processing.strategy.retries ≤ message.context.retries →
    processing.failures.toReject = some toReject →
    Compensated processing.naming (toReject payload (.failed cause)) message.context
      (processing.exhaustion message (message.context.retries + 1))
      performance.publications performance.value

theorem compensation_of_some {toReject : α → HandlerError → RejectEvent}
    (h : processing.failures.toReject = some toReject) (message : Inbound) (payload : α)
    (error : HandlerError) (supply : Supply) :
  processing.compensation message payload error supply
    = supply.handOver (processing.naming.rejection (toReject payload error) message.context)
  := by
  rw [compensation, h]

theorem compensation_of_none (h : processing.failures.toReject = none) (message : Inbound)
    (payload : α) (error : HandlerError) (supply : Supply) :
  processing.compensation message payload error supply = ⟨[], .ok (), supply⟩
  := by
  rw [compensation, h]

/-- What comes after the last attempt follows its outcome. -/
theorem follows_closing (message : Inbound) (payload : α) (last : Except HandlerError Unit)
    (attempt : UInt32) (supply : Supply) {acts : List (Act D)}
    (hacts : acts.filterMap Act.publication? = [])
    (hlast : processing.strategy.place = .inProcess → isFailure last →
      (acts.filterMap Act.dispatch?).length = processing.strategy.retries.toNat + 1
        ∧ attempt = processing.strategy.retries + 1) :
  processing.Follows message payload last
    ((processing.closing message payload attempt supply last).after acts)
  := by
  have hpublications (performance : Performance D Answer) :
      (performance.after acts).publications = performance.publications := by
    rw [Performance.publications, Performance.acts_after, List.filterMap_append, hacts,
      List.nil_append]
    rfl
  constructor
  · rintro rfl
    rw [hpublications]
    constructor <;> rfl
  · rintro text rfl
    rw [hpublications]
    constructor <;> rfl
  · rintro reason rfl hnone
    rw [hpublications, closing, processing.refusal_of_none hnone]
    constructor <;> rfl
  · rintro reason toReject rfl hsome
    rw [hpublications, closing, processing.refusal_of_some hsome]
    apply compensated_handOver
  · rintro cause rfl hplace
    obtain ⟨hlength, rfl⟩ := hlast hplace rfl
    rw [hpublications, closing, hplace]
    refine ⟨?_, rfl, rfl⟩
    simpa [Performance.dispatches] using hlength
  · rintro cause rfl hplace hlt
    rw [hpublications, closing, hplace, handingBack, if_pos hlt]
    constructor <;> rfl
  · rintro cause rfl hplace hle hnone
    rw [hpublications, closing, hplace, handingBack, if_neg (UInt32.not_lt.mpr hle),
      processing.compensation_of_none hnone]
    constructor <;> rfl
  · rintro cause toReject rfl hplace hle hsome
    rw [hpublications, closing, hplace, handingBack, if_neg (UInt32.not_lt.mpr hle),
      processing.compensation_of_some hsome]
    apply compensated_handOver

/-- What is published stands for an error that is compensated. -/
theorem Follows.publishes {processing : Processing D α} {message : Inbound} {payload : α}
    {last : Except HandlerError Unit} {performance : Performance D Answer}
    (h : processing.Follows message payload last performance) :
  performance.publications = []
    ∨ ∃ event intended, Compensated processing.naming event message.context intended
      performance.publications performance.value
  := by
  match last with
  | .ok () =>
      left
      apply (h.handled rfl).1
  | .error (.domain text) =>
      left
      apply (h.invalid text rfl).1
  | .error (.rejected reason) =>
      cases hreject : processing.failures.toReject with
      | none =>
          left
          apply (h.refused reason rfl hreject).1
      | some toReject =>
          right
          exact ⟨_, _, h.refused_compensated reason toReject rfl hreject⟩
  | .error (.failed cause) =>
      cases hplace : processing.strategy.place with
      | inProcess =>
          left
          apply (h.exhausted_inProcess cause rfl hplace).2.1
      | requeue =>
          by_cases hlt : message.context.retries < processing.strategy.retries
          · left
            apply (h.handed_back cause rfl hplace hlt).1
          · have hle := UInt32.not_lt.mp hlt
            cases hreject : processing.failures.toReject with
            | none =>
                left
                apply (h.exhausted cause rfl hplace hle hreject).1
            | some toReject =>
                right
                exact ⟨_, _, h.exhausted_compensated cause toReject rfl hplace hle hreject⟩

/-- What is published and answered follows the outcome of the last attempt.  In any case at
most one message is published, in the context of the message and to the error exchange of a
reject event; and a message that cannot be read is rejected without an attempt. -/
theorem answer_follows_last_outcome {processing : Processing D α} {message : Inbound}
    (hbudget : processing.strategy.retries < 0xFFFFFFFF)
    (hcount : message.context.retries < 0xFFFFFFFF) (supply : Supply) :
  (processing.processed H message supply).publications.length ≤ 1
    ∧ (∀ publication ∈ (processing.processed H message supply).publications,
      publication.1.context = message.context
        ∧ ∃ type descriptor, processing.naming.registry.descriptor type = .ok descriptor
          ∧ descriptor.role = .reject
          ∧ publication.1.route.exchange.name = processing.naming.errorExchange descriptor)
    ∧ (processing.format.decode? message.payload = none →
      (processing.processed H message supply).acts = []
        ∧ (processing.processed H message supply).value = .ok .reject)
    ∧ ∀ payload, processing.format.decode? message.payload = some payload →
      ∃ last, (processing.processed H message supply).dispatches.getLast?
          = some (processing.call payload message.context, last)
        ∧ processing.Follows message payload last (processing.processed H message supply)
  := by
  have hunreadable (h : processing.format.decode? message.payload = none) :
      (processing.processed H message supply).acts = []
        ∧ (processing.processed H message supply).value = .ok .reject := by
    rw [processing.processed_of_unreadable h]
    constructor <;> rfl
  have hfollows (payload : α) (h : processing.format.decode? message.payload = some payload) :
      ∃ last, (processing.processed H message supply).dispatches.getLast?
          = some (processing.call payload message.context, last)
        ∧ processing.Follows message payload last
          (processing.processed H message supply) := by
    obtain ⟨n, attempt, hclosing, hlast⟩ :=
      processing.processed_eq_closing (H := H) hbudget hcount h supply
    use supply.outcomes.get n
    rw [hclosing]
    constructor
    · rw [Performance.dispatches, Performance.acts_after, List.filterMap_append,
        filterMap_acts_closing (fun _ _ => rfl), List.append_nil, dispatches_attempted,
        Stream'.take_succ', List.map_append, List.map_singleton, List.getLast?_concat]
    · apply processing.follows_closing
      · apply publications_attempted
      · intro hplace hfailure
        obtain ⟨rfl, rfl⟩ := hlast hplace hfailure
        simp [dispatches_attempted]
  have hpublishes : (processing.processed H message supply).publications = []
      ∨ ∃ event intended, Compensated processing.naming event message.context intended
        (processing.processed H message supply).publications
        (processing.processed H message supply).value := by
    cases hpayload : processing.format.decode? message.payload with
    | none =>
        left
        rw [Performance.publications, (hunreadable hpayload).1]
        rfl
    | some payload =>
        obtain ⟨last, -, h⟩ := hfollows payload hpayload
        apply h.publishes
  refine ⟨?_, ?_, hunreadable, hfollows⟩
  · obtain hnone | ⟨event, intended, h⟩ := hpublishes
    · simp [hnone]
    · apply length_publications_le h
  · intro publication hpublication
    obtain hnone | ⟨event, intended, h⟩ := hpublishes
    · simp [hnone] at hpublication
    · obtain ⟨hcontext, hdescriptor⟩ := published_of_compensated h publication hpublication
      exact ⟨hcontext, event.type, hdescriptor⟩

theorem answer_follows_failure_of_last_delivery :
  let performance := (ticking .requeue (some tickMissed)).processed Empty (tick 3)
    (.ofOutcomes [.error (.failed "late")])
  performance.dispatches = [(((), (tick 3).context), .error (.failed "late"))]
    ∧ performance.publications.map (fun publication => publication.1.payload)
      = ["handler failure: late".toUTF8]
  := by
  intro performance
  have hperformance : performance = _ :=
    (ticking .requeue (some tickMissed)).processed_requeue rfl (by decide) rfl _
  have hdispatches : performance.dispatches
      = [(((), (tick 3).context), .error (.failed "late"))] := by
    rw [hperformance, Performance.dispatches, Performance.acts_after, List.filterMap_append,
      filterMap_acts_closing fun _ _ => rfl]
    rfl
  obtain ⟨-, -, -, hreadable⟩ := answer_follows_last_outcome (H := Empty)
    (show (ticking .requeue (some tickMissed)).strategy.retries < 0xFFFFFFFF by decide)
    (show (tick 3).context.retries < 0xFFFFFFFF by decide) (.ofOutcomes [.error (.failed "late")])
  obtain ⟨last, hlast, hfollows⟩ := hreadable () rfl
  change performance.dispatches.getLast? = _ at hlast
  rw [hdispatches] at hlast
  obtain rfl := congrArg Prod.snd (Option.some.inj hlast)
  have hcompensated := hfollows.exhausted_compensated "late" tickMissed rfl rfl (by decide) rfl
  obtain ⟨route, hroute⟩ : ∃ route, tickNaming.resolveRejection "clock::TickMissed" = .ok route :=
    ⟨_, rfl⟩
  use hdispatches
  change Compensated _ _ _ _ performance.publications performance.value at hcompensated
  generalize performance.publications = publications at hcompensated ⊢
  generalize performance.value = value at hcompensated
  cases hcompensated with
  | unresolved herror =>
      have hne := hroute.symm.trans herror
      contradiction
  | unwritten _ hnone => contradiction
  | refused _ hsome =>
      obtain rfl := Option.some.inj hsome
      rfl
  | accepted _ hsome =>
      obtain rfl := Option.some.inj hsome
      rfl

end Processing

end AmqpBus

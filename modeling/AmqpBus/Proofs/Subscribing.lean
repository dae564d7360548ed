import AmqpBus.Proofs.Registry
import AmqpBus.Proofs.Retry.Outcome
import AmqpBus.Proofs.Subscription

/-!
# Subscribing

A subscription is handed to the transport only if it can work.  Its type must be registered, the
names that were given for its queue must agree, the broker must not be asked to bring messages
again that it counts as handled, and the token must not be cancelled; the first of these that
fails is what is returned.  What is handed over is the route of the type, to which nothing was
done but that its queue has companions.
-/

namespace AmqpBus

open Interaction Operation

/-! ### Companions of a queue -/

theorem Time.Duration.millis_ofSeconds (seconds : ℕ) :
  (ofSeconds seconds).millis = 1000 * seconds
  := by
  simp only [millis, ofSeconds]
  omega

namespace Queue

/-- The time that a message waits is the whole milliseconds of the interval as far as they
fit. -/
theorem toInt_retryTtl (interval : Time.Duration) :
  (retryTtl interval).toInt = min interval.millis 2147483647
  := by
  have hfits : min interval.millis 0x7FFFFFFF < 2 ^ 31 := by omega
  rw [retryTtl, Int32.toInt_ofNat_of_lt hfits]

/-- A queue that had no retry queue gets one if the broker is to bring messages again. -/
theorem withCompanions_eq {queue : Queue} (h : queue.retry = none) (strategy : RetryStrategy) :
  queue.withCompanions strategy
    = { queue with
        deadLetters := some (queue.name ++ "-dlq")
        retry := if strategy.place = .requeue then
          some (queue.name ++ "-retry", retryTtl strategy.interval) else none }
  := by
  rw [withCompanions]
  cases strategy.place with
  | inProcess =>
      rw [← h]
      rfl
  | requeue => rfl

end Queue

theorem Naming.retry_of_route {naming : Naming} {descriptor : Descriptor} {override : Override}
    {route : Route} (h : naming.route descriptor override = .ok route) :
  route.queue.retry = none
  := by
  rw [queue_of_route h]

theorem Options.place_retryStrategy (options : Options) :
  options.retryStrategy.place = .requeue ↔ options.requeues = true
  := by
  rw [Options.retryStrategy]
  cases options.requeues <;> simp

/-! ### What is handed over -/

variable {D H α : Type}

/-- The subscription that a turn hands to the transport, with the reply. -/
def Request.subscription? :
    (request : Request D H) → request.Reply → Option (Route × H × Except BrokerError Unit)
  | .subscribe route handler, reply => some (route, handler, reply)
  | _, _ => none

/-- The subscriptions that are handed to the transport, with the replies. -/
def subscriptionsIn (turns : List (Turn (Request D H) Request.Reply)) :
    List (Route × H × Except BrokerError Unit) :=
  turns.filterMap fun turn => turn.question.subscription? turn.reply

namespace Processing

variable {processing : Processing D α} {override : Override} {route plain : Route}
  {error : BusError} {handler : H} {turns : List (Turn (Request D H) Request.Reply)}
  {result : Except BusError Unit}

theorem route_of_unresolved
    (h : processing.naming.resolve processing.format.type override = .error error) :
  processing.route override = .error error
  := by
  rw [Processing.route, h]
  rfl

/-- The broker cannot bring messages again that it counts as handled. -/
theorem route_of_autoAck
    (h : processing.naming.resolve processing.format.type override = .ok plain)
    (hauto : plain.consumer.autoAck = true) (hplace : processing.strategy.place = .requeue) :
  processing.route override = .error (.configuration (.autoAckRequeue plain.queue.name))
  := by
  rw [Processing.route, h]
  dsimp only [Bind.bind, Except.bind]
  rw [if_pos ⟨hauto, hplace⟩]
  rfl

theorem route_of_manual
    (h : processing.naming.resolve processing.format.type override = .ok plain)
    (hmanual : ¬(plain.consumer.autoAck = true ∧ processing.strategy.place = .requeue)) :
  processing.route override
    = .ok { plain with queue := plain.queue.withCompanions processing.strategy }
  := by
  rw [Processing.route, h]
  dsimp only [Bind.bind, Except.bind]
  rw [if_neg hmanual]
  rfl

/-- Without a route no subscription is handed over. -/
theorem subscriptionsIn_of_error (h : processing.route override = .error error)
    (hcourse : Course (processing.subscribe override handler) turns result) :
  subscriptionsIn turns = [] ∧ result = .error error
  := by
  rw [Processing.subscribe, h] at hcourse
  obtain ⟨_, _, _, hcomplain, hpure, rfl⟩ := course_bind_iff.mp hcourse
  obtain rfl := course_request_iff.mp hcomplain
  obtain ⟨rfl, rfl⟩ := course_pure_iff.mp hpure
  exact ⟨rfl, rfl⟩

/-- With a route a subscription is handed over, unless the token is cancelled. -/
theorem subscriptionsIn_of_ok (h : processing.route override = .ok route)
    (hcourse : Course (processing.subscribe override handler) turns result) :
  ∃ cancelled : Bool, ⟨.isCancelled, cancelled⟩ ∈ turns
    ∧ (cancelled = true → subscriptionsIn turns = [] ∧ result = .error .cancelled)
    ∧ (cancelled = false → ∃ reply, subscriptionsIn turns = [(route, handler, reply)]
      ∧ result = reply.mapError .transport)
  := by
  rw [Processing.subscribe, h] at hcourse
  obtain ⟨_, cancelled, rest, hasked, hrest, rfl⟩ := course_bind_iff.mp hcourse
  obtain rfl := course_request_iff.mp hasked
  refine ⟨cancelled, List.mem_cons_self, ?_, ?_⟩
  · rintro rfl
    obtain ⟨rfl, rfl⟩ := course_pure_iff.mp hrest
    exact ⟨rfl, rfl⟩
  · rintro rfl
    obtain ⟨_, _, _, hlog, hhanded, rfl⟩ := course_bind_iff.mp hrest
    obtain rfl := course_request_iff.mp hlog
    obtain ⟨_, reply, last, hsubscribe, hlast, rfl⟩ := course_bind_iff.mp hhanded
    obtain rfl := course_request_iff.mp hsubscribe
    use reply
    cases reply with
    | ok done =>
        obtain ⟨rfl, rfl⟩ := course_pure_iff.mp hlast
        exact ⟨rfl, rfl⟩
    | error error =>
        obtain ⟨_, _, _, hcomplain, hpure, rfl⟩ := course_bind_iff.mp hlast
        obtain rfl := course_request_iff.mp hcomplain
        obtain ⟨rfl, rfl⟩ := course_pure_iff.mp hpure
        exact ⟨rfl, rfl⟩

end Processing

/-- What becomes of a subscription to a subject, with an override or, where nothing is said about
the topology, with `{}`.  Nothing is handed over, and the first of these that applies is
returned: the type is not registered, names disagree that were given for its queue, the broker
is to bring messages again that it counts as handled, the token is cancelled.  Else one
subscription is handed over, along the route of the type with companions for its queue, with
what the subject keeps for its deliveries; a failure of the transport is returned as such. -/
theorem Naming.subscribe_hands_over_workable {T : Type} (naming : Naming)
    (subject : Subject D H T α) (override : Override) (options : SubscriptionOptions T α)
    {cancelled : Bool} {turns : List (Turn (Request D H) Request.Reply)}
    {result : Except BusError Unit}
    (hcourse : Course (naming.subscribe subject override options) turns result)
    (htoken : ∀ reply, ⟨.isCancelled, reply⟩ ∈ turns → reply = cancelled) :
  let settings := naming.options
  let found := naming.registry.descriptor subject.format.type
  let handler := subject.keep
    { naming
      strategy :=
        { place := if settings.requeues then .requeue else .inProcess
          retries := settings.retries
          interval := .ofSeconds settings.retryInterval.toNat }
      format := subject.format
      call := subject.call
      failures := options.failures }
    options.token
  let refused (error : BusError) : Prop := subscriptionsIn turns = [] ∧ result = .error error
  ((∀ descriptor, found ≠ .ok descriptor) → refused (.unregistered subject.format.typeName))
    ∧ ∀ descriptor, found = .ok descriptor →
      (∀ first second, Naming.Disagree (Naming.queueNames descriptor override) first second →
        refused (.conflictingQueues descriptor.fullName first second))
      ∧ ((∀ first second, ¬Naming.Disagree (Naming.queueNames descriptor override) first second) →
        ∃ plain, naming.resolve subject.format.type override = .ok plain
          ∧ let hopeless := plain.consumer.autoAck = true ∧ settings.requeues = true
            (hopeless → refused (.configuration (.autoAckRequeue plain.queue.name)))
            ∧ (¬hopeless → cancelled = true → refused .cancelled)
            ∧ (¬hopeless → cancelled = false → ∃ (ttl : Int32) (reply : Except BrokerError Unit),
              ttl.toInt = min (1000 * settings.retryInterval.toNat) 2147483647
              ∧ subscriptionsIn turns
                = [({ plain with
                      queue :=
                        { plain.queue with
                          deadLetters := some (plain.queue.name ++ "-dlq")
                          retry := if settings.requeues = true then
                            some (plain.queue.name ++ "-retry", ttl) else none } },
                    handler, reply)]
              ∧ result = reply.mapError .transport))
  := by
  intro settings found handler refused
  let processing := naming.processing subject options.failures
  have hsubscribe : Course (processing.subscribe override handler) turns result := hcourse
  have hplace : processing.strategy.place = .requeue ↔ settings.requeues = true :=
    settings.place_retryStrategy
  constructor
  · intro hunregistered
    have hunresolved : naming.resolve subject.format.type override
        = .error (.unregistered subject.format.typeName) := by
      rw [Naming.resolve, Registry.descriptor_of_unregistered hunregistered]
      rfl
    apply Processing.subscriptionsIn_of_error _ hsubscribe
    apply Processing.route_of_unresolved hunresolved
  · intro descriptor hdescriptor
    have hresolves := Naming.resolve_eq_route hdescriptor override
    constructor
    · intro first second hdisagree
      rw [Naming.route_of_disagree hdisagree] at hresolves
      apply Processing.subscriptionsIn_of_error _ hsubscribe
      apply Processing.route_of_unresolved hresolves
    · intro hagree
      obtain ⟨plain, hplain⟩ : ∃ plain, naming.route descriptor override = .ok plain :=
        Naming.exists_route hagree
      rw [hplain] at hresolves
      use plain, hresolves
      intro hopeless
      have hroute (hmanual : ¬hopeless) : processing.route override
          = .ok { plain with queue := plain.queue.withCompanions processing.strategy } :=
        Processing.route_of_manual hresolves (by rwa [hplace])
      refine ⟨?_, ?_, ?_⟩
      · rintro ⟨hauto, hrequeues⟩
        apply Processing.subscriptionsIn_of_error _ hsubscribe
        apply Processing.route_of_autoAck hresolves hauto (hplace.mpr hrequeues)
      · intro hmanual hcancelled
        obtain ⟨asked, hasked, hrefused, -⟩ :=
          Processing.subscriptionsIn_of_ok (hroute hmanual) hsubscribe
        obtain rfl := htoken asked hasked
        apply hrefused hcancelled
      · intro hmanual hcalm
        obtain ⟨asked, hasked, -, hhanded⟩ :=
          Processing.subscriptionsIn_of_ok (hroute hmanual) hsubscribe
        obtain rfl := htoken asked hasked
        obtain ⟨reply, hhanded, hresult⟩ := hhanded hcalm
        use Queue.retryTtl processing.strategy.interval, reply
        refine ⟨?_, ?_, hresult⟩
        · have hinterval : processing.strategy.interval.millis
              = 1000 * settings.retryInterval.toNat :=
            Time.Duration.millis_ofSeconds settings.retryInterval.toNat
          rw [Queue.toInt_retryTtl, hinterval]
        · rw [hhanded, Queue.withCompanions_eq (Naming.retry_of_route hplain)]
          simp only [hplace]

/-- A bus whose ticks come again after the longest interval that options can give. -/
def eternal : Naming :=
  { clockNaming with
    options := { clockNaming.options with requeues := true, retryInterval := -1 } }

/-- Ticks, for which the transport keeps how they are processed and the token. -/
def keptTicks :
    Subject (Unit × Context) (Processing (Unit × Context) Unit × Option String) String Unit where
  format := tickFormat
  call := Prod.mk
  keep := Prod.mk

/-- A queue for the nights. -/
def nightly : Override := { queue := { name := some "ticks", suffix := some "night" } }

/-- The companions of the queue have its whole name, and the time that a message waits is the
longest that there is. -/
theorem subscribe_hands_over_workable_eternal :
  let subscribing := eternal.subscribe keptTicks nightly { token := some "dawn" }
  ∃ plain ttl reply,
    eternal.resolve "clock::Tick" nightly = .ok plain
      ∧ plain.queue.name = "ticks.night"
      ∧ Int32.toInt ttl = 2147483647
      ∧ subscriptionsIn (subscribing.history Supply.reply (.ofOutcomes []))
        = [({ plain with
              queue :=
                { plain.queue with
                  deadLetters := some (plain.queue.name ++ "-dlq")
                  retry := some (plain.queue.name ++ "-retry", ttl) } },
            (eternal.processing keptTicks {}, some "dawn"), reply)]
  := by
  intro subscribing
  have hcourse := course_history Supply.reply subscribing (.ofOutcomes [])
  obtain ⟨-, hregistered⟩ := Naming.subscribe_hands_over_workable eternal keptTicks nightly
    { token := some "dawn" } hcourse fun reply hasked => undisturbed_history _ _ _ hasked
  obtain ⟨-, hagreeing⟩ := hregistered _ rfl
  obtain ⟨plain, hplain, hworks⟩ := hagreeing (Naming.not_disagree_of_length (by decide))
  have hname : plain.queue.name = "ticks.night" := by
    obtain rfl := Except.ok.inj hplain
    rfl
  have hmanual : plain.consumer.autoAck = false := by
    obtain rfl := Except.ok.inj hplain
    rfl
  obtain ⟨-, -, hhanded⟩ := hworks
  obtain ⟨ttl, reply, httl, hhanded, -⟩ := hhanded (by simp [hmanual]) rfl
  use plain, ttl, reply, hplain, hname
  refine ⟨?_, hhanded⟩
  rw [httl]
  rfl

end AmqpBus

import AmqpBus.Proofs.Broker.Installing

/-!
# Declared exchanges

A transport remembers the exchanges that it has declared, so that it declares each before the
first message to it and only then.  An exchange counts as declared after a publication that
declared it and after a subscription that installed it, even if what came afterwards failed.
It does not count as declared after a declaration that failed.
-/

namespace AmqpBus.Broker

open Interaction

namespace Deed

/-- The broker was asked to declare an exchange, and did or did not. -/
def Declares (exchange : String) (success : Bool) : Deed → Prop
  | .method (.declareExchange declared _ _ _ _ _ _ _) carriedOut =>
    declared = exchange ∧ carriedOut = success
  | _ => False

/-- The broker was asked to route a message from an exchange. -/
def PublishesTo (exchange : String) : Deed → Prop
  | .method (.publish target _ _ _ _ _) _ => target = exchange
  | _ => False

theorem declares_declaration {exchange : Exchange} {name : String} {success carriedOut : Bool} :
  (Deed.method exchange.declaration carriedOut).Declares name success
    ↔ exchange.name = name ∧ carriedOut = success
  := Iff.rfl

theorem not_publishesTo_declaration {exchange : Exchange} {name : String} {carriedOut : Bool} :
  ¬(Deed.method exchange.declaration carriedOut).PublishesTo name
  := id

theorem not_declares_publication {message : Outbound} {trace : List (String × String)}
    {messageId : Uuid} {name : String} {success carriedOut : Bool} :
  ¬(Deed.method (Transport.publication message trace messageId) carriedOut).Declares name success
  := id

theorem publishesTo_publication {message : Outbound} {trace : List (String × String)}
    {messageId : Uuid} {name : String} {carriedOut : Bool} :
  (Deed.method (Transport.publication message trace messageId) carriedOut).PublishesTo name
    ↔ message.route.exchange.name = name
  := Iff.rfl

end Deed

namespace Transport

variable {transport next : Transport} {message : Outbound} {route : Route} {deeds : List Deed}
  {outcome : Except BrokerError Unit}

theorem mem_declaring {name exchange : String} :
  name ∈ (transport.declaring exchange).declared ↔ name = exchange ∨ name ∈ transport.declared
  := by
  rw [declaring]
  split
  · constructor
    · apply Or.inr
    · rintro (rfl | h) <;> assumption
  · apply List.mem_cons

/-! ### Publications -/

/-- What a broker's reply to a publication comes to. -/
def published (message : Outbound) (success : Bool) : Except BrokerError Unit :=
  if success then .ok () else .error (.publish message.route.exchange.name)

/-- A publication asks to route the message, after it has declared the exchange unless the
transport has done so before. -/
inductive Publishes (transport : Transport) (message : Outbound) :
    List Deed → Except BrokerError Unit → Transport → Prop
  | known {trace : List (String × String)} {messageId : Uuid} {success : Bool}
      (hknown : message.route.exchange.name ∈ transport.declared) :
      Publishes transport message [.method (publication message trace messageId) success]
        (published message success) transport
  | refused (hunknown : message.route.exchange.name ∉ transport.declared) :
      Publishes transport message [.method message.route.exchange.declaration false]
        (.error (.declareExchange message.route.exchange.name)) transport
  | declared {trace : List (String × String)} {messageId : Uuid} {success : Bool}
      (hunknown : message.route.exchange.name ∉ transport.declared) :
      Publishes transport message
        [.method message.route.exchange.declaration true,
          .method (publication message trace messageId) success]
        (published message success) (transport.declaring message.route.exchange.name)

/-- An exchange that is not declared yet is declared, or that fails. -/
theorem does_ensure {exchange : Exchange}
    (h : Does (transport.ensure exchange) deeds (outcome, next)) :
  (exchange.name ∈ transport.declared ∧ deeds = [] ∧ outcome = .ok () ∧ next = transport)
    ∨ exchange.name ∉ transport.declared
      ∧ ((deeds = [.method exchange.declaration false]
          ∧ outcome = .error (.declareExchange exchange.name) ∧ next = transport)
        ∨ deeds = [.method exchange.declaration true]
          ∧ outcome = .ok () ∧ next = transport.declaring exchange.name)
  := by
  rw [ensure] at h
  split at h
  · rename_i hknown
    left
    obtain ⟨rfl, ⟨⟩⟩ := does_pure_iff.mp h
    exact ⟨hknown, rfl, rfl, rfl⟩
  · rename_i hunknown
    right
    use hunknown
    obtain ⟨first, declared, rest, hdeclare, hrest, rfl⟩ := does_bind_iff.mp h
    cases makes_declareExchange exchange first declared hdeclare with
    | failed =>
        left
        obtain ⟨rfl, ⟨⟩⟩ := does_pure_iff.mp hrest
        exact ⟨rfl, rfl, rfl⟩
    | next _ h =>
        cases h
        right
        obtain ⟨rfl, ⟨⟩⟩ := does_pure_iff.mp hrest
        exact ⟨rfl, rfl, rfl⟩

theorem publishes (h : Does (transport.publish message) deeds (outcome, next)) :
  Publishes transport message deeds outcome next
  := by
  obtain ⟨first, ⟨declared, after⟩, rest, hensure, hrest, rfl⟩ := does_bind_iff.mp h
  cases declared with
  | error error =>
      obtain ⟨rfl, ⟨⟩⟩ := does_pure_iff.mp hrest
      obtain ⟨-, -, hok, -⟩ | ⟨hunknown, ⟨rfl, ⟨⟩, rfl⟩ | ⟨-, hok, -⟩⟩ := does_ensure hensure
      · contradiction
      · apply Publishes.refused hunknown
      · contradiction
  | ok done =>
      obtain ⟨_, trace, _, htrace, hidentified, rfl⟩ := does_bind_iff.mp hrest
      obtain rfl := (does_ask_iff .traceEntries).mp htrace
      obtain ⟨_, messageId, _, hid, hsent, rfl⟩ := does_bind_iff.mp hidentified
      obtain rfl := does_newId_iff.mp hid
      obtain ⟨sent, result, _, hrequire, hpure, rfl⟩ := does_bind_iff.mp hsent
      obtain ⟨rfl, ⟨⟩⟩ := does_pure_iff.mp hpure
      have hmade : ∃ success, sent = [.method (publication message trace messageId) success]
          ∧ outcome = published message success := by
        cases Makes.require _ _ _ sent outcome hrequire with
        | failed => exact ⟨false, rfl, rfl⟩
        | next _ h =>
            cases h
            exact ⟨true, rfl, rfl⟩
      obtain ⟨success, rfl, rfl⟩ := hmade
      obtain ⟨hknown, rfl, -, rfl⟩ | ⟨hunknown, ⟨-, herror, -⟩ | ⟨rfl, -, rfl⟩⟩ :=
        does_ensure hensure
      · apply Publishes.known hknown
      · contradiction
      · apply Publishes.declared hunknown

namespace Publishes

variable (h : Publishes transport message deeds outcome next)

include h

/-- A publication declares its own exchange, and only if that is not declared yet. -/
theorem declares_iff {exchange : String} :
  (∃ success, ∃ deed ∈ deeds, deed.Declares exchange success)
    ↔ exchange = message.route.exchange.name ∧ exchange ∉ transport.declared
  := by
  -- Where the exchange is not known, its declaration is one of the deeds.
  have hown (hunknown : message.route.exchange.name ∉ transport.declared) :
      message.route.exchange.name = exchange
        ↔ exchange = message.route.exchange.name ∧ exchange ∉ transport.declared := by
    constructor
    · rintro rfl
      exact ⟨rfl, hunknown⟩
    · rintro ⟨rfl, -⟩
      rfl
  cases h with
  | known hknown =>
      simp only [List.mem_singleton, exists_eq_left, Deed.not_declares_publication, exists_false,
        false_iff, not_and, not_not]
      rintro rfl
      apply hknown
  | refused hunknown =>
      rw [← hown hunknown]
      simp [Deed.declares_declaration]
  | declared hunknown =>
      rw [← hown hunknown]
      simp [Deed.declares_declaration, Deed.not_declares_publication]

/-- After a publication an exchange is declared if it was or if the publication did it. -/
theorem mem_declared_iff {exchange : String} :
  exchange ∈ next.declared
    ↔ exchange ∈ transport.declared ∨ ∃ deed ∈ deeds, deed.Declares exchange true
  := by
  cases h with
  | known hknown => simp [Deed.not_declares_publication]
  | refused hunknown => simp [Deed.declares_declaration]
  | declared hunknown =>
      simp [Deed.declares_declaration, Deed.not_declares_publication, mem_declaring, eq_comm,
        or_comm]

/-- A message goes to an exchange that was declared before, or is before it is sent. -/
theorem declared_of_publishesTo {before after : List Deed} {deed : Deed} {exchange : String}
    (hdeeds : deeds = before ++ deed :: after) (hpublishes : deed.PublishesTo exchange) :
  exchange ∈ transport.declared ∨ ∃ earlier ∈ before, earlier.Declares exchange true
  := by
  cases h with
  | known hknown =>
      obtain ⟨rfl, hdeed⟩ | ⟨-, hnone⟩ := List.singleton_eq_append_iff.mp hdeeds
      · obtain ⟨rfl, -⟩ := List.cons.inj hdeed
        obtain rfl := Deed.publishesTo_publication.mp hpublishes
        left
        apply hknown
      · contradiction
  | refused hunknown =>
      obtain ⟨rfl, hdeed⟩ | ⟨-, hnone⟩ := List.singleton_eq_append_iff.mp hdeeds
      · obtain ⟨rfl, -⟩ := List.cons.inj hdeed
        contradiction
      · contradiction
  | declared hunknown =>
      obtain ⟨rfl, hdeed⟩ | ⟨earlier, rfl, hlater⟩ := List.cons_eq_append_iff.mp hdeeds
      · obtain ⟨rfl, -⟩ := List.cons.inj hdeed
        contradiction
      · obtain ⟨rfl, hdeed⟩ | ⟨-, hnone⟩ := List.singleton_eq_append_iff.mp hlater
        · obtain ⟨rfl, -⟩ := List.cons.inj hdeed
          obtain rfl := Deed.publishesTo_publication.mp hpublishes
          right
          exact ⟨_, List.mem_singleton_self _, Deed.declares_declaration.mpr ⟨rfl, rfl⟩⟩
        · contradiction

/-- A publication whose declaration fails sends no message and leaves the transport as it is. -/
theorem of_refused (hrefused : ∃ deed ∈ deeds, deed.Declares message.route.exchange.name false) :
  (∀ deed ∈ deeds, ∀ exchange, ¬deed.PublishesTo exchange)
    ∧ outcome = .error (.declareExchange message.route.exchange.name)
    ∧ next = transport ∧ message.route.exchange.name ∉ transport.declared
  := by
  cases h with
  | known hknown => simp [Deed.not_declares_publication] at hrefused
  | refused hunknown => simp [Deed.not_publishesTo_declaration, hunknown]
  | declared hunknown =>
      simp [Deed.not_declares_publication, Deed.declares_declaration] at hrefused

end Publishes

/-! ### Subscriptions -/

/-- A subscription whose installation was completed, if its deeds begin with all of its demands
met. -/
def Installs (route : Route) (deeds : List Deed) : Prop :=
  (Installation.ofRoute route).demands.map Demand.met <+: deeds

theorem installs_of_course {first : List (Turn Question Question.Reply)}
    (h : Course (Installation.ofRoute route).install first (.ok ()))
    (rest : List (Turn Question Question.Reply)) :
  Installs route (deedsOf (first ++ rest))
  := by
  have hmade := (Installation.ofRoute route).makes_install _ _ ⟨_, h, rfl⟩
  rw [Installs, deedsOf_append, hmade.deeds_eq]
  apply List.prefix_append

/-- After a subscription an exchange is declared if it was or if the subscription installed
it. -/
theorem Subscribes.mem_declared_iff {turns : List (Turn Question Question.Reply)}
    (h : Subscribes transport route turns outcome next) {exchange : String} :
  exchange ∈ next.declared
    ↔ exchange ∈ transport.declared
      ∨ route.exchange.name = exchange ∧ Installs route (deedsOf turns)
  := by
  cases h with
  | uninstalled h =>
      have hmade := (Installation.ofRoute route).makes_install _ _ ⟨_, h, rfl⟩
      simp [Installs, hmade.not_prefix_of_error]
  | unregistered hinstall hregister =>
      rw [mem_declaring, and_iff_left (installs_of_course hinstall _), or_comm, eq_comm]
  | listening hinstall hregister =>
      rw [mem_declaring, and_iff_left (installs_of_course hinstall _), or_comm, eq_comm]

theorem Installs.declares {route : Route} {deeds : List Deed} (h : Installs route deeds) :
  ∃ deed ∈ deeds, deed.Declares route.exchange.name true
  := by
  refine ⟨route.exchange.demand.met, h.subset ?_, rfl, rfl⟩
  rw [Installation.demands_ofRoute, List.cons_append]
  apply List.mem_cons_self

end Transport

/-! ### Calls to a transport -/

/-- What a transport is asked to do. -/
inductive Call where
  | publish (message : Outbound)
  | subscribe (route : Route)

/-- The work of a transport that carries out a call. -/
def Transport.carryOut (transport : Transport) :
    Call → Work (Except BrokerError Unit × Transport)
  | .publish message => transport.publish message
  | .subscribe route => transport.subscribe route

/-- A call that was carried out, with what happened. -/
structure Performed where
  call : Call
  deeds : List Deed

/-- A call declared an exchange: as a publication, by a declaration that the broker carried out,
or as a subscription, by an installation that was completed. -/
def Performed.Establishes (performed : Performed) (exchange : String) : Prop :=
  match performed.call with
  | .publish _ => ∃ deed ∈ performed.deeds, deed.Declares exchange true
  | .subscribe route => route.exchange.name = exchange ∧ Transport.Installs route performed.deeds

theorem Performed.Establishes.declares {performed : Performed} {exchange : String}
    (h : performed.Establishes exchange) :
  ∃ deed ∈ performed.deeds, deed.Declares exchange true
  := by
  obtain ⟨call, deeds⟩ := performed
  cases call with
  | publish message => apply h
  | subscribe route =>
      obtain ⟨rfl, hinstalls⟩ := h
      apply hinstalls.declares

/-- The calls, one after the other, lead from a new transport to this one. -/
inductive Reached : List Performed → Transport → Prop
  | start : Reached [] {}
  | call {history : List Performed} {transport next : Transport} {call : Call}
      {deeds : List Deed} {outcome : Except BrokerError Unit} (h : Reached history transport)
      (hcall : Does (transport.carryOut call) deeds (outcome, next)) :
      Reached (history ++ [⟨call, deeds⟩]) next

section

variable {transport next : Transport} {call : Call} {deeds : List Deed}
  {outcome : Except BrokerError Unit} {history : List Performed} {exchange : String}

/-- After a call an exchange is declared if it was or if the call declared it. -/
theorem mem_declared_of_carryOut (h : Does (transport.carryOut call) deeds (outcome, next)) :
  exchange ∈ next.declared
    ↔ exchange ∈ transport.declared ∨ (Performed.mk call deeds).Establishes exchange
  := by
  cases call with
  | publish message => apply (Transport.publishes h).mem_declared_iff
  | subscribe route =>
      obtain ⟨turns, hcourse, rfl⟩ := h
      apply (Transport.subscribes hcourse).mem_declared_iff

/-- The exchanges that a transport has declared are those that the calls declared. -/
theorem Reached.mem_declared_iff (h : Reached history transport) :
  exchange ∈ transport.declared ↔ ∃ performed ∈ history, performed.Establishes exchange
  := by
  induction h with
  | start => simp
  | call _ hcall ih => simp [mem_declared_of_carryOut hcall, ih, or_and_right, exists_or]

end

/-- Every message goes to a declared exchange.  Take a transport that was reached from a new one
by any publications and subscriptions, with any failures.  A publication routes its message only
after a declaration of the exchange that was carried out, earlier or before the message.  It
declares the exchange if and only if no earlier call did, and no other exchange.  If that
declaration fails, no message is routed, the error names the exchange, and the next publication
to it declares it again.  No call takes a declared exchange away. -/
theorem publish_to_declared_exchange {history : List Performed} {transport : Transport}
    (h : Reached history transport) :
  (∀ message deeds outcome next, Does (transport.publish message) deeds (outcome, next) →
      (∀ before deed after exchange, deeds = before ++ deed :: after → deed.PublishesTo exchange →
        ∃ earlier ∈ history.flatMap Performed.deeds ++ before, earlier.Declares exchange true)
      ∧ (∀ exchange, (∃ success, ∃ deed ∈ deeds, deed.Declares exchange success)
        ↔ exchange = message.route.exchange.name
          ∧ ∀ performed ∈ history, ¬performed.Establishes exchange)
      ∧ ((∃ deed ∈ deeds, deed.Declares message.route.exchange.name false) →
        (∀ deed ∈ deeds, ∀ exchange, ¬deed.PublishesTo exchange)
        ∧ outcome = .error (.declareExchange message.route.exchange.name)
        ∧ message.route.exchange.name ∉ next.declared
        ∧ ∀ another later result last, another.route.exchange.name = message.route.exchange.name →
          Does (next.publish another) later (result, last) →
          ∃ success, ∃ deed ∈ later, deed.Declares message.route.exchange.name success))
    ∧ ∀ call deeds outcome next, Does (transport.carryOut call) deeds (outcome, next) →
      ∀ exchange ∈ transport.declared, exchange ∈ next.declared
  := by
  constructor
  · intro message deeds outcome next hdoes
    have hpublishes := Transport.publishes hdoes
    refine ⟨?_, ?_, ?_⟩
    · intro before deed after exchange hdeeds hdeed
      obtain hknown | ⟨earlier, hmem, hdeclares⟩ := hpublishes.declared_of_publishesTo hdeeds hdeed
      · obtain ⟨performed, hperformed, hestablishes⟩ := h.mem_declared_iff.mp hknown
        obtain ⟨earlier, hmem, hdeclares⟩ := hestablishes.declares
        refine ⟨earlier, List.mem_append_left _ ?_, hdeclares⟩
        apply List.mem_flatMap.mpr ⟨performed, hperformed, hmem⟩
      · exact ⟨earlier, List.mem_append_right _ hmem, hdeclares⟩
    · intro exchange
      rw [hpublishes.declares_iff, h.mem_declared_iff, not_exists]
      simp only [not_and]
    · intro hrefused
      obtain ⟨hsilent, houtcome, rfl, hunknown⟩ := hpublishes.of_refused hrefused
      refine ⟨hsilent, houtcome, hunknown, ?_⟩
      intro another later result last hsame hlater
      apply (Transport.publishes hlater).declares_iff.mpr ⟨hsame.symm, hunknown⟩
  · intro call deeds outcome next hdoes exchange hknown
    apply (mem_declared_of_carryOut hdoes).mpr (Or.inl hknown)

/-- A tick on its way to the broker. -/
def tickMessage : Outbound where
  route := tickRoute
  payload := ByteArray.empty
  context := (tick 0).context
  options := {}

/-- Whether a method declares an exchange. -/
def declaresExchange : Amqp.Method → Bool
  | .declareExchange _ _ _ _ _ _ _ _ => true
  | _ => false

/-- A tick whose exchange cannot be declared, and a subscription that can declare the exchange but
no dead-letter queue, leave the exchange undeclared, so the next tick declares it again. -/
theorem publish_to_declared_exchange_tick :
  let attempt := ({} : Transport).publish tickMessage
  let subscription := ({} : Transport).subscribe tickRoute
  let failed := deedsOf (attempt.history (refusing declaresExchange) ())
  let uninstalled := deedsOf (subscription.history (refusing (declaresQueue "ticks-dlq")) ())
  Reached [⟨.publish tickMessage, failed⟩, ⟨.subscribe tickRoute, uninstalled⟩] {}
    ∧ (∃ deed ∈ failed, deed.Declares "clock" false)
    ∧ (∃ deed ∈ uninstalled, deed.Declares "clock" true)
    ∧ ∃ success, ∃ deed ∈ deedsOf (attempt.history rejecting ()), deed.Declares "clock" success
  := by
  intro attempt subscription failed uninstalled
  have hattempt : Does attempt failed (.error (.declareExchange "clock"), {}) :=
    ⟨_, course_history (refusing declaresExchange) attempt (), rfl⟩
  have hsubscription : Does subscription uninstalled (.error (.declareQueue "ticks-dlq"), {}) :=
    ⟨_, course_history (refusing (declaresQueue "ticks-dlq")) subscription (), rfl⟩
  have hattempted : Reached [⟨.publish tickMessage, failed⟩] {} := .call .start hattempt
  have hreached :
      Reached [⟨.publish tickMessage, failed⟩, ⟨.subscribe tickRoute, uninstalled⟩] {} :=
    .call hattempted hsubscription
  have hfailed : ∃ deed ∈ failed, deed.Declares "clock" false :=
    ⟨_, List.mem_singleton_self _, rfl, rfl⟩
  have hdeclared : ∃ deed ∈ uninstalled, deed.Declares "clock" true :=
    ⟨_, List.mem_cons_self, rfl, rfl⟩
  -- The third call fails like the first one; the fourth is the next tick.
  obtain ⟨hpublish, -⟩ := publish_to_declared_exchange hreached
  obtain ⟨-, -, hrefused⟩ := hpublish _ _ _ _ hattempt
  obtain ⟨-, -, -, hagain⟩ := hrefused hfailed
  refine ⟨hreached, hfailed, hdeclared, ?_⟩
  apply hagain tickMessage _ _ _ rfl ⟨_, course_history rejecting attempt (), rfl⟩

end AmqpBus.Broker

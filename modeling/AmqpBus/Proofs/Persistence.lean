import AmqpBus.Proofs.HandingOver
import AmqpBus.Proofs.Retry.Asking
import AmqpBus.Proofs.Retry.Outcome

/-!
# Persistence

A message that is sent or published is persistent exactly if its exchange is durable, unless
the caller wants it otherwise.  This does not hold of what is published as a reject event: it
is never persistent, however durable the error exchange is, although the same event is
persistent when it is published as an event.
-/

namespace AmqpBus

open Interaction Operation

variable {D H : Type}

namespace Naming

variable {naming : Naming}

/-- The operations that hand messages to the transport, each with the manner in which it
publishes.  Callers may adjust what is asked for beside a message, but they leave its
persistence alone. -/
inductive Emits (naming : Naming) : {β : Type} → Manner → Operation D H β → Prop
  | send {α : Type} (format : Format α) (message : α) (context : Option Context)
      (override : Override) {adjust : SendingOptions → SendingOptions}
      (hadjust : ∀ options, (adjust options).persistent = options.persistent) :
    Emits naming .command (naming.send format message context override adjust)
  | publish {α : Type} (format : Format α) (message : α) (context : Option Context)
      (override : Override) {adjust : SendingOptions → SendingOptions}
      (hadjust : ∀ options, (adjust options).persistent = options.persistent) :
    Emits naming .event (naming.publish format message context override adjust)
  | publishRejection (event : RejectEvent) (context : Context) :
    Emits naming .rejection (naming.publishRejection event context)
  | process {α : Type} {processing : Processing D α} (hnaming : processing.naming = naming)
      (message : Inbound) :
    Emits naming .rejection (processing.process message)

/-- A message has a route that its type resolves to, and it is persistent as far as messages
are that are published in a manner. -/
def Lasts (naming : Naming) (manner : Manner) (outbound : Outbound) : Prop :=
  (∃ type override, naming.resolve type override = .ok outbound.route)
    ∧ (outbound.options.persistent ↔ outbound.route.exchange.durable ∧ manner ≠ .rejection)

/-- What is published as a reject event is never persistent. -/
theorem lasts_of_rejects {context : Context} {outbound : Outbound}
    (h : naming.Rejects context outbound) :
  naming.Lasts .rejection outbound
  := by
  obtain ⟨event, hroute, -, -, hoptions⟩ := h
  refine ⟨⟨event.type, {}, resolve_of_resolveRejection hroute⟩, ?_⟩
  rw [hoptions]
  simp

theorem Emits.handsOver {β : Type} {manner : Manner} {operation : Operation D H β}
    (h : naming.Emits manner operation) :
  operation.HandsOver (naming.Lasts manner) fun _ _ => False
  := by
  cases h with
  | send format message context override hadjust =>
      apply handsOver_send
      intro route payload context hroute _
      refine ⟨⟨_, override, hroute⟩, ?_⟩
      rw [hadjust]
      simp
  | publish format message context override hadjust =>
      apply handsOver_publish
      intro route payload context hroute _
      refine ⟨⟨_, override, hroute⟩, ?_⟩
      rw [hadjust]
      simp
  | publishRejection event context =>
      apply handsOver_publishRejection
      intro route payload hroute hpayload
      apply lasts_of_rejects ⟨event, hroute, hpayload, rfl, rfl⟩
  | process hnaming message =>
      subst hnaming
      apply Asks.imp (Processing.confined_process _ message)
      intro request hmay
      cases request with
      | publish outbound => apply lasts_of_rejects hmay
      | subscribe route handler => contradiction
      | _ => trivial

/-- Every message that is handed to the transport goes to an exchange that is as durable as the
call says, or else as the registration of its type does.  The message is persistent exactly if
this exchange is durable and it is not published as a reject event, be it by a call or in
processing a message; and exactly then it is sent in the delivery mode of messages that the
broker keeps. -/
theorem persistent_iff_durable_and_ne_rejection {β : Type} {manner : Manner}
    {operation : Operation D H β} (h : naming.Emits manner operation)
    {turns : List (Turn (Request D H) Request.Reply)} {value : β}
    (hcourse : Course operation turns value) {outbound : Outbound}
    {outcome : Option (Except BrokerError Unit)} (hmem : ⟨.publish outbound, outcome⟩ ∈ turns) :
  (∃ type descriptor override, naming.registry.descriptor type = .ok descriptor
      ∧ naming.resolve type override = .ok outbound.route
      ∧ outbound.route.exchange.durable
        = (override.exchange.durable.or descriptor.durable).getD false)
    ∧ (outbound.options.persistent ↔ outbound.route.exchange.durable ∧ manner ≠ .rejection)
    ∧ ∀ trace id, (outbound.properties trace id).deliveryMode = some 2
      ↔ outbound.route.exchange.durable ∧ manner ≠ .rejection
  := by
  obtain ⟨⟨type, override, hresolve⟩, hpersistent⟩ := h.handsOver.of_mem hcourse hmem
  obtain ⟨descriptor, hdescriptor, hroute⟩ := exists_route_of_resolve hresolve
  refine ⟨⟨type, descriptor, override, hdescriptor, hresolve, durable_of_route hroute⟩,
    hpersistent, ?_⟩
  intro trace id
  rw [← hpersistent, Outbound.properties]
  simp [Amqp.persistentMode]

/-- A bus whose exchanges are durable. -/
def lastingNaming : Naming where
  options := { exchangeName := "clock" }
  registry :=
    { registrations :=
        [⟨"clock::Tick",
            { space := "clock", name := "Tick", role := .event, durable := some true }⟩,
          ⟨"clock::TickMissed",
            { space := "clock", name := "TickMissed", role := .reject, durable := some true }⟩]
      nodup_types := by decide
      nodup_names := by decide }

/-- The reject event for ticks says that a tick was late. -/
def lateFormat : Format Unit where
  typeName := "clock::TickMissed"
  decode? _ := some ()
  encode? _ := some "late".toUTF8

/-- The reject event for ticks is persistent when it is published as an event. -/
theorem persistent_iff_durable_and_ne_rejection_late :
  let urgent (options : SendingOptions) : SendingOptions := { options with priority := some 9 }
  ∃ (turns : List (Turn (Request Empty Empty) Request.Reply)) (outbound : Outbound),
    Course (lastingNaming.publish lateFormat () none {} urgent) turns (.ok ())
      ∧ ⟨.publish outbound, some (.ok ())⟩ ∈ turns
      ∧ lastingNaming.resolve "clock::TickMissed" {} = .ok outbound.route
      ∧ outbound.options.priority = some 9
      ∧ outbound.options.persistent
      ∧ ∀ trace id, (outbound.properties trace id).deliveryMode = some 2
  := by
  intro urgent
  have hemits : lastingNaming.Emits (D := Empty) (H := Empty) .event
      (lastingNaming.publish lateFormat () none {} urgent) :=
    .publish lateFormat () none {} fun _ => rfl
  have hcourse := course_history Supply.reply
    (lastingNaming.publish lateFormat () none {} urgent : Operation Empty Empty _) (.ofOutcomes [])
  obtain ⟨outbound, hmem, hroute, hpriority⟩ : ∃ outbound : Outbound,
      ⟨.publish outbound, some (.ok ())⟩ ∈ history Supply.reply
        (lastingNaming.publish lateFormat () none {} urgent : Operation Empty Empty _)
        (.ofOutcomes [])
      ∧ lastingNaming.resolve "clock::TickMissed" {} = .ok outbound.route
      ∧ outbound.options.priority = some 9 :=
    ⟨_, .tail _ (.tail _ (.tail _ (.head _))), rfl, rfl⟩
  have hdurable : outbound.route.exchange.durable := by
    rw [← Except.ok.inj hroute]
    decide
  obtain ⟨-, hpersistent, hmode⟩ :=
    persistent_iff_durable_and_ne_rejection hemits hcourse hmem
  exact ⟨_, outbound, hcourse, hmem, hroute, hpriority, hpersistent.mpr ⟨hdurable, nofun⟩,
    fun trace id => (hmode trace id).mpr ⟨hdurable, nofun⟩⟩

/-- The same event is not persistent when it is published as a reject event, although it goes
to the same durable exchange. -/
theorem not_persistent_of_late_rejection :
  let operation : Operation Empty Empty (Except BusError Unit) :=
    lastingNaming.publishRejection (lateFormat.rejectEvent ()) (tick 0).context
  ∃ outbound, (operation.perform (.ofOutcomes [])).acts = [.publish outbound (some (.ok ()))]
    ∧ lastingNaming.resolve "clock::TickMissed" {} = .ok outbound.route
    ∧ outbound.route.exchange.durable = true
    ∧ outbound.options.persistent = false
    ∧ ∀ trace id, (outbound.properties trace id).deliveryMode = none
  := ⟨_, rfl, rfl, by decide, rfl, fun _ _ => rfl⟩

end Naming

end AmqpBus

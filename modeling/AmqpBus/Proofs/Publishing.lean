import AmqpBus.Proofs.HandingOver
import AmqpBus.Proofs.Performance
import AmqpBus.Proofs.Registry
import AmqpBus.Proofs.Retry.Outcome
import AmqpBus.Proofs.Route

/-!
# Publications

A message is published as a command, as an event or as a reject event.  Whichever it is, the
message is handed to the transport once if nothing is wrong with it, and not at all
otherwise.  Several things may be wrong at once; the operation then fails with the first of
them in a fixed order.
-/

namespace AmqpBus

open Interaction Operation

variable {D H : Type}

/-! ### What may be wrong with a publication -/

/-- Whether types of a role may be published in a manner.  Commands are not checked. -/
def Manner.Fits : Manner → Role → Prop
  | .command, _ => True
  | .event, role => role ≠ .abstractEvent
  | .rejection, role => role = .reject

/-- The place of an error in the order in which the errors of publishing are reported. -/
def BusError.precedence : BusError → ℕ
  | .unregistered _ => 0
  | .abstractEvent _ => 1
  | .configuration _ => 1
  | .conflictingQueues _ _ _ => 2
  | .serialization _ => 3
  | _ => 4

/-- The result of handing a message to the transport, by what the transport says. -/
def BusError.ofPublication : Option (Except BrokerError Unit) → Except BusError Unit
  | none => .error .cancelled
  | some outcome => outcome.mapError .transport

namespace Naming

/-- An error that a publication gives reason for, when its token is cancelled or not.  Only
of a registered type can anything be said beside that. -/
inductive Fault (naming : Naming) (publication : Publication) (cancelled : Prop) :
    BusError → Prop
  | unregistered
      (hnone : ∀ descriptor, naming.registry.descriptor publication.type ≠ .ok descriptor) :
    Fault naming publication cancelled (.unregistered publication.type.typeName)
  | abstractEvent {descriptor : Descriptor}
      (hdescriptor : naming.registry.descriptor publication.type = .ok descriptor)
      (hmanner : publication.manner = .event) (hrole : descriptor.role = .abstractEvent) :
    Fault naming publication cancelled (.abstractEvent descriptor.fullName)
  | notReject {descriptor : Descriptor}
      (hdescriptor : naming.registry.descriptor publication.type = .ok descriptor)
      (hmanner : publication.manner = .rejection) (hrole : descriptor.role ≠ .reject) :
    Fault naming publication cancelled (.configuration (.notReject descriptor.fullName))
  | conflictingQueues {descriptor : Descriptor} {first second : String}
      (hdescriptor : naming.registry.descriptor publication.type = .ok descriptor)
      (hdisagree : Disagree (queueNames descriptor publication.override) first second) :
    Fault naming publication cancelled
      (.conflictingQueues descriptor.fullName first second)
  | serialization {descriptor : Descriptor}
      (hdescriptor : naming.registry.descriptor publication.type = .ok descriptor)
      (hpayload : publication.payload? = none) :
    Fault naming publication cancelled (.serialization descriptor.fullName)
  | cancelled (hcancelled : cancelled) :
    Fault naming publication cancelled .cancelled

/-- The error of a publication that is reported before all others. -/
structure FirstFault (naming : Naming) (publication : Publication) (cancelled : Prop)
    (error : BusError) : Prop where
  fault : naming.Fault publication cancelled error
  first : ∀ other, naming.Fault publication cancelled other → error.precedence ≤ other.precedence

variable {naming : Naming} {publication : Publication} {cancelled : Prop} {error : BusError}
  {descriptor : Descriptor} {route : Route}

/-- What may be wrong with a publication of a registered type. -/
theorem Fault.cases_of_registered (h : naming.Fault publication cancelled error)
    (hdescriptor : naming.registry.descriptor publication.type = .ok descriptor) :
  (error.precedence = 1 ∧ ¬publication.manner.Fits descriptor.role)
    ∨ (error.precedence = 2
      ∧ ∃ first second, Disagree (queueNames descriptor publication.override) first second)
    ∨ (error.precedence = 3 ∧ publication.payload? = none)
    ∨ (error.precedence = 4 ∧ cancelled)
  := by
  have hsame : ∀ {other}, naming.registry.descriptor publication.type = .ok other →
      other = descriptor := fun hother => Except.ok.inj (hother.symm.trans hdescriptor)
  cases h with
  | unregistered hnone => apply absurd hdescriptor (hnone descriptor)
  | abstractEvent hother hmanner hrole =>
      obtain rfl := hsame hother
      left
      use rfl
      rw [hmanner, hrole]
      intro hfits
      apply hfits rfl
  | notReject hother hmanner hrole =>
      obtain rfl := hsame hother
      left
      use rfl
      rw [hmanner]
      exact hrole
  | conflictingQueues hother hdisagree =>
      obtain rfl := hsame hother
      right; left
      exact ⟨rfl, _, _, hdisagree⟩
  | serialization hother hpayload =>
      right; right; left
      exact ⟨rfl, hpayload⟩
  | cancelled hcancelled =>
      right; right; right
      exact ⟨rfl, hcancelled⟩

section

variable (hdescriptor : naming.registry.descriptor publication.type = .ok descriptor)
  (hfits : publication.manner.Fits descriptor.role)
include hdescriptor hfits

theorem firstFault_conflictingQueues {first second : String}
    (hdisagree : Disagree (queueNames descriptor publication.override) first second) :
  naming.FirstFault publication cancelled (.conflictingQueues descriptor.fullName first second)
  := by
  use .conflictingQueues hdescriptor hdisagree
  intro other hother
  obtain ⟨-, hnot⟩ | hlater := hother.cases_of_registered hdescriptor
  · contradiction
  · change 2 ≤ other.precedence
    omega

variable (hroute : naming.route descriptor publication.override = .ok route)
include hroute

theorem firstFault_serialization (hpayload : publication.payload? = none) :
  naming.FirstFault publication cancelled (.serialization descriptor.fullName)
  := by
  use .serialization hdescriptor hpayload
  intro other hother
  obtain ⟨-, hnot⟩ | ⟨-, first, second, hdisagree⟩ | hlater :=
    hother.cases_of_registered hdescriptor
  · contradiction
  · apply absurd hdisagree (not_disagree_of_route hroute first second)
  · change 3 ≤ other.precedence
    omega

/-- Nothing but a cancelled token is wrong with a message of a type that fits and has a route,
if the message can be written. -/
theorem Fault.cancelled_of_route {payload : ByteArray}
    (hpayload : publication.payload? = some payload)
    (h : naming.Fault publication cancelled error) :
  error.precedence = 4 ∧ cancelled
  := by
  obtain ⟨-, hnot⟩ | ⟨-, first, second, hdisagree⟩ | ⟨-, hnone⟩ | hcancelled :=
    h.cases_of_registered hdescriptor
  · contradiction
  · apply absurd hdisagree (not_disagree_of_route hroute first second)
  · rw [hnone] at hpayload
    contradiction
  · apply hcancelled

end

end Naming

/-! ### What comes of it -/

/-- What comes of handing a message over: it reaches the transport unless the token is found to
be cancelled. -/
inductive Outbound.Delivers (message : Outbound)
    (turns : List (Turn (Request D H) Request.Reply)) : Except BusError Unit → Prop
  | cancelled (hasked : ⟨.isCancelled, true⟩ ∈ turns) (hacts : actsOf turns = []) :
    Delivers message turns (.error .cancelled)
  | handed {outcome : Option (Except BrokerError Unit)} {result : Except BusError Unit}
      (hasked : ⟨.isCancelled, false⟩ ∈ turns) (hacts : actsOf turns = [.publish message outcome])
      (hresult : result = BusError.ofPublication outcome) :
    Delivers message turns result

/-- A message goes with the context that is given for it, or else with a new one. -/
def Publication.Carries (publication : Publication)
    (turns : List (Turn (Request D H) Request.Reply)) (context : Context) : Prop :=
  publication.context = some context
    ∨ publication.context = none ∧ ⟨.newContext, context⟩ ∈ turns

/-- What comes of a publication whose type has a route. -/
inductive Publication.Sends (publication : Publication) (route : Route)
    (turns : List (Turn (Request D H) Request.Reply)) : Except BusError Unit → Prop
  | unwritable (hpayload : publication.payload? = none) (hacts : actsOf turns = []) :
    Sends publication route turns (.error (.serialization route.messageType))
  | written {payload : ByteArray} {context : Context} {result : Except BusError Unit}
      (hpayload : publication.payload? = some payload)
      (hcontext : publication.Carries turns context)
      (h : Outbound.Delivers { route, payload, context, options := publication.options route }
        turns result) :
    Sends publication route turns result

variable {turns : List (Turn (Request D H) Request.Reply)} {result : Except BusError Unit}

/-- What is asked for before does not matter if it cannot be noticed. -/
theorem Outbound.Delivers.append {message : Outbound} (h : message.Delivers turns result)
    {first : List (Turn (Request D H) Request.Reply)} (hfirst : actsOf first = []) :
  message.Delivers (first ++ turns) result
  := by
  have hsame : actsOf (first ++ turns) = actsOf turns := by
    rw [actsOf_append, hfirst, List.nil_append]
  cases h with
  | cancelled hasked hacts =>
      exact .cancelled (List.mem_append_right _ hasked) (hsame.trans hacts)
  | handed hasked hacts hresult =>
      exact .handed (List.mem_append_right _ hasked) (hsame.trans hacts) hresult

namespace Naming

theorem delivers_of_handOver {message : Outbound}
    (h : Course (handOver message : Operation D H (Except BusError Unit)) turns result) :
  message.Delivers turns result
  := by
  rw [handOver] at h
  obtain ⟨_, cancelled, rest, hasked, hrest, rfl⟩ := course_bind_iff.mp h
  obtain rfl := course_request_iff.mp hasked
  cases cancelled with
  | true =>
      obtain ⟨rfl, rfl⟩ := course_pure_iff.mp hrest
      exact .cancelled List.mem_cons_self rfl
  | false =>
      obtain ⟨_, _, _, hlog, hhanded, rfl⟩ := course_bind_iff.mp hrest
      obtain rfl := course_request_iff.mp hlog
      obtain ⟨_, outcome, last, hpublish, hlast, rfl⟩ := course_bind_iff.mp hhanded
      obtain rfl := course_request_iff.mp hpublish
      cases outcome with
      | none =>
          obtain ⟨rfl, rfl⟩ := course_pure_iff.mp hlast
          exact .handed List.mem_cons_self rfl rfl
      | some reply =>
          cases reply with
          | ok done =>
              obtain ⟨rfl, rfl⟩ := course_pure_iff.mp hlast
              exact .handed List.mem_cons_self rfl rfl
          | error error =>
              obtain ⟨_, _, _, hcomplain, hpure, rfl⟩ := course_bind_iff.mp hlast
              obtain rfl := course_request_iff.mp hcomplain
              obtain ⟨rfl, rfl⟩ := course_pure_iff.mp hpure
              exact .handed List.mem_cons_self rfl rfl

/-- Commands and events are sent in one way, once there is a route. -/
theorem sends_of_sendAlong {α : Type} {manner : Manner} {format : Format α} {message : α}
    {context : Option Context} {override : Override} {adjust : SendingOptions → SendingOptions}
    {route : Route}
    (h : Course (sendAlong route format message context adjust :
      Operation D H (Except BusError Unit)) turns result) :
  Publication.Sends
    { manner
      type := format.type
      payload? := format.encode? message
      context
      override
      options := fun route => adjust { persistent := route.exchange.durable } }
    route turns result
  := by
  rw [sendAlong] at h
  cases hpayload : format.encode? message with
  | none =>
      rw [hpayload] at h
      obtain ⟨_, _, _, hcomplain, hpure, rfl⟩ := course_bind_iff.mp h
      obtain rfl := course_request_iff.mp hcomplain
      obtain ⟨rfl, rfl⟩ := course_pure_iff.mp hpure
      exact .unwritable rfl rfl
  | some payload =>
      rw [hpayload] at h
      cases context with
      | some context => exact .written rfl (.inl rfl) (delivers_of_handOver h)
      | none =>
          obtain ⟨_, context, rest, hnew, hrest, rfl⟩ := course_bind_iff.mp h
          obtain rfl := course_request_iff.mp hnew
          exact .written rfl (.inr ⟨rfl, List.mem_cons_self⟩)
            ((delivers_of_handOver hrest).append rfl)

variable {naming : Naming} {publication : Publication} {descriptor : Descriptor}

theorem course_send {α : Type} {format : Format α} {message : α} {context : Option Context}
    {override : Override} {adjust : SendingOptions → SendingOptions} {route : Route}
    (hroute : naming.resolve format.type override = .ok route)
    (h : Course (naming.send format message context override adjust :
      Operation D H (Except BusError Unit)) turns result) :
  Course (sendAlong route format message context adjust :
    Operation D H (Except BusError Unit)) turns result
  := by
  rwa [Naming.send, hroute] at h

/-- An event that is not abstract is sent. -/
theorem course_publish {α : Type} {format : Format α} {message : α} {context : Option Context}
    {override : Override} {adjust : SendingOptions → SendingOptions}
    (hdescriptor : naming.registry.descriptor format.type = .ok descriptor)
    (hrole : descriptor.role ≠ .abstractEvent)
    (h : Course (naming.publish format message context override adjust :
      Operation D H (Except BusError Unit)) turns result) :
  Course (naming.send format message context override adjust :
    Operation D H (Except BusError Unit)) turns result
  := by
  rw [Naming.publish, hdescriptor] at h
  dsimp only at h
  rwa [if_neg hrole] at h

theorem course_send_of_error {α : Type} {format : Format α} {message : α}
    {context : Option Context} {override : Override} {adjust : SendingOptions → SendingOptions}
    {error : BusError} (herror : naming.resolve format.type override = .error error)
    (h : Course (naming.send format message context override adjust :
      Operation D H (Except BusError Unit)) turns result) :
  actsOf turns = [] ∧ result = .error error
  := by
  rw [Naming.send, herror] at h
  obtain ⟨rfl, rfl⟩ := course_pure_iff.mp h
  exact ⟨rfl, rfl⟩

namespace Publishes

variable {operation : Operation D H (Except BusError Unit)}

theorem refuses_of_unregistered (h : naming.Publishes publication operation)
    (hcourse : Course operation turns result)
    (hnone : ∀ descriptor, naming.registry.descriptor publication.type ≠ .ok descriptor) :
  actsOf turns = [] ∧ result = .error (.unregistered publication.type.typeName)
  := by
  have herror := Registry.descriptor_of_unregistered hnone
  cases h with
  | send format message context override adjust =>
      apply course_send_of_error _ hcourse
      rw [resolve, herror]
      rfl
  | publish format message context override adjust =>
      rw [Naming.publish, herror] at hcourse
      obtain ⟨rfl, rfl⟩ := course_pure_iff.mp hcourse
      exact ⟨rfl, rfl⟩
  | publishRejection event context =>
      rw [Naming.publishRejection, resolveRejection_of_unregistered herror] at hcourse
      obtain ⟨rfl, rfl⟩ := course_pure_iff.mp hcourse
      exact ⟨rfl, rfl⟩

/-- A type of the wrong role gives reason for an error, which is reported. -/
theorem exists_fault_of_not_fits (h : naming.Publishes publication operation)
    (hcourse : Course operation turns result)
    (hdescriptor : naming.registry.descriptor publication.type = .ok descriptor)
    (hfits : ¬publication.manner.Fits descriptor.role) :
  ∃ error, (∀ cancelled, naming.Fault publication cancelled error) ∧ error.precedence = 1
    ∧ actsOf turns = [] ∧ result = .error error
  := by
  cases h with
  | send format message context override adjust => apply absurd trivial hfits
  | publish format message context override adjust =>
      have hrole : descriptor.role = .abstractEvent := not_not.mp hfits
      use .abstractEvent descriptor.fullName, fun _ => .abstractEvent hdescriptor rfl hrole, rfl
      rw [Naming.publish, hdescriptor] at hcourse
      dsimp only at hcourse
      rw [if_pos hrole] at hcourse
      obtain ⟨_, _, _, hcomplain, hpure, rfl⟩ := course_bind_iff.mp hcourse
      obtain rfl := course_request_iff.mp hcomplain
      obtain ⟨rfl, rfl⟩ := course_pure_iff.mp hpure
      exact ⟨rfl, rfl⟩
  | publishRejection event context =>
      use .configuration (.notReject descriptor.fullName),
        fun _ => .notReject hdescriptor rfl hfits, rfl
      rw [Naming.publishRejection, resolveRejection_of_ne_reject hdescriptor hfits] at hcourse
      obtain ⟨rfl, rfl⟩ := course_pure_iff.mp hcourse
      exact ⟨rfl, rfl⟩

section

variable (h : naming.Publishes publication operation) (hcourse : Course operation turns result)
  (hdescriptor : naming.registry.descriptor publication.type = .ok descriptor)
  (hfits : publication.manner.Fits descriptor.role)
include h hcourse hdescriptor hfits

/-- What stands in the way of a route is reported. -/
theorem refuses_of_error {error : BusError}
    (herror : naming.route descriptor publication.override = .error error) :
  actsOf turns = [] ∧ result = .error error
  := by
  have hresolve := resolve_eq_route hdescriptor publication.override
  rw [herror] at hresolve
  cases h with
  | send format message context override adjust => apply course_send_of_error hresolve hcourse
  | publish format message context override adjust =>
      apply course_send_of_error hresolve (course_publish hdescriptor hfits hcourse)
  | publishRejection event context =>
      rw [Naming.publishRejection, resolveRejection_of_reject hdescriptor hfits, herror] at hcourse
      obtain ⟨rfl, rfl⟩ := course_pure_iff.mp hcourse
      exact ⟨rfl, rfl⟩

/-- A message of a type that fits is sent along the route of the type. -/
theorem sends_of_route {route : Route}
    (hroute : naming.route descriptor publication.override = .ok route) :
  publication.Sends route turns result
  := by
  have hresolve := resolve_eq_route hdescriptor publication.override
  rw [hroute] at hresolve
  cases h with
  | send format message context override adjust =>
      apply sends_of_sendAlong (course_send hresolve hcourse)
  | publish format message context override adjust =>
      apply sends_of_sendAlong
      apply course_send hresolve (course_publish hdescriptor hfits hcourse)
  | publishRejection event context =>
      rw [Naming.publishRejection, resolveRejection_of_reject hdescriptor hfits, hroute] at hcourse
      cases hpayload : event.payload? with
      | none =>
          rw [hpayload] at hcourse
          obtain ⟨rfl, rfl⟩ := course_pure_iff.mp hcourse
          exact .unwritable rfl rfl
      | some payload =>
          rw [hpayload] at hcourse
          exact .written rfl (.inl rfl) (delivers_of_handOver hcourse)

end

end Publishes

/-- Whoever publishes a message hands the transport nothing or the message.  If there are
reasons for errors, then the first of these errors is the result, and nothing is handed to the
transport; one of the reasons is that the token is found to be cancelled.  Otherwise the message
is handed to the transport, once: along the route of its type, in the payload it is written as,
with the context that is given for it, or a new one if there is none, and with what is asked for
beside it.  The result is then that of the transport, or that the token is cancelled before
there is one. -/
theorem publishes_at_most_once {operation : Operation D H (Except BusError Unit)}
    (h : naming.Publishes publication operation) {cancelled : Bool}
    (hcourse : Course operation turns result)
    (htoken : ∀ reply, ⟨.isCancelled, reply⟩ ∈ turns → reply = cancelled) :
  (∃ error, naming.FirstFault publication (cancelled = true) error
      ∧ actsOf turns = [] ∧ result = .error error)
    ∨ ((∀ error, ¬naming.Fault publication (cancelled = true) error)
      ∧ ∃ route payload context outcome,
        naming.resolve publication.type publication.override = .ok route
        ∧ publication.payload? = some payload
        ∧ (publication.context = some context
          ∨ publication.context = none ∧ ⟨.newContext, context⟩ ∈ turns)
        ∧ actsOf turns
          = [.publish { route, payload, context, options := publication.options route } outcome]
        ∧ result = BusError.ofPublication outcome)
  := by
  -- what may be wrong is gone through in the order in which it is reported
  by_cases hregistered : ∃ descriptor,
      naming.registry.descriptor publication.type = .ok descriptor
  swap
  · left
    have hnone := not_exists.mp hregistered
    use .unregistered publication.type.typeName, ⟨.unregistered hnone, fun _ _ => Nat.zero_le _⟩
    apply h.refuses_of_unregistered hcourse hnone
  obtain ⟨descriptor, hdescriptor⟩ := hregistered
  by_cases hfits : publication.manner.Fits descriptor.role
  swap
  · left
    obtain ⟨error, hfault, hprecedence, hrefuses⟩ :=
      h.exists_fault_of_not_fits hcourse hdescriptor hfits
    refine ⟨error, ⟨hfault _, ?_⟩, hrefuses⟩
    intro other hother
    have hcases := hother.cases_of_registered hdescriptor
    omega
  obtain ⟨first, second, hdisagree, herror⟩ | ⟨route, hresolve, hroute⟩ :=
    resolve_cases hdescriptor publication.override
  · left
    rw [resolve_eq_route hdescriptor] at herror
    use .conflictingQueues descriptor.fullName first second,
      firstFault_conflictingQueues hdescriptor hfits hdisagree
    apply h.refuses_of_error hcourse hdescriptor hfits herror
  cases h.sends_of_route hcourse hdescriptor hfits hroute with
  | unwritable hpayload hacts =>
      left
      use .serialization descriptor.fullName,
        firstFault_serialization hdescriptor hfits hroute hpayload, hacts
      rw [messageType_of_route hroute]
  | @written payload context _ hpayload hcontext hdelivers =>
      have hfault : ∀ error, naming.Fault publication (cancelled = true) error →
          error.precedence = 4 ∧ cancelled = true :=
        fun _ => Fault.cancelled_of_route hdescriptor hfits hroute hpayload
      cases hdelivers with
      | cancelled hasked hacts =>
          left
          refine ⟨.cancelled, ⟨.cancelled (htoken true hasked).symm, ?_⟩, hacts, rfl⟩
          intro other hother
          apply Nat.le_of_eq (hfault other hother).1.symm
      | handed hasked hacts hresult =>
          right
          obtain rfl := htoken false hasked
          refine ⟨?_, route, payload, context, _, hresolve, hpayload, hcontext, hacts, hresult⟩
          intro error herror
          obtain ⟨-, hcancelled⟩ := hfault error herror
          contradiction

/-- Ticks that tell the hour. -/
def hourFormat : Format Datum := .ofShape "clock::Tick" (.record [("hour", .unsigned 32)])

/-- A tick whose token is cancelled while it is on its way has been handed to the transport; a
tick is not if names for its queue disagree, which is reported before the cancelled token. -/
theorem publishes_at_most_once_twelve :
  let twelve := Datum.record [("hour", .integer 12)]
  let sending : Operation Empty Empty (Except BusError Unit) :=
    clockNaming.publish hourFormat twelve (some (tick 0).context) {} id
  let refusing : Operation Empty Empty (Except BusError Unit) :=
    clockNaming.publish hourFormat twelve none
      { queue := { name := some "ticks" }, exchange := { queueName := some "tocks" } } id
  (∃ turns message, Course sending turns (.error .cancelled)
      ∧ actsOf turns = [.publish message none]
      ∧ message.payload = "\x7b\"hour\":12\x7d".toUTF8 ∧ message.context = (tick 0).context
      ∧ clockNaming.resolve "clock::Tick" {} = .ok message.route)
    ∧ ∃ turns, Course refusing turns (.error (.conflictingQueues "clock.Tick" "ticks" "tocks"))
      ∧ actsOf turns = []
  := by
  intro twelve sending refusing
  have hsends : clockNaming.Publishes _ sending :=
    .publish hourFormat twelve (some (tick 0).context) {} id
  have hrefuses : clockNaming.Publishes _ refusing :=
    .publish hourFormat twelve none
      { queue := { name := some "ticks" }, exchange := { queueName := some "tocks" } } id
  constructor
  · obtain ⟨message, hsent⟩ : ∃ message, Course sending
        [⟨.isCancelled, false⟩, ⟨.log ⟨.debug, "publishing message"⟩, ()⟩, ⟨.publish message, none⟩]
        (.error .cancelled) :=
      ⟨_, .ask (.ask (.ask .done))⟩
    have htoken (reply : Bool) (hasked : ⟨.isCancelled, reply⟩ ∈
        [⟨.isCancelled, false⟩, ⟨.log ⟨.debug, "publishing message"⟩, ()⟩,
          (⟨.publish message, none⟩ : Turn (Request Empty Empty) Request.Reply)]) :
        reply = false := by
      obtain hasked | hasked := List.mem_cons.mp hasked
      · cases hasked
        rfl
      · obtain hasked | hasked := List.mem_pair.mp hasked
        · cases hasked
        · cases hasked
    obtain ⟨error, ⟨hfault, -⟩, -, hresult⟩ |
        ⟨-, route, payload, context, outcome, hroute, hpayload, hcontext, hacts, hresult⟩ :=
      publishes_at_most_once hsends hsent htoken
    · obtain rfl : BusError.cancelled = error := Except.error.inj hresult
      cases hfault
      contradiction
    obtain hgiven | ⟨hnone, -⟩ := hcontext
    swap
    · contradiction
    obtain rfl := Option.some.inj hpayload
    obtain rfl := Option.some.inj hgiven
    obtain ⟨rfl, rfl⟩ : message = _ ∧ none = outcome := Act.publish.inj (List.cons.inj hacts).1
    refine ⟨_, _, hsent, hacts, ?_, rfl, hroute⟩
    change (Datum.record [("hour", .integer 12)]).payload = _
    decide +kernel
  · have hrefused : Course refusing []
        (.error (.conflictingQueues "clock.Tick" "ticks" "tocks")) :=
      .done
    have hnever (reply : Bool) (hasked : ⟨.isCancelled, reply⟩ ∈
        ([] : List (Turn (Request Empty Empty) Request.Reply))) : reply = true :=
      absurd hasked List.not_mem_nil
    obtain ⟨error, -, hacts, -⟩ | ⟨-, route, payload, context, outcome, hroute, -⟩ :=
      publishes_at_most_once hrefuses hrefused hnever
    · exact ⟨[], hrefused, hacts⟩
    · contradiction

end Naming

end AmqpBus

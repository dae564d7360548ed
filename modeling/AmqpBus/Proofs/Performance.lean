import AmqpBus.Operation
import AmqpBus.Proofs.Course
import Mathlib.Data.Stream.Init

/-!
# Undisturbed performances

What an operation does when nothing cancels it.  Its surroundings are then given by what
they have in store: the outcomes of dispatches, of publications and of subscriptions, and
new contexts, each of them an infinite sequence that is used up in order.  An operation
is performed by a run whose replies come from such a store; its acts are what can be
noticed of it from outside.  The performances of an operation are exactly its undisturbed
courses.
-/

namespace AmqpBus

open Interaction

/-- What can be noticed of an operation: that a handler is run, that time passes, and
that a message is handed to the transport, each with the reply. -/
inductive Act (D : Type) where
  | dispatch (call : D) (outcome : Except HandlerError Unit)
  | pause (delay : Time.Duration) (whole : Bool)
  | publish (message : Outbound) (outcome : Option (Except BrokerError Unit))

namespace Act

variable {D : Type}

/-- The dispatch that an act is. -/
def dispatch? : Act D → Option (D × Except HandlerError Unit)
  | .dispatch call outcome => some (call, outcome)
  | _ => none

/-- The pause that an act is. -/
def pause? : Act D → Option Time.Duration
  | .pause delay _ => some delay
  | _ => none

/-- The publication that an act is. -/
def publication? : Act D → Option (Outbound × Option (Except BrokerError Unit))
  | .publish message outcome => some (message, outcome)
  | _ => none

end Act

variable {D H α β : Type}

/-- What can be noticed of a question and its reply. -/
def Request.act? : (request : Request D H) → request.Reply → Option (Act D)
  | .dispatch call, outcome => some (.dispatch call outcome)
  | .pause delay, whole => some (.pause delay whole)
  | .publish message, outcome => some (.publish message outcome)
  | _, _ => none

/-- What can be noticed of turns. -/
def actsOf (turns : List (Turn (Request D H) Request.Reply)) : List (Act D) :=
  turns.filterMap fun turn => turn.question.act? turn.reply

theorem actsOf_append (first second : List (Turn (Request D H) Request.Reply)) :
  actsOf (first ++ second) = actsOf first ++ actsOf second
  := List.filterMap_append

theorem actsOf_cons (turn : Turn (Request D H) Request.Reply)
    (turns : List (Turn (Request D H) Request.Reply)) :
  actsOf (turn :: turns) = (turn.question.act? turn.reply).toList ++ actsOf turns
  := by
  rw [actsOf, List.filterMap_cons]
  cases turn.question.act? turn.reply <;> rfl

/-- Whether a reply may be given where nothing is cancelled. -/
def Request.Undisturbed : (request : Request D H) → request.Reply → Prop
  | .isCancelled, cancelled => cancelled = false
  | .acquire, acquired => acquired = true
  | .pause _, whole => whole = true
  | .publish _, outcome => outcome.isSome
  | _, _ => True

/-! ### Performing an operation -/

/-- What undisturbed surroundings have in store. -/
structure Supply where
  outcomes : Stream' (Except HandlerError Unit)
  publications : Stream' (Except BrokerError Unit)
  subscriptions : Stream' (Except BrokerError Unit)
  contexts : Stream' Context

/-- The reply to a request, with what is in store after it. -/
def Supply.reply : (request : Request D H) → Supply → request.Reply × Supply
  | .isCancelled, supply => (false, supply)
  | .acquire, supply => (true, supply)
  | .release, supply => ((), supply)
  | .newContext, supply =>
    (supply.contexts.head, { supply with contexts := supply.contexts.tail })
  | .dispatch _, supply =>
    (supply.outcomes.head, { supply with outcomes := supply.outcomes.tail })
  | .pause _, supply => (true, supply)
  | .publish _, supply =>
    (some supply.publications.head, { supply with publications := supply.publications.tail })
  | .subscribe _ _, supply =>
    (supply.subscriptions.head, { supply with subscriptions := supply.subscriptions.tail })
  | .log _, supply => ((), supply)

/-- An operation as it was performed: its acts, its value, and what is left in store. -/
structure Performance (D α : Type) where
  acts : List (Act D)
  value : α
  left : Supply

namespace Performance

/-- A performance with acts before it. -/
def after (performance : Performance D α) (acts : List (Act D)) : Performance D α :=
  { performance with acts := acts ++ performance.acts }

/-- A performance with another value. -/
def map (f : α → β) (performance : Performance D α) : Performance D β :=
  ⟨performance.acts, f performance.value, performance.left⟩

/-- The handlers that were run, with their outcomes. -/
def dispatches (performance : Performance D α) : List (D × Except HandlerError Unit) :=
  performance.acts.filterMap Act.dispatch?

/-- The delays that were waited for. -/
def pauses (performance : Performance D α) : List Time.Duration :=
  performance.acts.filterMap Act.pause?

/-- The messages that were handed to the transport, with what came of it. -/
def publications (performance : Performance D α) :
    List (Outbound × Option (Except BrokerError Unit)) :=
  performance.acts.filterMap Act.publication?

@[simp]
theorem after_nil (performance : Performance D α) :
  performance.after [] = performance
  := rfl

@[simp]
theorem after_after (performance : Performance D α) (first second : List (Act D)) :
  (performance.after second).after first = performance.after (first ++ second)
  := by
  simp [after]

@[simp]
theorem after_mk (acts first : List (Act D)) (value : α) (left : Supply) :
  Performance.after ⟨acts, value, left⟩ first = ⟨first ++ acts, value, left⟩
  := rfl

@[simp]
theorem map_mk (f : α → β) (acts : List (Act D)) (value : α) (left : Supply) :
  Performance.map f ⟨acts, value, left⟩ = ⟨acts, f value, left⟩
  := rfl

@[simp]
theorem value_after (performance : Performance D α) (acts : List (Act D)) :
  (performance.after acts).value = performance.value
  := rfl

@[simp]
theorem acts_after (performance : Performance D α) (acts : List (Act D)) :
  (performance.after acts).acts = acts ++ performance.acts
  := rfl

@[simp]
theorem left_after (performance : Performance D α) (acts : List (Act D)) :
  (performance.after acts).left = performance.left
  := rfl

end Performance

namespace Operation

/-- Performs an operation with what is in store. -/
def perform (operation : Operation D H α) (supply : Supply) : Performance D α where
  acts := actsOf (operation.history Supply.reply supply)
  value := (operation.run Supply.reply supply).1
  left := (operation.run Supply.reply supply).2

@[simp]
theorem perform_pure (value : α) (supply : Supply) :
  perform (pure value : Operation D H α) supply = ⟨[], value, supply⟩
  := rfl

@[simp]
theorem perform_bind (operation : Operation D H α) (next : α → Operation D H β)
    (supply : Supply) :
  perform (operation >>= next) supply
    = ((next (operation.perform supply).value).perform (operation.perform supply).left).after
        (operation.perform supply).acts
  := by
  have hrun := run_bind Supply.reply operation next supply
  rw [perform, history_bind, actsOf_append]
  change Performance.mk _ ((operation.bind next).run Supply.reply supply).1
    ((operation.bind next).run Supply.reply supply).2 = _
  rw [hrun]
  rfl

@[simp]
theorem perform_map (f : α → β) (operation : Operation D H α) (supply : Supply) :
  (f <$> operation).perform supply = (operation.perform supply).map f
  := by
  rw [← bind_pure_comp, perform_bind, Performance.after]
  simp [Performance.map]

theorem perform_ask (request : Request D H) (next : request.Reply → Operation D H α)
    (supply : Supply) :
  perform (.ask request next) supply
    = ((next (Supply.reply request supply).1).perform (Supply.reply request supply).2).after
        (request.act? (Supply.reply request supply).1).toList
  := by
  rw [perform, history, actsOf_cons]
  rfl

@[simp]
theorem perform_isCancelled (supply : Supply) :
  (isCancelled : Operation D H Bool).perform supply = ⟨[], false, supply⟩
  := rfl

@[simp]
theorem perform_dispatch (call : D) (supply : Supply) :
  (dispatch call : Operation D H (Except HandlerError Unit)).perform supply
    = ⟨[.dispatch call supply.outcomes.head], supply.outcomes.head,
        { supply with outcomes := supply.outcomes.tail }⟩
  := rfl

@[simp]
theorem perform_pause (delay : Time.Duration) (supply : Supply) :
  (pause delay : Operation D H Bool).perform supply = ⟨[.pause delay true], true, supply⟩
  := rfl

@[simp]
theorem perform_publish (message : Outbound) (supply : Supply) :
  (publish message : Operation D H (Option (Except BrokerError Unit))).perform supply
    = ⟨[.publish message (some supply.publications.head)], some supply.publications.head,
        { supply with publications := supply.publications.tail }⟩
  := rfl

@[simp]
theorem perform_debug (text : String) (supply : Supply) :
  (debug text : Operation D H Unit).perform supply = ⟨[], (), supply⟩
  := rfl

@[simp]
theorem perform_warn (text : String) (supply : Supply) :
  (warn text : Operation D H Unit).perform supply = ⟨[], (), supply⟩
  := rfl

@[simp]
theorem perform_complain (text : String) (supply : Supply) :
  (complain text : Operation D H Unit).perform supply = ⟨[], (), supply⟩
  := rfl

/-! ### Performances and undisturbed courses -/

theorem undisturbed_reply (request : Request D H) (supply : Supply) :
  request.Undisturbed (Supply.reply request supply).1
  := by
  cases request <;> first | rfl | trivial

/-- Every undisturbed reply can be in store, before everything else. -/
theorem exists_reply (request : Request D H) (reply : request.Reply)
    (hreply : request.Undisturbed reply) (supply : Supply) :
  ∃ given, Supply.reply request given = (reply, supply)
  := by
  cases request with
  | isCancelled => exact ⟨supply, by rw [Supply.reply, hreply]⟩
  | acquire => exact ⟨supply, by rw [Supply.reply, hreply]⟩
  | release => exact ⟨supply, rfl⟩
  | newContext => exact ⟨{ supply with contexts := supply.contexts.cons reply }, rfl⟩
  | dispatch call => exact ⟨{ supply with outcomes := supply.outcomes.cons reply }, rfl⟩
  | pause delay => exact ⟨supply, by rw [Supply.reply, hreply]⟩
  | publish message =>
      obtain ⟨outcome, rfl⟩ := Option.isSome_iff_exists.mp hreply
      exact ⟨{ supply with publications := supply.publications.cons outcome }, rfl⟩
  | subscribe route handler =>
      exact ⟨{ supply with subscriptions := supply.subscriptions.cons reply }, rfl⟩
  | log entry => exact ⟨supply, rfl⟩

/-- Replies from a store disturb nothing. -/
theorem undisturbed_history (operation : Operation D H α) (supply : Supply) :
  ∀ turn ∈ operation.history Supply.reply supply, turn.question.Undisturbed turn.reply
  := by
  induction operation generalizing supply with
  | done value => simp [history]
  | ask request next ih =>
      intro turn hturn
      obtain rfl | hrest := List.mem_cons.mp hturn
      · apply undisturbed_reply
      · apply ih _ _ turn hrest

/-- A performance is an undisturbed course. -/
theorem course_perform (operation : Operation D H α) (supply : Supply) :
  ∃ turns, Course operation turns (operation.perform supply).value
    ∧ (∀ turn ∈ turns, turn.question.Undisturbed turn.reply)
    ∧ actsOf turns = (operation.perform supply).acts
  := ⟨operation.history Supply.reply supply, course_history Supply.reply operation supply,
    undisturbed_history operation supply, rfl⟩

/-- Every undisturbed course is a performance, with some store. -/
theorem exists_perform_eq {operation : Operation D H α}
    {turns : List (Turn (Request D H) Request.Reply)} {value : α}
    (hcourse : Course operation turns value)
    (hundisturbed : ∀ turn ∈ turns, turn.question.Undisturbed turn.reply) (left : Supply) :
  ∃ supply, operation.perform supply = ⟨actsOf turns, value, left⟩
  := by
  induction hcourse with
  | done => exact ⟨left, rfl⟩
  | @ask request reply next turns value _ ih =>
      obtain ⟨later, hlater⟩ := ih (List.forall_mem_cons.mp hundisturbed).2
      obtain ⟨supply, hsupply⟩ :=
        exists_reply request reply (hundisturbed _ List.mem_cons_self) later
      use supply
      rw [perform_ask, hsupply, hlater, actsOf_cons, Performance.after_mk]

end Operation

end AmqpBus

import AmqpBus.Proofs.Course
import AmqpBus.Retry.Processing

/-!
# Callbacks that are called

The callbacks around an action may do anything that their monad allows.  Which of them are
called does not depend on what they do, except for the replies of the action, of the
matcher and of the callback that runs always.  So handling is a program over calls, of
which the monad is an interpretation, and the courses of that program say what is called,
in which order, and what comes of it.
-/

namespace AmqpBus

namespace Interaction

/-! ### Interpretations -/

variable {Q : Type} {A : Q → Type} {α β : Type} {m : Type → Type} [Monad m]

/-- Runs a program in a monad in which its questions are performed. -/
def interpret (perform : (question : Q) → m (A question)) : Interaction Q A α → m α
  | .done value => pure value
  | .ask question next => do
    let reply ← perform question
    (next reply).interpret perform

variable (perform : (question : Q) → m (A question))

@[simp]
theorem interpret_pure (value : α) :
  (pure value : Interaction Q A α).interpret perform = pure value
  := rfl

@[simp]
theorem interpret_request [LawfulMonad m] (question : Q) :
  (request question).interpret perform = perform question
  := by
  apply bind_pure

@[simp]
theorem interpret_bind [LawfulMonad m] (program : Interaction Q A α)
    (next : α → Interaction Q A β) :
  (program >>= next).interpret perform
    = program.interpret perform >>= fun value => (next value).interpret perform
  := by
  induction program with
  | done value =>
      symm
      apply pure_bind
  | ask question more ih =>
      rw [interpret, bind_assoc]
      apply bind_congr
      intro reply
      apply ih

@[simp]
theorem interpret_map [LawfulMonad m] (f : α → β) (program : Interaction Q A α) :
  (f <$> program).interpret perform = f <$> program.interpret perform
  := by
  rw [map_eq_pure_bind, map_eq_pure_bind, interpret_bind]
  rfl

end Interaction

open Interaction

namespace Handling

variable {m : Type → Type} {ε α : Type}

/-! ### Calls -/

/-- What handling calls: the action, the matcher, or one of the callbacks. -/
inductive Call (ε α : Type) where
  | action
  | accepts (error : ε)
  | succeeded (value : α)
  | custom (error : ε)
  | failed (error : ε)
  | always

namespace Call

/-- What comes of a call. -/
abbrev Reply : Call ε α → Type
  | .action => Except ε α
  | .accepts _ => Bool
  | .succeeded _ => Unit
  | .custom _ => Unit
  | .failed _ => Unit
  | .always => Except ε Unit

/-- The stage to which a call belongs: the callbacks for success, for custom errors and
for all other errors share one. -/
def stage : Call ε α → Nat
  | .action => 0
  | .accepts _ => 1
  | .succeeded _ => 2
  | .custom _ => 2
  | .failed _ => 2
  | .always => 3

/-- The program that makes one call. -/
abbrev make (call : Call ε α) : Interaction (Call ε α) Call.Reply call.Reply := request call

end Call

/-- The same handling when all that a callback does is to be called. -/
def calling (handling : Handling m ε α) : Handling (Interaction (Call ε α) Call.Reply) ε α where
  onSuccess := handling.onSuccess.map fun _ value => (Call.succeeded value).make
  onCustom := handling.onCustom.map fun custom =>
    (fun error => (Call.accepts error).make,
      ⟨fun error => (Call.custom error).make, custom.2.rethrow⟩)
  onError := handling.onError.map fun route =>
    ⟨fun error => (Call.failed error).make, route.rethrow⟩
  always := handling.always.map fun _ => Call.always.make

/-- The calls that handling makes around an action. -/
def script (handling : Handling m ε α) : Interaction (Call ε α) Call.Reply (Except ε (Option α)) :=
  handling.calling.execute Call.action.make

/-- The calls in some turns. -/
def calls (turns : List (Turn (Call ε α) Call.Reply)) : List (Call ε α) :=
  turns.map Turn.question

section Perform

variable [Monad m]

/-- Performs a call.  A callback that is not there does nothing. -/
def perform (handling : Handling m ε α) (action : m (Except ε α)) : (call : Call ε α) → m call.Reply
  | .action => action
  | .accepts error => handling.onCustom.elim (pure false) fun custom => custom.1 error
  | .succeeded value => handling.onSuccess.elim (pure ()) fun callback => callback value
  | .custom error => handling.onCustom.elim (pure ()) fun custom => custom.2.callback error
  | .failed error => handling.onError.elim (pure ()) fun route => route.callback error
  | .always => handling.always.elim (pure (.ok ())) id

variable [LawfulMonad m] (handling : Handling m ε α) (action : m (Except ε α))

theorem interpret_settle (outcome : Except ε α) :
  (handling.calling.settle outcome).interpret (handling.perform action) = handling.settle outcome
  := by
  obtain ⟨onSuccess, onCustom, onError, always⟩ := handling
  cases outcome with
  | ok value =>
      cases onSuccess with
      | none => rfl
      | some callback => simp [settle, calling, perform]
  | error error =>
      cases onCustom with
      | none => cases onError <;> simp [settle, route, calling, perform]
      | some custom =>
          simp only [settle, route, calling, Option.map_some, interpret_bind, interpret_request,
            bind_assoc]
          apply bind_congr
          intro accepted
          cases accepted <;> cases onError <;> simp [perform]

/-- Handling an action is making the calls of the script. -/
theorem execute_eq_interpret :
  handling.execute action = handling.script.interpret (handling.perform action)
  := by
  rw [execute, script, execute, interpret_bind, interpret_request]
  apply bind_congr
  intro outcome
  rw [interpret_bind, interpret_settle]
  apply bind_congr
  intro settled
  -- what is left is the callback that runs always
  obtain ⟨onSuccess, onCustom, onError, always⟩ := handling
  cases always with
  | none => rfl
  | some callback =>
      simp only [calling, Option.map_some, interpret_bind, interpret_request]
      apply bind_congr
      intro ended
      cases ended <;> rfl

end Perform

/-! ### Courses of calls -/

/-- The route that was called for an error swallows it. -/
def Swallows (handling : Handling m ε α) (calls : List (Call ε α)) (error : ε) : Prop :=
  (∃ custom ∈ handling.onCustom, .custom error ∈ calls ∧ custom.2.rethrow = false)
    ∨ ∃ route ∈ handling.onError, .failed error ∈ calls ∧ route.rethrow = false

/-- What is called for an outcome, and what the outcome becomes. -/
structure Settled (handling : Handling m ε α) (outcome : Except ε α)
    (turns : List (Turn (Call ε α) Call.Reply)) (settled : Except ε (Option α)) : Prop where
  /-- Each stage has one call at most, so no two of the three callbacks are called. -/
  inOrder : (calls turns).Pairwise fun earlier later => earlier.stage < later.stage
  /-- The action and the callback that runs always are not called here. -/
  between : ∀ call ∈ calls turns, call ≠ .action ∧ call ≠ .always
  succeeded : ∀ value, .succeeded value ∈ calls turns
    ↔ handling.onSuccess.isSome ∧ outcome = .ok value
  accepts : ∀ error, .accepts error ∈ calls turns
    ↔ handling.onCustom.isSome ∧ outcome = .error error
  custom : ∀ error, .custom error ∈ calls turns
    ↔ outcome = .error error ∧ ⟨.accepts error, true⟩ ∈ turns
  failed : ∀ error, .failed error ∈ calls turns
    ↔ handling.onError.isSome ∧ outcome = .error error ∧ ⟨.accepts error, true⟩ ∉ turns
  ok : ∀ value, outcome = .ok value → settled = .ok (some value)
  swallowed : ∀ error, outcome = .error error → handling.Swallows (calls turns) error →
    settled = .ok none
  thrown : ∀ error, outcome = .error error → ¬ handling.Swallows (calls turns) error →
    settled = .error error

/-- The action is run, its outcome is settled, and what runs always runs last. -/
inductive Handled (handling : Handling m ε α) :
    List (Turn (Call ε α) Call.Reply) → Except ε (Option α) → Prop
  /-- Nothing runs always. -/
  | plain {outcome : Except ε α} {turns : List (Turn (Call ε α) Call.Reply)}
      {settled : Except ε (Option α)} (hnone : handling.always = none)
      (h : handling.Settled outcome turns settled) :
    Handled handling (⟨.action, outcome⟩ :: turns) settled
  /-- What runs always goes well. -/
  | ended {outcome : Except ε α} {turns : List (Turn (Call ε α) Call.Reply)}
      {settled : Except ε (Option α)} (hsome : handling.always.isSome)
      (h : handling.Settled outcome turns settled) :
    Handled handling (⟨.action, outcome⟩ :: turns ++ [⟨.always, .ok ()⟩]) settled
  /-- What runs always fails, and so does all of it, whatever the outcome was. -/
  | failed {outcome : Except ε α} {turns : List (Turn (Call ε α) Call.Reply)}
      {settled : Except ε (Option α)} {error : ε} (hsome : handling.always.isSome)
      (h : handling.Settled outcome turns settled) :
    Handled handling (⟨.action, outcome⟩ :: turns ++ [⟨.always, .error error⟩]) (.error error)

variable {handling : Handling m ε α} {turns : List (Turn (Call ε α) Call.Reply)}
  {settled result : Except ε (Option α)}

theorem settled_of_ok {value : α} (h : Course (handling.calling.settle (.ok value)) turns settled) :
  handling.Settled (.ok value) turns settled
  := by
  obtain ⟨onSuccess, onCustom, onError, always⟩ := handling
  cases onSuccess with
  | none =>
      obtain ⟨rfl, rfl⟩ := course_pure_iff.mp h
      exact
        { inOrder := .nil
          between := by simp [calls]
          succeeded := by simp [calls]
          accepts := by simp [calls]
          custom := by simp [calls]
          failed := by simp [calls]
          ok := by simp
          swallowed := nofun
          thrown := nofun }
  | some callback =>
      obtain ⟨first, reply, second, hfirst, hsecond, rfl⟩ := course_bind_iff.mp h
      obtain rfl := course_request_iff.mp hfirst
      obtain ⟨rfl, rfl⟩ := course_pure_iff.mp hsecond
      exact
        { inOrder := List.pairwise_singleton _ _
          between := by simp [calls]
          succeeded := by simp [calls, @eq_comm _ value]
          accepts := by simp [calls]
          custom := by simp [calls]
          failed := by simp [calls]
          ok := by simp
          swallowed := nofun
          thrown := nofun }

/-- What is called for an error: the matcher, and the callback of the route that the error
takes, which says what the error becomes. -/
structure Routed (handling : Handling m ε α) (error : ε)
    (turns : List (Turn (Call ε α) Call.Reply)) (settled : Except ε (Option α)) : Prop where
  inOrder : (calls turns).Pairwise fun earlier later => earlier.stage < later.stage
  known : ∀ call ∈ calls turns, call = .accepts error ∨ call = .custom error ∨ call = .failed error
  accepts : .accepts error ∈ calls turns ↔ handling.onCustom.isSome
  custom : .custom error ∈ calls turns ↔ ⟨.accepts error, true⟩ ∈ turns
  failed : .failed error ∈ calls turns ↔ handling.onError.isSome ∧ ⟨.accepts error, true⟩ ∉ turns
  swallows : handling.Swallows (calls turns) error ↔ settled = .ok none
  ends : settled = .ok none ∨ settled = .error error

/-- Nothing is called for any other error. -/
theorem Settled.of_routed {error : ε} (h : handling.Routed error turns settled) :
  handling.Settled (.error error) turns settled
  where
    inOrder := h.inOrder
    between := by
      intro call hcall
      obtain rfl | rfl | rfl := h.known call hcall
      all_goals exact ⟨nofun, nofun⟩
    succeeded := by
      intro value
      constructor
      · intro hcall
        obtain hfalse | hfalse | hfalse := h.known _ hcall
        all_goals contradiction
      · rintro ⟨-, hfalse⟩
        contradiction
    accepts := by
      intro other
      constructor
      · intro hcall
        obtain ⟨⟨⟩⟩ | hfalse | hfalse := h.known _ hcall
        · exact ⟨h.accepts.mp hcall, rfl⟩
        · contradiction
        · contradiction
      · rintro ⟨hsome, ⟨⟩⟩
        apply h.accepts.mpr hsome
    custom := by
      intro other
      constructor
      · intro hcall
        obtain hfalse | ⟨⟨⟩⟩ | hfalse := h.known _ hcall
        · contradiction
        · exact ⟨rfl, h.custom.mp hcall⟩
        · contradiction
      · rintro ⟨⟨⟩, haccepted⟩
        apply h.custom.mpr haccepted
    failed := by
      intro other
      constructor
      · intro hcall
        obtain hfalse | hfalse | ⟨⟨⟩⟩ := h.known _ hcall
        · contradiction
        · contradiction
        · obtain ⟨hsome, hdeclined⟩ := h.failed.mp hcall
          exact ⟨hsome, rfl, hdeclined⟩
      · rintro ⟨hsome, ⟨⟩, hdeclined⟩
        apply h.failed.mpr ⟨hsome, hdeclined⟩
    ok := by
      intro value hfalse
      contradiction
    swallowed := by
      rintro _ ⟨⟩ hswallows
      apply h.swallows.mp hswallows
    thrown := by
      rintro _ ⟨⟩ hpasses
      apply h.ends.resolve_left (mt h.swallows.mpr hpasses)

theorem eq_of_course_call {call : Call ε α} {rethrow : Bool} {error : ε}
    (h : Course (do let _ ← call.make; return if rethrow then .error error else .ok none) turns
      settled) :
  ∃ reply, turns = [⟨call, reply⟩] ∧ settled = if rethrow then .error error else .ok none
  := by
  obtain ⟨first, reply, second, hfirst, hsecond, rfl⟩ := course_bind_iff.mp h
  obtain rfl := course_request_iff.mp hfirst
  obtain ⟨rfl, rfl⟩ := course_pure_iff.mp hsecond
  use reply, rfl

/-- What a route makes of an error. -/
theorem ends_of_rethrow {error : ε} (rethrow : Bool) :
  (if rethrow then Except.error error else .ok none : Except ε (Option α)) = .ok none
    ∨ (if rethrow then Except.error error else .ok none : Except ε (Option α)) = .error error
  := by
  cases rethrow with
  | false => exact .inl rfl
  | true => exact .inr rfl

theorem settled_of_error {error : ε}
    (h : Course (handling.calling.settle (.error error)) turns settled) :
  handling.Settled (.error error) turns settled
  := by
  apply Settled.of_routed
  obtain ⟨onSuccess, onCustom, onError, always⟩ := handling
  obtain ⟨asked, taken, called, hasked, hcalled, rfl⟩ := course_bind_iff.mp h
  -- the matcher, where there is one, has the first word about the route that is taken
  cases onCustom with
  | none =>
      obtain ⟨rfl, rfl⟩ := course_pure_iff.mp hasked
      cases onError with
      | none =>
          obtain ⟨rfl, rfl⟩ := course_pure_iff.mp hcalled
          exact
            { inOrder := .nil
              known := by simp [calls]
              accepts := by simp [calls]
              custom := by simp [calls]
              failed := by simp [calls]
              swallows := by simp [Swallows]
              ends := .inr rfl }
      | some route =>
          obtain ⟨reply, rfl, rfl⟩ := eq_of_course_call hcalled
          exact
            { inOrder := List.pairwise_singleton _ _
              known := by simp [calls]
              accepts := by simp [calls]
              custom := by simp [calls]
              failed := by simp [calls]
              swallows := by simp [Swallows, calls]
              ends := ends_of_rethrow _ }
  | some custom =>
      obtain ⟨first, accepted, second, hfirst, hsecond, rfl⟩ := course_bind_iff.mp hasked
      obtain rfl := course_request_iff.mp hfirst
      cases accepted with
      | true =>
          obtain ⟨rfl, rfl⟩ := course_pure_iff.mp hsecond
          obtain ⟨reply, rfl, rfl⟩ := eq_of_course_call hcalled
          exact
            { inOrder := List.pairwise_pair.mpr Nat.one_lt_two
              known := by simp [calls]
              accepts := by simp [calls]
              custom := by simp [calls]
              failed := by simp [calls]
              swallows := by simp [Swallows, calls]
              ends := ends_of_rethrow _ }
      | false =>
          obtain ⟨rfl, rfl⟩ := course_pure_iff.mp hsecond
          cases onError with
          | none =>
              obtain ⟨rfl, rfl⟩ := course_pure_iff.mp hcalled
              exact
                { inOrder := List.pairwise_singleton _ _
                  known := by simp [calls]
                  accepts := by simp [calls]
                  custom := by simp [calls]
                  failed := by simp [calls]
                  swallows := by simp [Swallows, calls]
                  ends := .inr rfl }
          | some route =>
              obtain ⟨reply, rfl, rfl⟩ := eq_of_course_call hcalled
              exact
                { inOrder := List.pairwise_pair.mpr Nat.one_lt_two
                  known := by simp [calls]
                  accepts := by simp [calls]
                  custom := by simp [calls]
                  failed := by simp [calls]
                  swallows := by simp [Swallows, calls]
                  ends := ends_of_rethrow _ }

theorem settled_of_course {outcome : Except ε α}
    (h : Course (handling.calling.settle outcome) turns settled) :
  handling.Settled outcome turns settled
  := by
  cases outcome with
  | ok value => apply settled_of_ok h
  | error error => apply settled_of_error h

/-- Every course of the script is handled. -/
theorem handled_of_course (h : Course handling.script turns result) :
  handling.Handled turns result
  := by
  obtain ⟨first, outcome, rest, hfirst, hrest, rfl⟩ := course_bind_iff.mp h
  obtain rfl := course_request_iff.mp hfirst
  obtain ⟨middle, settled, last, hmiddle, hlast, rfl⟩ := course_bind_iff.mp hrest
  have hsettled := settled_of_course hmiddle
  cases halways : handling.always with
  | none =>
      rw [calling, halways] at hlast
      obtain ⟨rfl, rfl⟩ := course_pure_iff.mp hlast
      rw [List.append_nil]
      exact .plain halways hsettled
  | some callback =>
      rw [calling, halways] at hlast
      obtain ⟨first, ended, second, hfirst, hsecond, rfl⟩ := course_bind_iff.mp hlast
      obtain rfl := course_request_iff.mp hfirst
      cases ended with
      | ok done =>
          obtain ⟨rfl, rfl⟩ := course_pure_iff.mp hsecond
          exact .ended (by simp [halways]) hsettled
      | error error =>
          obtain ⟨rfl, rfl⟩ := course_pure_iff.mp hsecond
          exact .failed (by simp [halways]) hsettled

/-! ### Callbacks that leave the outcome as it is -/

/-- Every route passes the error on. -/
structure Rethrows (handling : Handling m ε α) : Prop where
  custom : ∀ custom ∈ handling.onCustom, custom.2.rethrow = true
  error : ∀ route ∈ handling.onError, route.rethrow = true

section Idle

variable [Monad m]

/-- The callbacks do nothing, and every route passes the error on. -/
structure Idle (handling : Handling m ε α) : Prop extends Rethrows handling where
  success_idle : ∀ callback ∈ handling.onSuccess, ∀ value, callback value = pure ()
  accepts_idle : ∀ custom ∈ handling.onCustom, ∀ error, ∃ accepted, custom.1 error = pure accepted
  custom_idle : ∀ custom ∈ handling.onCustom, ∀ error, custom.2.callback error = pure ()
  error_idle : ∀ route ∈ handling.onError, ∀ error, route.callback error = pure ()
  always_idle : ∀ callback ∈ handling.always, callback = pure (.ok ())

/-- Calls the callback of an outcome. -/
def notice (handling : Handling m ε α) : Except ε α → m Unit
  | .ok value => handling.onSuccess.elim (pure ()) fun callback => callback value
  | .error error => do
    (← handling.route error).elim (pure ()) fun route => route.callback error

variable [LawfulMonad m] {handling : Handling m ε α}

/-- Where every route passes the error on, all that settling does is to call a callback. -/
theorem Rethrows.settle_eq (h : handling.Rethrows) (outcome : Except ε α) :
  handling.settle outcome = do handling.notice outcome; return outcome.map some
  := by
  obtain ⟨onSuccess, onCustom, onError, always⟩ := handling
  cases outcome with
  | ok value => cases onSuccess <;> simp [settle, notice, Except.map]
  | error error =>
      cases onCustom with
      | none =>
          cases onError with
          | none => simp [settle, notice, route, Except.map]
          | some failed => simp [settle, notice, route, Except.map, h.error failed rfl]
      | some custom =>
          simp only [settle, notice, route, bind_assoc]
          apply bind_congr
          intro accepted
          cases accepted with
          | true => simp [Except.map, h.custom custom rfl]
          | false =>
              cases onError with
              | none => simp [Except.map]
              | some failed => simp [Except.map, h.error failed rfl]

/-- Where every route passes the error on and nothing runs always, the action is run and its
outcome is noticed. -/
theorem Rethrows.execute_eq (h : handling.Rethrows) (hnone : handling.always = none)
    (action : m (Except ε α)) :
  handling.execute action = do
    let outcome ← action
    handling.notice outcome
    return outcome.map some
  := by
  rw [execute, hnone]
  apply bind_congr
  intro outcome
  rw [h.settle_eq, bind_pure]

theorem Idle.notice_eq (h : handling.Idle) (outcome : Except ε α) :
  handling.notice outcome = pure ()
  := by
  obtain ⟨onSuccess, onCustom, onError, always⟩ := handling
  have hfailed (error : ε) :
      (onError.elim (pure ()) fun route => route.callback error) = (pure () : m Unit) := by
    cases onError with
    | none => rfl
    | some failed => apply h.error_idle failed rfl
  cases outcome with
  | ok value =>
      cases onSuccess with
      | none => rfl
      | some callback => apply h.success_idle callback rfl
  | error error =>
      cases onCustom with
      | none => simp [notice, route, hfailed]
      | some custom =>
          obtain ⟨accepted, haccepted⟩ := h.accepts_idle custom rfl error
          cases accepted with
          | true => simp [notice, route, haccepted, h.custom_idle custom rfl]
          | false => simp [notice, route, haccepted, hfailed]

/-- Callbacks that do nothing leave the action as it is. -/
theorem Idle.execute_eq (h : handling.Idle) (action : m (Except ε α)) :
  handling.execute action = Except.map some <$> action
  := by
  rw [execute, map_eq_pure_bind]
  apply bind_congr
  intro outcome
  rw [h.settle_eq, h.notice_eq, pure_bind, pure_bind]
  cases halways : handling.always with
  | none => rfl
  | some callback =>
      rw [h.always_idle callback halways]
      apply pure_bind

end Idle

end Handling

/-! ### Compensation -/

namespace Processing

open Operation

variable {D H γ : Type}

/-- Tells the log what came of the publication of a reject event. -/
def told : Except BusError Unit → Operation D H Unit
  | .ok () => debug "compensation event published"
  | .error _ => complain "failure to publish compensation event"

/-- Compensation ends as the publication of the reject event does. -/
theorem compensate_eq (processing : Processing D γ) (message : Inbound) (error : HandlerError)
    {toReject : γ → HandlerError → RejectEvent}
    (h : toReject ∈ processing.failures.toReject) :
  (processing.compensate message error : Operation D H (Except BusError Unit)) = do
    match ← processing.decode message with
    | none => return .ok ()
    | some payload =>
      let outcome ← processing.naming.publishRejection (toReject payload error) message.context
      told outcome
      return outcome
  := by
  rw [compensate, h]
  apply bind_congr
  intro payload
  cases payload with
  | none => rfl
  | some payload =>
      dsimp only
      rw [Handling.Rethrows.execute_eq ⟨by simp, by simp⟩ rfl, bind_assoc]
      apply bind_congr
      intro outcome
      cases outcome <;> rfl

end Processing

namespace Handling

/-- Handling an action calls what the outcome asks for, in order and once each, and ends as
the callbacks say.  Callbacks that do nothing and pass errors on change nothing, and neither
do those of compensation. -/
theorem execute_handled [Monad m] [LawfulMonad m] (handling : Handling m ε α)
    (action : m (Except ε α)) :
  handling.execute action = handling.script.interpret (handling.perform action)
    ∧ (∀ turns result, Course handling.script turns result → handling.Handled turns result)
    ∧ (handling.Idle → handling.execute action = Except.map some <$> action)
    ∧ ∀ {D H γ : Type} (processing : Processing D γ) (message : Inbound) (error : HandlerError),
        ∀ toReject ∈ processing.failures.toReject,
          (processing.compensate message error : Operation D H (Except BusError Unit)) = do
            match ← processing.decode message with
            | none => return .ok ()
            | some payload =>
              let outcome ←
                processing.naming.publishRejection (toReject payload error) message.context
              Processing.told outcome
              return outcome
  := by
  refine ⟨execute_eq_interpret handling action, ?_, ?_, ?_⟩
  · intro turns result h
    apply handled_of_course h
  · intro hidle
    apply hidle.execute_eq
  · intro D H γ processing message error toReject h
    apply processing.compensate_eq message error h

/-- Handling that notes its calls and swallows the errors that it knows. -/
def noting : Handling (StateM (List String)) String Nat where
  onSuccess := some fun _ => modify (· ++ ["succeeded"])
  onCustom := some
    (fun error => do modify (· ++ ["accepts"]); return error == "known",
      { callback := fun _ => modify (· ++ ["custom"]), rethrow := false })
  onError := some { callback := fun _ => modify (· ++ ["failed"]), rethrow := true }
  always := some do modify (· ++ ["always"]); return .ok ()

/-- The replies when the action ends with a known error. -/
def knownError : (call : Call String Nat) → Unit → call.Reply × Unit
  | .action, _ => (.error "known", ())
  | .accepts error, _ => (error == "known", ())
  | .succeeded _, _ => ((), ())
  | .custom _, _ => ((), ())
  | .failed _, _ => ((), ())
  | .always, _ => (.ok (), ())

theorem execute_handled_noting :
  (noting.execute (pure (.error "known"))).run [] = (.ok none, ["accepts", "custom", "always"])
    ∧ (∃ turns, calls turns = [.action, .accepts "known", .custom "known", .always]
      ∧ noting.Handled turns (.ok none))
    ∧ ∀ action : StateM (List String) (Except String Nat),
        ({ onError := some ⟨fun _ => pure (), true⟩ } :
          Handling (StateM (List String)) String Nat).execute action = Except.map some <$> action
  := by
  obtain ⟨heq, hcourse, -⟩ := execute_handled noting (pure (.error "known"))
  refine ⟨?_, ⟨noting.script.history knownError (), rfl, ?_⟩, ?_⟩
  · rw [heq]
    rfl
  · exact hcourse _ _ (course_history knownError noting.script ())
  · intro action
    obtain ⟨-, -, hidle, -⟩ := execute_handled
      { onError := some ⟨fun _ => pure (), true⟩ } action
    apply hidle
    refine ⟨⟨?_, ?_⟩, ?_, ?_, ?_, ?_, ?_⟩ <;> simp

end Handling

end AmqpBus

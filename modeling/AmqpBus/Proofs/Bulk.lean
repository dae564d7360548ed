import AmqpBus.Proofs.Course
import AmqpBus.Proofs.Retry.Outcome
import AmqpBus.Subscription.Bulk

/-!
# Bulks

A bulk makes the subscriptions of its chain one after the other, up to the first that fails.
Each of them is the subscription that a caller would make alone, with the options that the
chain as a whole says.  So it does not matter where among the subscriptions it says them.
-/

namespace AmqpBus

open Interaction

variable {D H T α β : Type}

/-! ### Operations and their tokens -/

/-- A request of an operation that is cancelled by a token, if there is one. -/
structure Asked (T D H : Type) where
  token : Option T
  request : Request D H

/-- The reply is the one to the request. -/
def Asked.Reply (asked : Asked T D H) : Type := asked.request.Reply

/-- An operation together with its token. -/
abbrev Tokened (T D H α : Type) : Type := Interaction (Asked T D H) Asked.Reply α

namespace Interaction

/-- An operation that is cancelled by a token. -/
def under (token : Option T) : Operation D H α → Tokened T D H α
  | .done value => .done value
  | .ask request next => .ask ⟨token, request⟩ fun reply => (next reply).under token

theorem under_bind (token : Option T) (operation : Operation D H α)
    (next : α → Operation D H β) :
  (operation >>= next).under token
    = operation.under token >>= fun value => (next value).under token
  := by
  induction operation with
  | done value => rfl
  | ask request more ih =>
      apply congrArg (Interaction.ask (Q := Asked T D H) ⟨token, request⟩)
      funext reply
      apply ih

theorem under_inOrder {ε : Type} (token : Option T)
    (operations : List (Operation D H (Except ε Unit))) :
  (inOrder operations).under token = inOrder (operations.map (·.under token))
  := by
  induction operations with
  | nil => rfl
  | cons operation operations ih =>
      rw [inOrder, under_bind, List.map_cons, inOrder]
      apply congrArg (operation.under token >>= ·)
      funext outcome
      cases outcome with
      | error error => rfl
      | ok done => apply ih

end Interaction

/-- A subscription that a caller makes alone: the token of its options cancels it. -/
def Naming.subscribing (naming : Naming) (subject : Subject D H T α) (override : Override)
    (options : SubscriptionOptions T α) : Tokened T D H (Except BusError Unit) :=
  (naming.subscribe subject override options).under options.token

namespace Bulk

/-! ### Chains of calls -/

namespace Call

/-- Whether a call adds a subscription. -/
def subscribes : Call D H T → Bool
  | .subscribe _ => true
  | .subscribeFrom _ _ => true
  | .subscribeWith _ _ => true
  | .rethrow => false
  | .cancelledBy _ => false

/-- Whether a call passes errors on. -/
def rethrows : Call D H T → Bool
  | .rethrow => true
  | _ => false

/-- The token that a call gives. -/
def token? : Call D H T → Option T
  | .cancelledBy token => some token
  | _ => none

/-- The subscription that a call adds, as a caller would make it alone. -/
def single? (naming : Naming) (rethrow : Bool) (token : Option T) :
    Call D H T → Option (Tokened T D H (Except BusError Unit))
  | .subscribe subject =>
    some (naming.subscribing subject {} { failures := { rethrow }, token })
  | .subscribeFrom subject override =>
    some (naming.subscribing subject override { failures := { rethrow }, token })
  | .subscribeWith subject toReject =>
    some (naming.subscribing subject {}
      { failures := { toReject := some toReject, rethrow }, token })
  | .rethrow => none
  | .cancelledBy _ => none

/-- The item that a call adds to a bulk. -/
def item? : Call D H T → Option (Naming → Shared T → Operation D H (Except BusError Unit))
  | .subscribe subject => some fun naming shared => naming.subscribe subject {} shared.options
  | .subscribeFrom subject override =>
    some fun naming shared => naming.subscribe subject override shared.options
  | .subscribeWith subject toReject =>
    some fun naming shared => naming.subscribe subject {} (shared.options.onError toReject)
  | .rethrow => none
  | .cancelledBy _ => none

theorem map_item? (naming : Naming) (rethrow : Bool) (token : Option T) (call : Call D H T) :
  (call.item?.map fun item => (item naming { rethrow, token }).under token)
    = call.single? naming rethrow token
  := by
  cases call <;> rfl

end Call

/-- Whether errors are passed on by a chain of calls: one of them says so. -/
def rethrowOf (calls : List (Call D H T)) : Bool := calls.any Call.rethrows

/-- The token of a chain of calls: the last that is given. -/
def tokenOf (calls : List (Call D H T)) : Option T := (calls.filterMap Call.token?).getLast?

/-- What one call adds to a bulk. -/
theorem call_eq (bulk : Bulk D H T) (call : Call D H T) :
  bulk.call call
    = { items := bulk.items ++ call.item?.toList
        shared :=
          { rethrow := bulk.shared.rethrow || call.rethrows
            token := call.token?.or bulk.shared.token } }
  := by
  obtain ⟨items, rethrow, token⟩ := bulk
  cases call <;> simp [Bulk.call, subscribe, subscribeFrom, subscribeWith, add, rethrowing,
    cancelledBy, Call.item?, Call.rethrows, Call.token?]

theorem tokenOf_cons (call : Call D H T) (calls : List (Call D H T)) :
  tokenOf (call :: calls) = (tokenOf calls).or call.token?
  := by
  rw [tokenOf, tokenOf]
  cases call <;> simp [Call.token?, List.getLast?_cons]

/-- What a chain of calls adds to a bulk.  By induction on the calls. -/
theorem foldl_call (bulk : Bulk D H T) (calls : List (Call D H T)) :
  calls.foldl call bulk
    = { items := bulk.items ++ calls.filterMap Call.item?
        shared :=
          { rethrow := bulk.shared.rethrow || rethrowOf calls
            token := (tokenOf calls).or bulk.shared.token } }
  := by
  induction calls generalizing bulk with
  | nil =>
      rw [List.filterMap_nil, List.append_nil, rethrowOf, List.any_nil, Bool.or_false]
      rfl
  | cons call calls ih =>
      rw [List.foldl_cons, ih, call_eq, tokenOf_cons, rethrowOf, rethrowOf, List.any_cons,
        Bool.or_assoc, Option.or_assoc, List.append_assoc]
      cases call <;> rfl

/-- A chain of calls makes a bulk of its subscriptions in order, and of what it says about all
of them. -/
theorem ofCalls_eq (calls : List (Call D H T)) :
  ofCalls calls
    = { items := calls.filterMap Call.item?
        shared := { rethrow := rethrowOf calls, token := tokenOf calls } }
  := by
  rw [ofCalls, foldl_call, List.nil_append, Bool.false_or, Option.or_none]

/-- Where a chain of calls says what holds for all its subscriptions does not matter. -/
theorem ofCalls_congr {calls calls' : List (Call D H T)}
    (hitems : calls'.filter Call.subscribes = calls.filter Call.subscribes)
    (hrethrow : rethrowOf calls' = rethrowOf calls)
    (htokens : calls'.filterMap Call.token? = calls.filterMap Call.token?) :
  ofCalls calls' = ofCalls calls
  := by
  have hfilter (calls : List (Call D H T)) :
      (calls.filter Call.subscribes).filterMap Call.item? = calls.filterMap Call.item? := by
    rw [List.filterMap_filter]
    apply List.filterMap_congr
    intro call _
    cases call <;> rfl
  rw [ofCalls_eq, ofCalls_eq, tokenOf, htokens, hrethrow, ← hfilter calls', hitems, hfilter]
  rfl

/-- The subscriptions of a chain are those that a caller would make alone. -/
theorem map_under_items (naming : Naming) (rethrow : Bool) (token : Option T)
    (calls : List (Call D H T)) :
  ((calls.filterMap Call.item?).map fun item => item naming { rethrow, token }).map
      (·.under token)
    = calls.filterMap (·.single? naming rethrow token)
  := by
  rw [List.map_map, List.map_filterMap]
  apply List.filterMap_congr
  intro call _
  apply call.map_item? naming rethrow token

/-- A bulk is its subscriptions made in order. -/
theorem under_subscribeAll (naming : Naming) (calls : List (Call D H T)) :
  ((ofCalls calls).subscribeAll naming).under (tokenOf calls)
    = (do
      match ← inOrder (calls.filterMap (·.single? naming (rethrowOf calls) (tokenOf calls))) with
      | .error error => return .error error
      | .ok () =>
        (Operation.debug "all subscriptions registered").under (tokenOf calls)
        return .ok ())
  := by
  rw [subscribeAll, under_bind, under_inOrder, ofCalls_eq]
  dsimp only
  rw [map_under_items]
  apply congrArg (inOrder _ >>= ·)
  funext outcome
  cases outcome <;> rfl

/-- What is logged when all subscriptions are made. -/
def registered (token : Option T) : Turn (Asked T D H) Asked.Reply :=
  ⟨⟨token, .log ⟨.debug, "all subscriptions registered"⟩⟩, ()⟩

theorem course_registered_iff {token : Option T} {turns : List (Turn (Asked T D H) Asked.Reply)}
    {result : Except BusError Unit} :
  Course (do
      (Operation.debug "all subscriptions registered" : Operation D H Unit).under token
      return .ok ()) turns result
    ↔ result = .ok () ∧ turns = [registered token]
  := by
  constructor
  · intro h
    obtain ⟨_, _, _, hlog, hend, rfl⟩ := course_bind_iff.mp h
    obtain ⟨rfl, rfl⟩ := course_pure_iff.mp hend
    obtain ⟨_, _, rfl, hdone⟩ := course_ask_iff.mp hlog
    obtain ⟨rfl, -⟩ := course_pure_iff.mp hdone
    exact ⟨rfl, rfl⟩
  · rintro ⟨rfl, rfl⟩
    exact .ask .done

/-- A bulk is its subscriptions.  Whatever happens, they are made in the order of the calls,
up to and including the first that fails; each is the one that a caller would make alone, with
errors passed on if any call of the chain says so, and with the last token that any call gives.
The result is the first failure, or success when there is none.  So chains make the same bulk
if they add the same subscriptions in the same order, say alike whether errors are passed on,
and give the same tokens in the same order. -/
theorem bulk_is_its_subscriptions (naming : Naming) (calls : List (Call D H T)) :
  (∀ turns result,
      Course (((ofCalls calls).subscribeAll naming).under (ofCalls calls).shared.token)
          turns result
        ↔ (∃ error, result = .error error
            ∧ UpToFailure (calls.filterMap (·.single? naming (rethrowOf calls) (tokenOf calls)))
              turns (.error error))
          ∨ result = .ok () ∧ ∃ made,
            UpToFailure (calls.filterMap (·.single? naming (rethrowOf calls) (tokenOf calls)))
                made (.ok ())
              ∧ turns = made ++ [registered (tokenOf calls)])
    ∧ ∀ calls' : List (Call D H T),
      calls'.filter Call.subscribes = calls.filter Call.subscribes →
      rethrowOf calls' = rethrowOf calls →
      calls'.filterMap Call.token? = calls.filterMap Call.token? → ofCalls calls' = ofCalls calls
  := by
  refine ⟨?_, fun calls' => ofCalls_congr⟩
  intro turns result
  have htoken : (ofCalls calls).shared.token = tokenOf calls := by rw [ofCalls_eq]
  rw [htoken, under_subscribeAll]
  constructor
  · intro h
    obtain ⟨made, outcome, rest, hmade, hrest, rfl⟩ := course_bind_iff.mp h
    rw [course_inOrder_iff] at hmade
    cases outcome with
    | error error =>
        obtain ⟨rfl, rfl⟩ := course_pure_iff.mp hrest
        left
        use error, rfl
        rw [List.append_nil]
        apply hmade
    | ok done =>
        obtain ⟨rfl, rfl⟩ := course_registered_iff.mp hrest
        right
        use rfl, made, hmade
  · rintro (⟨error, rfl, h⟩ | ⟨rfl, made, h, rfl⟩)
    · apply course_bind_iff.mpr
      exact ⟨turns, .error error, [], h.course, .done, (List.append_nil turns).symm⟩
    · apply course_bind_iff.mpr
      exact ⟨made, .ok (), _, h.course, course_registered_iff.mpr ⟨rfl, rfl⟩, rfl⟩

/-- A subscription to ticks, for which the transport keeps the token. -/
def tickSubject : Subject (Unit × Context) (Option String) String Unit where
  format := tickFormat
  call := Prod.mk
  keep _ token := token

/-- A call that has a queue of its own for ticks. -/
def spareTicks : Override where
  queue := { name := some "spare" }

/-- Two subscriptions to ticks, with what they share said in between. -/
def scattered : List (Call (Unit × Context) (Option String) String) :=
  [.cancelledBy "night", .subscribe tickSubject, .rethrow, .cancelledBy "day",
    .subscribeFrom tickSubject spareTicks]

/-- The same subscriptions, with what they share said at the end. -/
def gathered : List (Call (Unit × Context) (Option String) String) :=
  [.subscribe tickSubject, .subscribeFrom tickSubject spareTicks, .cancelledBy "night",
    .cancelledBy "day", .rethrow]

/-- All goes well for a request under any token. -/
def obliging (asked : Asked String (Unit × Context) (Option String)) :
    Supply → asked.Reply × Supply :=
  Supply.reply asked.request

/-- Both of the subscriptions are made with what is shared, wherever it is said. -/
theorem bulk_is_its_subscriptions_ticks :
  ofCalls gathered = ofCalls scattered
    ∧ ∃ first second,
      Course (clockNaming.subscribing tickSubject {}
        { failures := { rethrow := true }, token := some "day" }) first (.ok ())
      ∧ Course (clockNaming.subscribing tickSubject spareTicks
        { failures := { rethrow := true }, token := some "day" }) second (.ok ())
      ∧ (((ofCalls gathered).subscribeAll clockNaming).under (some "day")).history obliging
          (.ofOutcomes [])
        = first ++ second ++ [registered (some "day")]
  := by
  obtain ⟨hcourses, hmoved⟩ := bulk_is_its_subscriptions clockNaming scattered
  have hsame : ofCalls gathered = ofCalls scattered := hmoved gathered rfl rfl rfl
  use hsame
  have hcourse : Course (((ofCalls scattered).subscribeAll clockNaming).under (some "day")) _
      (.ok ()) :=
    course_history obliging _ (.ofOutcomes [])
  rw [hsame]
  obtain ⟨_, hne, -⟩ | ⟨-, made, hmade, hturns⟩ := (hcourses _ (.ok ())).mp hcourse
  · contradiction
  · obtain ⟨segments, h, rfl⟩ := hmade.exists_segments
    obtain ⟨first, _, hfirst, hrest, rfl⟩ := List.forall₂_cons_left_iff.mp h
    obtain ⟨second, _, hsecond, hnone, rfl⟩ := List.forall₂_cons_left_iff.mp hrest
    obtain rfl := List.forall₂_nil_left_iff.mp hnone
    use first, second, hfirst, hsecond
    rw [hturns, List.flatten_cons, List.flatten_cons, List.flatten_nil, List.append_nil]
    rfl

end Bulk

end AmqpBus

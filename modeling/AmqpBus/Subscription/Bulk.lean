import AmqpBus.Subscription.Basic

/-!
# Subscribing in bulk

A chain of calls collects subscriptions and says what they share: whether errors are passed
on and the token that cancels them.  The subscriptions are then made one after the other
until one fails.  Each of them waits for what is shared until it is made, so it does not
matter where in the chain that is said.
-/

namespace AmqpBus

open Operation

/-- What the subscriptions of a bulk share.  Tokens `T` are left open. -/
structure Shared (T : Type) where
  rethrow : Bool := false
  token : Option T := none

/-- The options of a subscription that says nothing about itself. -/
def Shared.options {T α : Type} (shared : Shared T) : SubscriptionOptions T α where
  failures := { rethrow := shared.rethrow }
  token := shared.token

/-- Subscriptions to be made on a bus, each given what they all share. -/
structure Bulk (D H T : Type) where
  items : List (Naming → Shared T → Operation D H (Except BusError Unit)) := []
  shared : Shared T := {}

namespace Bulk

variable {D H T α : Type} (bulk : Bulk D H T)

/-- Adds a subscription. -/
def add (item : Naming → Shared T → Operation D H (Except BusError Unit)) : Bulk D H T :=
  { bulk with items := bulk.items ++ [item] }

/-- Adds a subscription to a subject. -/
def subscribe (subject : Subject D H T α) : Bulk D H T :=
  bulk.add fun naming shared => naming.subscribe subject {} shared.options

/-- Adds a subscription with something to say about its topology. -/
def subscribeFrom (subject : Subject D H T α) (override : Override) : Bulk D H T :=
  bulk.add fun naming shared => naming.subscribe subject override shared.options

/-- Adds a subscription with a reject event that stands for a failure. -/
def subscribeWith (subject : Subject D H T α) (toReject : α → HandlerError → RejectEvent) :
    Bulk D H T :=
  bulk.add fun naming shared => naming.subscribe subject {} (shared.options.onError toReject)

/-- Passes the errors of all subscriptions on. -/
def rethrowing : Bulk D H T :=
  { bulk with shared := { bulk.shared with rethrow := true } }

/-- Cancels all subscriptions by a token, the last one that is given. -/
def cancelledBy (token : T) : Bulk D H T :=
  { bulk with shared := { bulk.shared with token := some token } }

/-- The calls that a chain is made of. -/
inductive Call (D H T : Type) : Type 1 where
  | subscribe {α : Type} (subject : Subject D H T α)
  | subscribeFrom {α : Type} (subject : Subject D H T α) (override : Override)
  | subscribeWith {α : Type} (subject : Subject D H T α)
      (toReject : α → HandlerError → RejectEvent)
  | rethrow
  | cancelledBy (token : T)

/-- The bulk after one more call. -/
def call : Call D H T → Bulk D H T
  | .subscribe subject => bulk.subscribe subject
  | .subscribeFrom subject override => bulk.subscribeFrom subject override
  | .subscribeWith subject toReject => bulk.subscribeWith subject toReject
  | .rethrow => bulk.rethrowing
  | .cancelledBy token => bulk.cancelledBy token

/-- The bulk that a chain of calls makes. -/
def ofCalls (calls : List (Call D H T)) : Bulk D H T := calls.foldl call {}

/-- Makes all subscriptions, up to the first that fails.  The operation is cancelled by the
token that they share. -/
def subscribeAll (naming : Naming) : Operation D H (Except BusError Unit) := do
  match ← Interaction.inOrder (bulk.items.map fun item => item naming bulk.shared) with
  | .error error => return .error error
  | .ok () =>
    debug "all subscriptions registered"
    return .ok ()

end Bulk

end AmqpBus

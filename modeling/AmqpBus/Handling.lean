/-!
# Handling outcomes

An action runs with callbacks around it: one for success, one for errors that a matcher
accepts, one for all other errors, and one that runs always and last.  An error callback
either passes the error on or swallows it.
-/

namespace AmqpBus

/-- What is done about an error. -/
structure ErrorRoute (m : Type → Type) (ε : Type) where
  callback : ε → m Unit
  rethrow : Bool

/-- The callbacks around an action. -/
structure Handling (m : Type → Type) (ε α : Type) where
  onSuccess : Option (α → m Unit) := none
  onCustom : Option ((ε → m Bool) × ErrorRoute m ε) := none
  onError : Option (ErrorRoute m ε) := none
  always : Option (m (Except ε Unit)) := none

namespace Handling

variable {m : Type → Type} [Monad m] {ε α : Type}

/-- The route that an error takes, for which the matcher is asked. -/
def route (handling : Handling m ε α) (error : ε) : m (Option (ErrorRoute m ε)) :=
  match handling.onCustom with
  | none => pure handling.onError
  | some (accepts, custom) => do
    if ← accepts error then pure (some custom) else pure handling.onError

/-- What an outcome becomes after its own callback: nothing when its error was
swallowed. -/
def settle (handling : Handling m ε α) : Except ε α → m (Except ε (Option α))
  | .ok value => do
    if let some callback := handling.onSuccess then callback value
    return .ok (some value)
  | .error error => do
    match ← handling.route error with
    | none => return .error error
    | some route =>
      route.callback error
      return if route.rethrow then .error error else .ok none

/-- Runs an action with its callbacks. -/
def execute (handling : Handling m ε α) (action : m (Except ε α)) :
    m (Except ε (Option α)) := do
  let outcome ← handling.settle (← action)
  match handling.always with
  | none => return outcome
  | some callback =>
    match ← callback with
    | .ok () => return outcome
    | .error error => return .error error

end Handling

end AmqpBus

import AmqpBus.Operation
import AmqpBus.Rehearsal.Script

/-!
# A scripted world

Surroundings for operations that are scripted in advance, with a clock that moves only
when told to.  The world keeps a record of all that was asked of it.
-/

namespace AmqpBus.Rehearsal

/-- A call of the dispatcher: what was dispatched, whether the token was cancelled at that
time, and the time. -/
structure Call (D : Type) where
  call : D
  cancelled : Bool
  time : Nat

/-- The state of the scripted surroundings: the clock in milliseconds, the tokens that are
cancelled and those that will be, the scripts, the context that counts as new, the
permits that are taken, the number of dispatches that are going on and the most there
were at once, and the record of what was asked. -/
structure World (D H : Type) where
  dispatching : Script HandlerError
  publishing : Script BrokerError
  subscribing : Script BrokerError
  fresh : Context
  now : Nat := 0
  cancelled : List String := []
  timers : List (Nat × String) := []
  taken : List Nat := []
  busy : Nat := 0
  mostBusy : Nat := 0
  calls : List (Call D) := []
  published : List Outbound := []
  subscribed : List (Route × H) := []
  log : List LogEntry := []

namespace World

variable {D H : Type}

/-- Cancels a token. -/
def cancel (world : World D H) (token : String) : World D H :=
  { world with cancelled := token :: world.cancelled }

/-- Whether a token is cancelled.  An operation without a token is never cancelled. -/
def isCancelled (world : World D H) (token : Option String) : Bool :=
  token.any world.cancelled.contains

/-- The longest delay, thirty years. -/
def longestDelay : Nat := 30 * 365 * 86400 * 1000

/-- The time after a delay, which is cut to the longest one. -/
def after (world : World D H) (delay : Nat) : Nat := world.now + min delay longestDelay

/-- Cancels what a cue cancels, or plans it. -/
def play {ε : Type} (world : World D H) (cue : Cue ε) : World D H :=
  let world := cue.cancels.elim world world.cancel
  match cue.cancelsLater with
  | none => world
  | some (token, delay) => { world with timers := world.timers ++ [(world.after delay, token)] }

/-- Records the beginning of a dispatch. -/
def beginDispatch (world : World D H) (token : Option String) (call : D) : World D H :=
  { world with
    calls := world.calls ++ [⟨call, world.isCancelled token, world.now⟩]
    busy := world.busy + 1
    mostBusy := max world.mostBusy (world.busy + 1) }

/-- Records the end of a dispatch. -/
def endDispatch (world : World D H) : World D H := { world with busy := world.busy - 1 }

/-- Cancels the tokens whose time has come. -/
def fire (world : World D H) : World D H :=
  let (due, later) := world.timers.partition fun timer => timer.1 ≤ world.now
  { world with timers := later, cancelled := due.map (·.2) ++ world.cancelled }

end World

end AmqpBus.Rehearsal

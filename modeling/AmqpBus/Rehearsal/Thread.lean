import AmqpBus.Rehearsal.World

/-!
# Threads

Operations run as threads in a scripted world.  A thread goes on until it has to wait,
for a permit or for the clock.  Threads are looked after in order until none can go on;
only then are tokens cancelled whose time has come, and only when there are none the
clock moves to the next time that something waits for.
-/

namespace AmqpBus.Rehearsal

/-- Where a thread stands: it can go on, it waits for a permit, it waits until some time,
or it has ended.  One that waits until some time may go on otherwise when its token is
cancelled, and it may be in a dispatch meanwhile. -/
inductive Status (D H α : Type) where
  | running (program : Operation D H α)
  | waiting (next : Bool → Operation D H α)
  | holding (time : Nat) (next : Operation D H α) (ifCancelled : Option (Operation D H α))
      (inDispatch : Bool)
  | ended (value : α)

/-- An operation with the token that cancels it and the gate whose permit it asks for. -/
structure Thread (D H α : Type) where
  token : Option String
  gate : Nat := 0
  status : Status D H α

variable {D H α : Type}

/-- Goes on with a program until it has to wait. -/
def advance (token : Option String) (gate : Nat) :
    Operation D H α → World D H → Status D H α × World D H
  | .done value, world => (.ended value, world)
  | .ask .isCancelled next, world => advance token gate (next (world.isCancelled token)) world
  | .ask .acquire next, world =>
    if world.isCancelled token then advance token gate (next false) world
    else if world.taken.contains gate then (.waiting next, world)
    else advance token gate (next true) { world with taken := gate :: world.taken }
  | .ask .release next, world =>
    advance token gate (next ()) { world with taken := world.taken.erase gate }
  | .ask .newContext next, world => advance token gate (next world.fresh) world
  | .ask (.dispatch call) next, world =>
    let cue := world.dispatching.cue world.calls.length
    let world := (world.beginDispatch token call).play cue
    if cue.hold = 0 then advance token gate (next cue.result) world.endDispatch
    else (.holding (world.after cue.hold) (next cue.result) none true, world)
  | .ask (.pause delay) next, world =>
    if world.isCancelled token then advance token gate (next false) world
    else if delay = 0 then advance token gate (next true) world
    else (.holding (world.after delay.ceilMillis) (next true) (some (next false)) false, world)
  | .ask (.publish message) next, world =>
    let cue := world.publishing.cue world.published.length
    let world := ({ world with published := world.published ++ [message] }).play cue
    if cue.hold = 0 then advance token gate (next (some cue.result)) world
    else if world.isCancelled token then advance token gate (next none) world
    else (.holding (world.after cue.hold) (next (some cue.result)) (some (next none)) false, world)
  | .ask (.subscribe route handler) next, world =>
    let cue := world.subscribing.cue world.subscribed.length
    let world := ({ world with subscribed := world.subscribed ++ [(route, handler)] }).play cue
    if cue.hold = 0 then advance token gate (next cue.result) world
    else (.holding (world.after cue.hold) (next cue.result) none false, world)
  | .ask (.log entry) next, world =>
    advance token gate (next ()) { world with log := world.log ++ [entry] }

namespace Thread

/-- Lets a thread go on, if it can. -/
def poll (thread : Thread D H α) (world : World D H) : Option (Thread D H α × World D H) :=
  let go (program : Operation D H α) (world : World D H) : Thread D H α × World D H :=
    let (status, world) := advance thread.token thread.gate program world
    ({ thread with status }, world)
  match thread.status with
  | .ended _ => none
  | .running program => some (go program world)
  | .waiting next =>
    if world.isCancelled thread.token then some (go (next false) world)
    else if world.taken.contains thread.gate then none
    else some (go (next true) { world with taken := thread.gate :: world.taken })
  | .holding time next ifCancelled inDispatch =>
    if time ≤ world.now then some (go next (if inDispatch then world.endDispatch else world))
    else if world.isCancelled thread.token then ifCancelled.map fun program => go program world
    else none

/-- The time that a thread waits for. -/
def wakeTime? (thread : Thread D H α) : Option Nat :=
  match thread.status with
  | .holding time _ _ _ => some time
  | _ => none

/-- The value of a thread that has ended. -/
def value? (thread : Thread D H α) : Option α :=
  match thread.status with
  | .ended value => some value
  | _ => none

end Thread

/-- Lets each thread go on once, in order, and tells whether any did. -/
def pass : List (Thread D H α) → World D H → Bool × List (Thread D H α) × World D H
  | [], world => (false, [], world)
  | thread :: threads, world =>
    let (moved, thread, world) := match thread.poll world with
      | some (thread, world) => (true, thread, world)
      | none => (false, thread, world)
    let (others, threads, world) := pass threads world
    (moved || others, thread :: threads, world)

/-- Runs threads in at most `fuel` passes until all have ended, or none can go on any
more. -/
def run : Nat → List (Thread D H α) → World D H → List (Thread D H α) × World D H
  | 0, threads, world => (threads, world)
  | fuel + 1, threads, world =>
    let (moved, threads, world) := pass threads world
    if moved then run fuel threads world
    else if threads.all (·.value?.isSome) then (threads, world)
    else if world.timers.any (·.1 ≤ world.now) then run fuel threads world.fire
    else
      match (threads.filterMap Thread.wakeTime? ++ world.timers.map (·.1)).min? with
      | some time => run fuel threads { world with now := time }
      | none => (threads, world)

/-- The number of passes that a rehearsal is given. -/
def patience : Nat := 1000000

/-- Runs threads side by side; each that ends gives its value. -/
def runAll (threads : List (Thread D H α)) (world : World D H) : List (Option α) × World D H :=
  let (threads, world) := run patience threads world
  (threads.map Thread.value?, world)

/-- Runs one operation under a token. -/
def World.operate (world : World D H) (token : Option String) (program : Operation D H α) :
    Option α × World D H :=
  let (values, world) := runAll [{ token, status := .running program }] world
  (values.head?.join, world)

end AmqpBus.Rehearsal

/-!
# Scripts

A script says how a part of the surroundings replies: its first calls take its cues in
order, and all later ones the standard cue.  A cue may cancel tokens, at once or later,
and take its time before it gives its result.
-/

namespace AmqpBus.Rehearsal

/-- What one call does: it cancels a token, has another one cancelled some milliseconds
later, waits, and succeeds or fails with an `ε`. -/
structure Cue (ε : Type) where
  cancels : Option String := none
  cancelsLater : Option (String × Nat) := none
  hold : Nat := 0
  result : Except ε Unit := .ok ()

/-- What the calls of a part of the surroundings do. -/
structure Script (ε : Type) where
  cues : List (Cue ε) := []
  standard : Cue ε := {}

/-- The cue of the call after `calls` others. -/
def Script.cue {ε : Type} (script : Script ε) (calls : Nat) : Cue ε :=
  script.cues[calls]?.getD script.standard

end AmqpBus.Rehearsal

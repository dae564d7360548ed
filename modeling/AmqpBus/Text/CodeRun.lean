/-!
# Runs of code points

A property of characters is held as a list of runs.  The run from `first` to `last` in
steps of `step` covers `first`, `first + step` and so on up to `last`, which is how
scripts that alternate the two letter cases stay short.
-/

namespace AmqpBus.Text

/-- Every `step`-th code point from `first` to `last`. -/
structure CodeRun where
  first : Nat
  last : Nat
  step : Nat

namespace CodeRun

/-- Whether a run covers a code point. -/
def contains (run : CodeRun) (code : Nat) : Bool :=
  run.first ≤ code && code ≤ run.last && (code - run.first) % run.step == 0

/-- Whether some run covers a character. -/
def covers (runs : List CodeRun) (c : Char) : Bool :=
  runs.any fun run => run.contains c.val.toNat

end CodeRun

end AmqpBus.Text

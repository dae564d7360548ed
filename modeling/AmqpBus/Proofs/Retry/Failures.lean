import AmqpBus.Error
import Mathlib.Data.ENat.Lattice
import Mathlib.Data.Stream.Init

/-!
# Leading failures

How many outcomes of a sequence are failures before the first one that is not, which may
be all of them.  As far as a budget reaches the number can be counted.
-/

namespace AmqpBus

/-- Whether an outcome is a failure after which another attempt may succeed. -/
def isFailure : Except HandlerError Unit → Bool
  | .ok () => false
  | .error error => error.isRecoverable

theorem exists_cause_of_isFailure {outcome : Except HandlerError Unit} (h : isFailure outcome) :
  ∃ cause, outcome = .error (.failed cause)
  := by
  cases outcome with
  | ok done => contradiction
  | error error =>
      cases error with
      | domain text => contradiction
      | rejected reason => contradiction
      | failed cause => use cause

/-- The number of failures before the first other outcome. -/
noncomputable def leadingFailures (outcomes : Stream' (Except HandlerError Unit)) : ℕ∞ :=
  ⨅ n : { n : ℕ // isFailure (outcomes.get n) = false }, (n.val : ℕ∞)

/-- The number of failures before the first other outcome, counted up to a budget. -/
def failuresWithin : ℕ → Stream' (Except HandlerError Unit) → ℕ
  | 0, _ => 0
  | budget + 1, outcomes =>
    if isFailure outcomes.head then failuresWithin budget outcomes.tail + 1 else 0

theorem le_leadingFailures_iff {n : ℕ} {outcomes : Stream' (Except HandlerError Unit)} :
  (n : ℕ∞) ≤ leadingFailures outcomes ↔ ∀ m < n, isFailure (outcomes.get m)
  := by
  rw [leadingFailures, le_iInf_iff]
  constructor
  · intro h m hm
    by_contra hfailure
    have hle : n ≤ m := Nat.cast_le.mp (h ⟨m, by simpa using hfailure⟩)
    omega
  · rintro h ⟨m, hm⟩
    apply Nat.cast_le.mpr
    by_contra hlt
    rw [not_le] at hlt
    have hfailure := h m hlt
    rw [hm] at hfailure
    contradiction

theorem failuresWithin_le (budget : ℕ) (outcomes : Stream' (Except HandlerError Unit)) :
  failuresWithin budget outcomes ≤ budget
  := by
  induction budget generalizing outcomes with
  | zero => rfl
  | succ budget ih =>
      rw [failuresWithin]
      split
      · have hle := ih outcomes.tail
        omega
      · omega

theorem isFailure_of_lt_failuresWithin {budget n : ℕ}
    {outcomes : Stream' (Except HandlerError Unit)} (h : n < failuresWithin budget outcomes) :
  isFailure (outcomes.get n)
  := by
  induction budget generalizing outcomes n with
  | zero => contradiction
  | succ budget ih =>
      rw [failuresWithin] at h
      split at h
      · cases n with
        | zero => assumption
        | succ n =>
            have hlt : n < failuresWithin budget outcomes.tail := by omega
            apply ih hlt
      · contradiction

/-- Counting stops at an outcome that is no failure, unless the budget is used up. -/
theorem isFailure_get_failuresWithin {budget : ℕ}
    {outcomes : Stream' (Except HandlerError Unit)} (h : failuresWithin budget outcomes < budget) :
  isFailure (outcomes.get (failuresWithin budget outcomes)) = false
  := by
  induction budget generalizing outcomes with
  | zero => contradiction
  | succ budget ih =>
      rw [failuresWithin] at h ⊢
      split at h
      · rename_i hfailure
        have hlt : failuresWithin budget outcomes.tail < budget := by omega
        rw [if_pos hfailure]
        apply ih hlt
      · rename_i hfailure
        rw [if_neg hfailure]
        simpa using hfailure

theorem failuresWithin_eq_min (budget : ℕ) (outcomes : Stream' (Except HandlerError Unit)) :
  (failuresWithin budget outcomes : ℕ∞) = min (leadingFailures outcomes) budget
  := by
  apply le_antisymm
  · apply le_min
    · apply le_leadingFailures_iff.mpr
      intro m
      apply isFailure_of_lt_failuresWithin
    · rw [Nat.cast_le]
      apply failuresWithin_le
  · apply ENat.forall_natCast_le_iff_le.mp
    intro n hn
    obtain ⟨hfailures, hbudget⟩ := le_min_iff.mp hn
    rw [Nat.cast_le] at hbudget ⊢
    by_contra hlt
    have hstopped : failuresWithin budget outcomes < budget := by omega
    have hnone := isFailure_get_failuresWithin hstopped
    rw [le_leadingFailures_iff.mp hfailures _ (by omega)] at hnone
    contradiction

end AmqpBus

import AmqpBus.Text.Digits
import Mathlib.Algebra.Group.Nat.Defs
import Mathlib.Tactic.Common

/-!
# Numerals read back

A decimal numeral is read as the number that it was written for, whatever zeros stand in
front of it, and a hexadecimal digit as its value.
-/

namespace AmqpBus.Text

/-! ### Decimal numerals -/

theorem mapM_digit? {cs : List Char} (h : ∀ c ∈ cs, c.isDigit) :
  cs.mapM digit? = some (cs.map fun c => c.toNat - '0'.toNat)
  := by
  induction cs with
  | nil => rfl
  | cons c cs ih =>
      obtain ⟨hc, hcs⟩ := List.forall_mem_cons.mp h
      rw [List.mapM_cons, ih hcs, digit?, if_pos hc]
      rfl

theorem ofDigits_map (cs : List Char) :
  ofDigits 10 (cs.map fun c => c.toNat - '0'.toNat) = Nat.ofDigitChars 10 cs 0
  := by
  rw [ofDigits, List.foldl_map, Nat.ofDigitChars_eq_foldl]
  simp only [Nat.mul_comm]

theorem decimal?_of_isDigit {cs : List Char} (hne : cs ≠ []) (h : ∀ c ∈ cs, c.isDigit) :
  decimal? cs = some (Nat.ofDigitChars 10 cs 0)
  := by
  rw [decimal?, if_neg (by simpa using hne), mapM_digit? h, Option.map_some, ofDigits_map]

theorem isDigit_of_mem_padded {width n : ℕ} {c : Char} (h : c ∈ padded width n) :
  c.isDigit
  := by
  obtain hzero | hdigit := List.mem_append.mp h
  · rw [List.eq_of_mem_replicate hzero]
    rfl
  · apply Nat.isDigit_of_mem_toDigits (by omega) (by omega) hdigit

theorem padded_ne_nil (width n : ℕ) :
  padded width n ≠ []
  := by
  intro h
  apply Nat.toDigits_ne_nil (List.append_eq_nil_iff.mp h).2

/-- A number that is written with zeros in front is read back. -/
theorem decimal?_padded (width n : ℕ) :
  decimal? (padded width n) = some n
  := by
  rw [decimal?_of_isDigit (padded_ne_nil width n) fun _ => isDigit_of_mem_padded, padded,
    Nat.ofDigitChars_append, Nat.ofDigitChars_replicate_zero, Nat.mul_zero,
    Nat.ofDigitChars_ten_toDigits]

/-- A number that fits a width is written in as many digits. -/
theorem length_padded {width n : ℕ} (hwidth : 0 < width) (h : n < 10 ^ width) :
  (padded width n).length = width
  := by
  have hle := (Nat.length_toDigits_le_iff (by omega) hwidth).mpr h
  rw [padded, List.length_append, List.length_replicate]
  omega

/-! ### Hexadecimal digits -/

theorem hexDigit?_hexDigit (d : Fin 16) :
  hexDigit? (hexDigit d) = some d.val
  := by
  revert d
  decide

end AmqpBus.Text

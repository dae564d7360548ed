import AmqpBus.Proofs.Text.Digits
import AmqpBus.Proofs.Text.Lowering
import Mathlib.Data.List.Basic
import Mathlib.Data.List.Induction

/-!
# Numerals written back

An integer that was read from a numeral is written as the same numeral exactly when the numeral
has no plus sign, no zero in front of other digits and no sign before a zero.
-/

namespace AmqpBus.Text

/-- A numeral without a sign and without a zero that could be left out. -/
def IsTerse : List Char → Prop
  | '-' :: digits => digits.head? ≠ some '0'
  | '+' :: _ => False
  | digits => digits.head? = some '0' → digits = ['0']

variable {cs : List Char}

/-! ### Digits -/

theorem isDigit_of_mapM_digit? {digits : List ℕ} (h : cs.mapM digit? = some digits) :
  ∀ c ∈ cs, c.isDigit
  := by
  induction cs generalizing digits with
  | nil => simp
  | cons c cs ih =>
      rw [List.mapM_cons, Option.bind_eq_bind, Option.bind_eq_some_iff] at h
      obtain ⟨digit, hdigit, h⟩ := h
      obtain ⟨rest, hrest, -⟩ := Option.bind_eq_some_iff.mp h
      apply List.forall_mem_cons.mpr ⟨_, ih hrest⟩
      rw [digit?] at hdigit
      split at hdigit
      · assumption
      · contradiction

theorem decimal?_eq_some_iff {n : ℕ} :
  decimal? cs = some n ↔ cs ≠ [] ∧ (∀ c ∈ cs, c.isDigit) ∧ n = Nat.ofDigitChars 10 cs 0
  := by
  constructor
  · intro h
    have hne : cs ≠ [] := by
      rintro rfl
      contradiction
    rw [decimal?, if_neg (by simpa using hne), Option.map_eq_some_iff] at h
    obtain ⟨digits, hdigits, rfl⟩ := h
    have hall := isDigit_of_mapM_digit? hdigits
    rw [mapM_digit? hall] at hdigits
    obtain rfl := Option.some.inj hdigits
    use hne, hall
    apply ofDigits_map
  · rintro ⟨hne, hall, rfl⟩
    apply decimal?_of_isDigit hne hall

/-- Only zero is written with a zero in front. -/
theorem eq_zero_of_head?_toDigits {n : ℕ} (h : (Nat.toDigits 10 n).head? = some '0') :
  n = 0
  := by
  induction n using Nat.base_induction 10 (by omega) with
  | single n hn =>
      rw [Nat.toDigits_of_lt_base hn, List.head?_cons, Option.some_inj] at h
      apply Nat.digitChar_eq_zero.mp h
  | digit n d hd hn ih =>
      rw [← Nat.toDigits_append_toDigits (by omega) hn hd,
        List.head?_append_of_ne_nil _ Nat.toDigits_ne_nil] at h
      have hzero := ih h
      omega

theorem digitChar_of_isDigit {c : Char} (h : c.isDigit) :
  c.toNat - '0'.toNat < 10 ∧ (c.toNat - '0'.toNat).digitChar = c
  := by
  have hdigits : ∀ n < 0x3A, 0x30 ≤ n → n - 0x30 < 10 ∧ (n - 0x30).digitChar = Char.ofNat n := by
    decide
  obtain ⟨hfirst, hlast⟩ := Char.isDigit_iff_toNat.mp h
  have hc := hdigits c.toNat (Nat.lt_succ_of_le hlast) hfirst
  rwa [Char.ofNat_toNat] at hc

/-- Digits without a zero in front of others are written for the number they are read as. -/
theorem toDigits_ofDigitChars (hne : cs ≠ []) (h : ∀ c ∈ cs, c.isDigit)
    (hterse : cs.head? = some '0' → cs = ['0']) :
  Nat.toDigits 10 (Nat.ofDigitChars 10 cs 0) = cs
  := by
  induction cs using List.reverseRecOn with
  | nil => contradiction
  | append_singleton init c ih =>
      obtain ⟨hinit, hc⟩ := List.forall_mem_append.mp h
      obtain ⟨hlt, hchar⟩ := digitChar_of_isDigit (hc c (List.mem_singleton_self c))
      rw [Nat.ofDigitChars_append, Nat.ofDigitChars_cons, Nat.ofDigitChars_nil]
      by_cases hempty : init = []
      · rw [hempty, Nat.ofDigitChars_nil, Nat.mul_zero, Nat.zero_add,
          Nat.toDigits_of_lt_base hlt, hchar]
        rfl
      · have hhead : init.head? ≠ some '0' := by
          intro hzero
          have hone := hterse (by rwa [List.head?_append_of_ne_nil _ hempty])
          have hlength := congrArg List.length hone
          have hpos := List.length_pos_iff.mpr hempty
          rw [List.length_append, List.length_singleton, List.length_singleton] at hlength
          omega
        have hback := ih hempty hinit fun hzero => absurd hzero hhead
        have hpos : 0 < Nat.ofDigitChars 10 init 0 := by
          apply Nat.pos_of_ne_zero
          intro hzero
          rw [hzero, Nat.toDigits_zero] at hback
          apply hhead
          rw [← hback, List.head?_cons]
        rw [← Nat.toDigits_append_toDigits (by omega) hpos hlt, hback,
          Nat.toDigits_of_lt_base hlt, hchar]

/-- A number that was read from digits is written with the same digits, unless there was a zero
in front of others. -/
theorem toDigits_ofDigitChars_iff (hne : cs ≠ []) (h : ∀ c ∈ cs, c.isDigit) :
  Nat.toDigits 10 (Nat.ofDigitChars 10 cs 0) = cs ↔ (cs.head? = some '0' → cs = ['0'])
  := by
  constructor
  · intro hback hhead
    rw [← hback] at hhead
    rw [← hback, eq_zero_of_head?_toDigits hhead, Nat.toDigits_zero]
  · apply toDigits_ofDigitChars hne h

/-! ### Integers -/

theorem toList_repr_natCast (n : ℕ) :
  (n : ℤ).repr.toList = Nat.toDigits 10 n
  := by
  rw [Int.repr_eq_if, if_pos (by omega), Int.toNat_natCast, Nat.toList_repr]

theorem toList_repr_neg {n : ℕ} (hn : 0 < n) :
  (-n : ℤ).repr.toList = '-' :: Nat.toDigits 10 n
  := by
  rw [Int.repr_eq_if, if_neg (by omega), Int.neg_neg, Int.toNat_natCast, String.toList_append,
    Nat.toList_repr]
  rfl

/-- A numeral is read by its sign. -/
theorem signedDecimal?_cases {i : ℤ} (h : signedDecimal? cs = some i) :
  (∃ digits n, cs = '-' :: digits ∧ decimal? digits = some n ∧ i = -n)
    ∨ (∃ digits n, cs = '+' :: digits ∧ decimal? digits = some n ∧ i = n)
    ∨ ∃ n, decimal? cs = some n ∧ i = n
  := by
  unfold signedDecimal? at h
  split at h
  · rename_i digits
    obtain ⟨_, hmap, rfl⟩ := Option.map_eq_some_iff.mp h
    obtain ⟨n, hn, ⟨⟩⟩ := Option.bind_eq_some_iff.mp hmap
    apply Or.inl
    use digits, n
  · rename_i digits
    obtain ⟨_, hmap, rfl⟩ := Option.map_eq_some_iff.mp h
    obtain ⟨n, hn, ⟨⟩⟩ := Option.bind_eq_some_iff.mp hmap
    apply Or.inr (Or.inl _)
    use digits, n
  · obtain ⟨_, hmap, rfl⟩ := Option.map_eq_some_iff.mp h
    obtain ⟨n, hn, ⟨⟩⟩ := Option.bind_eq_some_iff.mp hmap
    apply Or.inr (Or.inr _)
    use n

/-- A numeral of digits alone is terse when no zero stands in front of other digits. -/
theorem isTerse_of_isDigit (h : ∀ c ∈ cs, c.isDigit) :
  IsTerse cs ↔ (cs.head? = some '0' → cs = ['0'])
  := by
  unfold IsTerse
  split
  · have hminus := h '-' List.mem_cons_self
    contradiction
  · have hplus := h '+' List.mem_cons_self
    contradiction
  · rfl

/-- A numeral after a minus sign is terse when no zero stands in front. -/
theorem toList_repr_neg_iff {digits : List Char} (hne : digits ≠ []) (h : ∀ c ∈ digits, c.isDigit) :
  (-(Nat.ofDigitChars 10 digits 0 : ℤ)).repr.toList = '-' :: digits ↔ digits.head? ≠ some '0'
  := by
  obtain hzero | hpos := Nat.eq_zero_or_pos (Nat.ofDigitChars 10 digits 0)
  · -- a zero is written without a sign
    have hplain : (-((0 : ℕ) : ℤ)).repr.toList = ['0'] := by decide
    rw [hzero, hplain]
    constructor
    · intro hback
      have hsign := List.head_eq_of_cons_eq hback
      contradiction
    · intro hhead
      have hback := toDigits_ofDigitChars hne h fun hzero => absurd hzero hhead
      rw [hzero, Nat.toDigits_zero] at hback
      rw [← hback] at hhead
      contradiction
  · rw [toList_repr_neg hpos, List.cons_inj_right, toDigits_ofDigitChars_iff hne h]
    constructor
    · intro hterse hhead
      rw [hterse hhead] at hpos
      contradiction
    · intro hhead hzero
      contradiction

/-- An integer that was read from a numeral is written as this numeral exactly when the numeral
is terse. -/
theorem toList_repr_iff {i : ℤ} (h : signedDecimal? cs = some i) :
  i.repr.toList = cs ↔ IsTerse cs
  := by
  obtain ⟨digits, n, rfl, hn, rfl⟩ | ⟨digits, n, rfl, hn, rfl⟩ | ⟨n, hn, rfl⟩ :=
    signedDecimal?_cases h
  · obtain ⟨hne, hall, rfl⟩ := decimal?_eq_some_iff.mp hn
    apply toList_repr_neg_iff hne hall
  · -- nothing is written with a plus sign
    rw [toList_repr_natCast, IsTerse, iff_false]
    intro hback
    have hplus : ('+' : Char) ∈ Nat.toDigits 10 n := by
      rw [hback]
      apply List.mem_cons_self
    have hdigit := Nat.isDigit_of_mem_toDigits (by omega) (by omega) hplus
    contradiction
  · obtain ⟨hne, hall, rfl⟩ := decimal?_eq_some_iff.mp hn
    rw [toList_repr_natCast, toDigits_ofDigitChars_iff hne hall, isTerse_of_isDigit hall]

/-! ### Letter case -/

theorem toLower_of_isDigit {c : Char} (h : c.isDigit) :
  c.val < 0x80 ∧ c.toLower = c
  := by
  have hdigits : ∀ d < 10, d.digitChar.val < 0x80 ∧ d.digitChar.toLower = d.digitChar := by
    decide
  obtain ⟨hlt, hchar⟩ := digitChar_of_isDigit h
  rw [← hchar]
  apply hdigits _ hlt

theorem toLower_of_decimal? {n : ℕ} (h : decimal? cs = some n) :
  ∀ c ∈ cs, c.val < 0x80 ∧ c.toLower = c
  := by
  obtain ⟨-, hall, -⟩ := decimal?_eq_some_iff.mp h
  intro c hc
  apply toLower_of_isDigit (hall c hc)

/-- A numeral is its own lower-case form. -/
theorem lower_of_signedDecimal? {text : String} {i : ℤ}
    (h : signedDecimal? text.toList = some i) :
  lower text = text
  := by
  have hlower : ∀ c ∈ text.toList, c.val < 0x80 ∧ c.toLower = c := by
    obtain ⟨digits, n, heq, hn, -⟩ | ⟨digits, n, heq, hn, -⟩ | ⟨n, hn, -⟩ := signedDecimal?_cases h
    · rw [heq]
      apply List.forall_mem_cons.mpr ⟨by decide, toLower_of_decimal? hn⟩
    · rw [heq]
      apply List.forall_mem_cons.mpr ⟨by decide, toLower_of_decimal? hn⟩
    · apply toLower_of_decimal? hn
  have hsame : text.toList.map Char.toLower = text.toList.map id :=
    List.map_congr_left fun c hc => (hlower c hc).2
  apply String.toList_inj.mp
  rw [toList_lower fun c hc => (hlower c hc).1, hsame, List.map_id]

end AmqpBus.Text

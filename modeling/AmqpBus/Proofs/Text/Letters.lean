import AmqpBus.Text.LetterCase
import AmqpBus.Text.Letters
import Mathlib.Tactic.Common

/-!
# Letters and their cases

What the tables of letters say of each other: a lower-case character is a letter or a number,
the lower-case form of a letter or a number holds no other character of ASCII, and a lower-case
form is its own.
-/

namespace AmqpBus.Text

/-! ### Tables within tables -/

namespace CodeRun

/-- Whether a table covers a run: by one run without gaps, or code point by code point. -/
def within (run : CodeRun) (table : List CodeRun) : Bool :=
  (table.any fun r => r.step.beq 1 && r.first.ble run.first && run.last.ble r.last)
    || (List.range (run.last + 1 - run.first)).all fun i =>
      !run.contains (run.first + i) || table.any (·.contains (run.first + i))

/-- Whether a table covers the runs of another, both in the order of their code points. -/
def cover (table : List CodeRun) : List CodeRun → Bool
  | [] => true
  | run :: runs =>
    let rest := table.dropWhile fun r => Nat.blt r.last run.first
    run.within (rest.take 4) && cover rest runs

/-- Whether a run, moved by a distance, meets no code point of another: the one ends before
the other starts, or they miss each other code point by code point. -/
def misses (run : CodeRun) (distance : Int) (other : CodeRun) : Bool :=
  (run.last + distance).toNat.blt other.first || other.last.blt (run.first + distance).toNat
    || (List.range (run.last + 1 - run.first)).all fun i =>
      !run.contains (run.first + i) || !other.contains (run.first + i + distance).toNat

variable {run other : CodeRun} {table : List CodeRun} {distance : Int} {code : Nat}

theorem le_of_contains (h : run.contains code) :
  run.first ≤ code ∧ code ≤ run.last
  := by
  simp only [contains, Bool.and_eq_true, decide_eq_true_eq] at h
  apply h.1

theorem contains_of_within (h : run.within table) (hcode : run.contains code) :
  table.any (·.contains code)
  := by
  obtain ⟨hfirst, hlast⟩ := le_of_contains hcode
  rw [within, Bool.or_eq_true] at h
  obtain h | h := h
  · obtain ⟨r, hr, h⟩ := List.any_eq_true.mp h
    simp only [Bool.and_eq_true, Nat.beq_eq, Nat.ble_eq] at h
    obtain ⟨⟨hstep, hbefore⟩, hafter⟩ := h
    apply List.any_eq_true.mpr
    use r, hr
    simp only [contains, hstep, Nat.mod_one, Bool.and_eq_true, decide_eq_true_eq]
    refine ⟨⟨?_, ?_⟩, rfl⟩
    · omega
    · omega
  · have hall := List.all_eq_true.mp h (code - run.first) (by rw [List.mem_range]; omega)
    rwa [Nat.add_sub_cancel' hfirst, hcode, Bool.not_true, Bool.false_or] at hall

theorem covers_of_cover {runs : List CodeRun} {c : Char} (h : cover table runs)
    (hc : covers runs c) :
  covers table c
  := by
  induction runs generalizing table with
  | nil => contradiction
  | cons run runs ih =>
      rw [cover, Bool.and_eq_true] at h
      rw [covers, List.any_cons, Bool.or_eq_true] at hc
      -- whatever covers the character stands in what is left of the table
      obtain ⟨r, hr, hcontains⟩ : ∃ r ∈ table.dropWhile fun r => Nat.blt r.last run.first,
          r.contains c.val.toNat := by
        obtain hc | hc := hc
        · obtain ⟨r, hr, hcontains⟩ := List.any_eq_true.mp (contains_of_within h.1 hc)
          use r, List.mem_of_mem_take hr
        · apply List.any_eq_true.mp (ih h.2 hc)
      apply List.any_eq_true.mpr
      use r, (List.dropWhile_sublist _).mem hr

theorem not_contains_of_misses (h : run.misses distance other) (hcode : run.contains code) :
  ¬ other.contains (code + distance).toNat
  := by
  intro hmoved
  obtain ⟨hfirst, hlast⟩ := le_of_contains hcode
  obtain ⟨hfirst', hlast'⟩ := le_of_contains hmoved
  rw [misses, Bool.or_eq_true, Bool.or_eq_true, Nat.blt_eq, Nat.blt_eq] at h
  obtain (h | h) | h := h
  · omega
  · omega
  · have hall := List.all_eq_true.mp h (code - run.first) (by rw [List.mem_range]; omega)
    have hcast : (run.first : Int) + ((code - run.first : Nat) : Int) = code := by omega
    rw [Nat.add_sub_cancel' hfirst, hcast, hcode, hmoved] at hall
    contradiction

end CodeRun

theorem cover_lowercaseRuns :
  CodeRun.cover alphanumericRuns lowercaseRuns
  := by
  decide +kernel

/-- A lower-case character is a letter or a number. -/
theorem isAlphanumeric_of_isLowercase {c : Char} (h : isLowercase c) :
  isAlphanumeric c
  := by
  rw [isLowercase] at h
  rw [isAlphanumeric]
  split at h
  · rename_i hascii
    have hcases : c.isAlphanum = (c.isUpper || c.isLower || c.isDigit) := rfl
    rw [if_pos hascii, hcases, h, Bool.or_true, Bool.true_or]
  · rename_i hascii
    rw [if_neg hascii]
    apply CodeRun.covers_of_cover cover_lowercaseRuns h

/-! ### Lower-case forms -/

/-- What holds of all code points of ASCII holds of the characters. -/
theorem forall_ascii {P : Char → Prop} (h : ∀ n < 0x80, P (Char.ofNat n)) {c : Char}
    (hc : c.val < 0x80) :
  P c
  := by
  have hcode := h c.toNat (UInt32.lt_iff_toNat_lt.mp hc)
  rwa [Char.ofNat_toNat] at hcode

theorem lt_of_isAlphanum {c : Char} (h : c.isAlphanum) :
  c.val < 0x80
  := by
  have hcases : (c.isUpper || c.isLower || c.isDigit) = true := h
  rw [Bool.or_eq_true, Bool.or_eq_true] at hcases
  obtain (hupper | hlower) | hdigit := hcases
  · have hbounds : c.val ≥ 'A'.val ∧ c.val ≤ 'Z'.val := of_decide_eq_true hupper
    apply UInt32.lt_of_le_of_lt hbounds.2
    decide
  · apply UInt32.lt_of_le_of_lt (of_decide_eq_true (Bool.and_eq_true_iff.mp hlower).2)
    decide
  · apply UInt32.lt_of_le_of_lt (of_decide_eq_true (Bool.and_eq_true_iff.mp hdigit).2)
    decide

theorem isAlphanum_toLower {c : Char} (h : c.val < 0x80) :
  c.isAlphanum → c.toLower.isAlphanum
  := forall_ascii (P := fun c => c.isAlphanum → c.toLower.isAlphanum) (by decide) h

/-- Lowering stays within Unicode, and comes to ASCII only at a letter in lower case. -/
theorem lowering_of_mem_loweringRuns :
  ∀ run ∈ loweringRuns,
    ((0 : Int) ≤ run.1.first + run.2 ∧ (run.1.last : Int) + run.2 < 0xD800
      ∨ (0xE000 : Int) ≤ run.1.first + run.2 ∧ (run.1.last : Int) + run.2 < 0x110000)
    ∧ ((0x80 : Int) ≤ run.1.first + run.2
      ∨ run.1.first = run.1.last ∧ (Char.ofNat (run.1.first + run.2).toNat).isLower)
  := by
  decide +kernel

/-- What a run is lowered to is covered by no run. -/
theorem misses_loweringRuns :
  loweringRuns.all fun run => loweringRuns.all fun other => run.1.misses run.2 other.1
  := by
  decide +kernel

/-- No run is lowered to the capital I with a dot. -/
theorem misses_dotted :
  loweringRuns.all fun run => run.1.misses run.2 ⟨0x130, 0x130, 1⟩
  := by
  decide +kernel

theorem toNat_ofNat_of_isValidChar {n : Nat} (h : n.isValidChar) :
  (Char.ofNat n).toNat = n
  := by
  rw [Char.ofNat, dif_pos h]
  rfl

/-- The ways to a lower-case form: within ASCII, of the capital I with a dot, by a run, and
not at all. -/
theorem lowercase_cases (c : Char) :
  (c.val < 0x80 ∧ lowercase c = [c.toLower])
    ∨ lowercase c = ['i', Char.ofNat 0x307]
    ∨ (∃ run ∈ loweringRuns, run.1.contains c.val.toNat
        ∧ ∃ x : Char, lowercase c = [x] ∧ (x.val.toNat : Int) = c.val.toNat + run.2)
    ∨ (¬ c.val < 0x80 ∧ lowercase c = [c])
  := by
  rw [lowercase]
  split
  · rename_i hascii
    left
    use hascii
  · rename_i hascii
    right
    split
    · left
      rfl
    · right
      split
      · rename_i run hrun
        left
        have hmem := List.mem_of_find?_eq_some hrun
        have hcontains := List.find?_some hrun
        have hbounds := CodeRun.le_of_contains hcontains
        have hrange := (lowering_of_mem_loweringRuns run hmem).1
        have hvalid : (c.val.toNat + run.2).toNat.isValidChar := by
          rw [Nat.isValidChar]
          omega
        have hmoved := toNat_ofNat_of_isValidChar hvalid
        refine ⟨run, hmem, hcontains, _, rfl, ?_⟩
        rw [Char.toNat] at hmoved
        omega
      · right
        use hascii

theorem lowercase_ne_nil (c : Char) :
  lowercase c ≠ []
  := by
  obtain ⟨-, hform⟩ | hform | ⟨run, -, -, x, hform, -⟩ | ⟨-, hform⟩ := lowercase_cases c
  all_goals
    rw [hform]
    apply List.cons_ne_nil

/-- What a run lowers to ASCII is a letter in lower case. -/
theorem isLower_of_moved {run : CodeRun × Int} (hrun : run ∈ loweringRuns) {c x : Char}
    (hcontains : run.1.contains c.val.toNat) (hmoved : (x.val.toNat : Int) = c.val.toNat + run.2)
    (hascii : x.val < 0x80) :
  x.isLower
  := by
  obtain ⟨hfirst, hlast⟩ := CodeRun.le_of_contains hcontains
  have hlow : x.val.toNat < 0x80 := UInt32.lt_iff_toNat_lt.mp hascii
  obtain habove | ⟨hone, hlower⟩ := (lowering_of_mem_loweringRuns run hrun).2
  · omega
  · have honly : (run.1.first + run.2).toNat = x.toNat := by
      rw [Char.toNat]
      omega
    rwa [honly, Char.ofNat_toNat] at hlower

/-- In the lower-case form of a letter or a number all of ASCII is letters and numbers. -/
theorem isAlphanumeric_of_mem_lowercase {c x : Char} (hc : isAlphanumeric c)
    (hx : x ∈ lowercase c) (hascii : x.val < 0x80) :
  isAlphanumeric x
  := by
  rw [isAlphanumeric, if_pos hascii]
  obtain ⟨hc_ascii, hform⟩ | hform | ⟨run, hrun, hcontains, y, hform, hmoved⟩ | ⟨hc_ascii, hform⟩
    := lowercase_cases c
  · rw [hform, List.mem_singleton] at hx
    rw [isAlphanumeric, if_pos hc_ascii] at hc
    rw [hx]
    apply isAlphanum_toLower hc_ascii hc
  · rw [hform] at hx
    obtain rfl | rfl : x = 'i' ∨ x = Char.ofNat 0x307 := by simpa using hx
    · decide
    · contradiction
  · rw [hform, List.mem_singleton] at hx
    subst hx
    have hcases : x.isAlphanum = (x.isUpper || x.isLower || x.isDigit) := rfl
    rw [hcases, isLower_of_moved hrun hcontains hmoved hascii, Bool.or_true, Bool.true_or]
  · rw [hform, List.mem_singleton] at hx
    rw [hx] at hascii
    contradiction

/-- The characters of a lower-case form are in lower case themselves. -/
theorem lowercase_of_mem_lowercase {c x : Char} (hx : x ∈ lowercase c) :
  lowercase x = [x]
  := by
  obtain ⟨hascii, hform⟩ | hform | ⟨run, hrun, hcontains, y, hform, hmoved⟩ | ⟨-, hform⟩
    := lowercase_cases c
  · rw [hform, List.mem_singleton] at hx
    rw [hx]
    exact forall_ascii (P := fun c => lowercase c.toLower = [c.toLower]) (by decide) hascii
  · rw [hform] at hx
    obtain rfl | rfl : x = 'i' ∨ x = Char.ofNat 0x307 := by simpa using hx
    · decide
    · decide +kernel
  · rw [hform, List.mem_singleton] at hx
    subst hx
    by_cases hascii : x.val < 0x80
    · exact forall_ascii (P := fun c => c.isLower → lowercase c = [c]) (by decide) hascii
        (isLower_of_moved hrun hcontains hmoved hascii)
    · -- above ASCII no run covers a code point that a run is moved to
      have hmissed (other : CodeRun) (h : run.1.misses run.2 other) :
          ¬ other.contains x.val.toNat := by
        have hcode := CodeRun.not_contains_of_misses h hcontains
        rwa [← hmoved, Int.toNat_natCast] at hcode
      have hdotted : x.val ≠ 0x130 := by
        intro h
        apply hmissed _ (List.all_eq_true.mp misses_dotted run hrun)
        rw [h]
        decide
      have hnone : loweringRuns.find? (fun run => run.1.contains x.val.toNat) = none := by
        apply List.find?_eq_none.mpr
        intro other hother
        apply hmissed
        apply List.all_eq_true.mp (List.all_eq_true.mp misses_loweringRuns run hrun) other hother
      rw [lowercase, if_neg hascii, if_neg hdotted, hnone]
  · rw [hform, List.mem_singleton] at hx
    rwa [hx]

end AmqpBus.Text

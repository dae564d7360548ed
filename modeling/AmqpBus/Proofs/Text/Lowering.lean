import AmqpBus.Proofs.Text.Letters
import AmqpBus.Text.Lowering

/-!
# Texts in lower case

A text in lower case is its own lower-case form.  A text of ASCII is lowered letter by letter,
and so letters that were made upper case first come out the same.
-/

namespace AmqpBus.Text

/-! ### Lowering twice -/

/-- All that lowering leaves is in lower case, the sigmas included. -/
theorem lowercase_of_mem_lowerAfter {before cs : List Char} {x : Char}
    (h : x ∈ lowerAfter before cs) :
  lowercase x = [x]
  := by
  induction cs generalizing before with
  | nil => contradiction
  | cons c cs ih =>
      rw [lowerAfter] at h
      obtain hx | hx := List.mem_append.mp h
      · split at hx
        · obtain rfl | rfl : x = 'ς' ∨ x = 'σ' := by
            rw [List.mem_singleton] at hx
            split at hx
            · apply Or.inl hx
            · apply Or.inr hx
          · decide +kernel
          · decide +kernel
        · apply lowercase_of_mem_lowercase hx
      · apply ih hx

theorem lowerAfter_of_lowercase {cs : List Char} (before : List Char)
    (h : ∀ c ∈ cs, lowercase c = [c]) :
  lowerAfter before cs = cs
  := by
  induction cs generalizing before with
  | nil => rfl
  | cons c cs ih =>
      obtain ⟨hc, hcs⟩ := List.forall_mem_cons.mp h
      have hsigma : c ≠ 'Σ' := by
        rintro rfl
        have hlowered : lowercase 'Σ' ≠ ['Σ'] := by decide +kernel
        contradiction
      rw [lowerAfter, if_neg hsigma, hc, ih _ hcs]
      rfl

/-- A text in lower case is its own lower-case form. -/
theorem lower_lower (text : String) :
  lower (lower text) = lower text
  := by
  have hsame : lowerAfter [] (lowerAfter [] text.toList) = lowerAfter [] text.toList := by
    apply lowerAfter_of_lowercase
    intro c hc
    apply lowercase_of_mem_lowerAfter hc
  rw [lower, lower, String.toList_ofList, hsame]

/-! ### Lowering ASCII -/

/-- Whether all of a text is ASCII. -/
def IsAscii (text : String) : Prop := ∀ c ∈ text.toList, c.val < 0x80

-- not left to the class, which would go through all characters and not through the text
instance (text : String) : Decidable (IsAscii text) :=
  List.decidableBAll (fun c : Char => c.val < 0x80) text.toList

theorem isAscii_append {t u : String} (ht : IsAscii t) (hu : IsAscii u) :
  IsAscii (t ++ u)
  := by
  intro c hc
  rw [String.toList_append] at hc
  obtain hc | hc := List.mem_append.mp hc
  · apply ht c hc
  · apply hu c hc

theorem lowerAfter_of_ascii {cs : List Char} (before : List Char) (h : ∀ c ∈ cs, c.val < 0x80) :
  lowerAfter before cs = cs.map Char.toLower
  := by
  induction cs generalizing before with
  | nil => rfl
  | cons c cs ih =>
      obtain ⟨hc, hcs⟩ := List.forall_mem_cons.mp h
      have hsigma : c ≠ 'Σ' := by
        rintro rfl
        contradiction
      rw [lowerAfter, if_neg hsigma, lowercase, if_pos hc, ih _ hcs]
      rfl

theorem toList_lower {text : String} (h : IsAscii text) :
  (lower text).toList = text.toList.map Char.toLower
  := by
  rw [lower, String.toList_ofList, lowerAfter_of_ascii [] h]

theorem toLower_toUpper {c : Char} (h : c.val < 0x80) :
  c.toUpper.val < 0x80 ∧ c.toUpper.toLower = c.toLower
  := forall_ascii (P := fun c => c.toUpper.val < 0x80 ∧ c.toUpper.toLower = c.toLower) (by decide) h

/-- Letters that were made upper case are lowered to the same. -/
theorem toList_lower_toUpper {text : String} (h : IsAscii text) :
  (lower text.toUpper).toList = (lower text).toList
  := by
  have hupper : text.toUpper.toList = text.toList.map Char.toUpper := String.toList_map
  have hascii : IsAscii text.toUpper := by
    intro u hu
    rw [hupper] at hu
    obtain ⟨c, hc, rfl⟩ := List.mem_map.mp hu
    apply (toLower_toUpper (h c hc)).1
  rw [toList_lower hascii, toList_lower h, hupper, List.map_map]
  apply List.map_congr_left
  intro c hc
  apply (toLower_toUpper (h c hc)).2

end AmqpBus.Text

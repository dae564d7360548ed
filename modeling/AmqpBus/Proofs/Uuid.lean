import AmqpBus.Proofs.Text.Digits
import AmqpBus.Uuid

/-!
# Identifiers read back

An identifier that is written in five groups is read as itself: the hyphens are where they
are looked for, and what is left without them are its digits.
-/

namespace AmqpBus.Uuid

theorem digit?_hexDigit (d : Fin 16) :
  digit? (Text.hexDigit d) = some d
  := by
  rw [digit?, Text.hexDigit?_hexDigit]
  exact dif_pos d.isLt

theorem ofDigits?_simple (uuid : Uuid) :
  ofDigits? uuid.simple = some uuid
  := by
  have hdigits : uuid.simple.mapM digit? = some uuid.digits := by
    rw [simple, List.mapM_map]
    simp only [Function.comp_def, digit?_hexDigit]
    exact List.mapM_pure.trans (congrArg some (List.map_id _))
  rw [ofDigits?, hdigits]
  exact dif_pos uuid.length_eq

theorem length_simple (uuid : Uuid) :
  uuid.simple.length = 32
  := by
  rw [simple, List.length_map, uuid.length_eq]

/-- What stands before and after a character that is removed. -/
theorem without?_append {c : Char} {before after : List Char} {position : ℕ}
    (h : before.length = position) :
  without? c position (before ++ c :: after) = some (before ++ after)
  := by
  subst h
  rw [without?, if_pos (by simp), List.eraseIdx_append_of_length_le (Nat.le_refl _)]
  simp

/-- Groups of the right lengths are put together again. -/
theorem ofHyphenated?_append {g₁ g₂ g₃ g₄ g₅ : List Char} (h₁ : g₁.length = 8)
    (h₂ : g₂.length = 4) (h₃ : g₃.length = 4) (h₄ : g₄.length = 4) :
  ofHyphenated? (g₁ ++ '-' :: g₂ ++ '-' :: g₃ ++ '-' :: g₄ ++ '-' :: g₅)
    = ofDigits? (g₁ ++ (g₂ ++ (g₃ ++ (g₄ ++ g₅))))
  := by
  have hlast : (g₁ ++ '-' :: g₂ ++ '-' :: g₃ ++ '-' :: g₄).length = 23 := by
    simp [h₁, h₂, h₃, h₄]
  have hthird : (g₁ ++ '-' :: g₂ ++ '-' :: g₃).length = 18 := by
    simp [h₁, h₂, h₃]
  have hsecond : (g₁ ++ '-' :: g₂).length = 13 := by
    simp [h₁, h₂]
  simp only [ofHyphenated?, Option.bind_eq_bind]
  rw [without?_append hlast, Option.bind_some, List.append_assoc, List.cons_append,
    without?_append hthird, Option.bind_some, List.append_assoc, List.cons_append,
    without?_append hsecond, Option.bind_some, List.append_assoc, List.cons_append,
    without?_append h₁, Option.bind_some]

/-- An identifier is read back from its text. -/
theorem ofText?_text (uuid : Uuid) :
  ofText? uuid.text = some uuid
  := by
  have hlength := uuid.length_simple
  have hgroup (start : ℕ) : (uuid.simple.drop start).take 4 ++ uuid.simple.drop (start + 4)
      = uuid.simple.drop start := by
    rw [← List.drop_drop]
    apply List.take_append_drop
  have hgroups : uuid.simple.take 8 ++ ((uuid.simple.drop 8).take 4
      ++ ((uuid.simple.drop 12).take 4 ++ ((uuid.simple.drop 16).take 4
        ++ uuid.simple.drop 20))) = uuid.simple := by
    rw [hgroup 16, hgroup 12, hgroup 8]
    apply List.take_append_drop
  have hchars : uuid.chars.length = 36 := by
    simp [chars, hlength]
  rw [ofText?, text, String.toList_ofList, ofChars?, if_neg (by omega), if_pos hchars, chars,
    ofHyphenated?_append, hgroups, ofDigits?_simple] <;> simp [hlength]

end AmqpBus.Uuid

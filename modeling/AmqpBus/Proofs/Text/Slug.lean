import AmqpBus.Proofs.Text.Letters
import AmqpBus.Text.Slug
import Mathlib.Data.List.TakeWhile
import Mathlib.Tactic.Common

/-!
# What slugs are made of

A slug holds underscores and the lower-case forms of letters and numbers, whatever the name
is.  So the dots and hyphens by which names are put together never come from a slug, and a
name that is put together with slugs tells what it was put together from.
-/

namespace AmqpBus.Text

/-! ### The characters of a slug -/

theorem mem_slugAfter {before : Option Char} {begun gap : Bool} {cs : List Char} {x : Char}
    (h : x ∈ slugAfter before begun gap cs) :
  x = '_' ∨ ∃ c ∈ cs, isAlphanumeric c ∧ x ∈ lowercase c
  := by
  induction cs generalizing before begun gap with
  | nil => contradiction
  | cons c cs ih =>
      have hlater : ∀ {before begun gap}, x ∈ slugAfter before begun gap cs →
          x = '_' ∨ ∃ c' ∈ c :: cs, isAlphanumeric c' ∧ x ∈ lowercase c' := by
        intro before begun gap h
        obtain rfl | ⟨c', hmem, hc'⟩ := ih h
        · exact .inl rfl
        · exact .inr ⟨c', List.mem_cons_of_mem _ hmem, hc'⟩
      rw [slugAfter] at h
      split at h
      · rename_i hc
        rw [List.mem_append, List.mem_append] at h
        obtain (h | h) | h := h
        · left
          split at h
          · apply List.mem_singleton.mp h
          · contradiction
        · exact .inr ⟨c, List.mem_cons_self, hc, h⟩
        · apply hlater h
      · apply hlater h

/-- Of ASCII a slug has letters, numbers and underscores. -/
theorem notMem_slug {mark : Char} (hascii : mark.val < 0x80) (hmark : ¬ isAlphanumeric mark)
    (hne : mark ≠ '_') (name : String) :
  mark ∉ (slug name).toList
  := by
  intro h
  rw [slug, String.toList_ofList] at h
  obtain rfl | ⟨c, -, hc, hlower⟩ := mem_slugAfter h
  · contradiction
  · apply hmark (isAlphanumeric_of_mem_lowercase hc hlower hascii)

theorem dot_notMem_slug (name : String) :
  '.' ∉ (slug name).toList
  := notMem_slug (by decide) (by decide) (by decide) name

theorem hyphen_notMem_slug (name : String) :
  '-' ∉ (slug name).toList
  := notMem_slug (by decide) (by decide) (by decide) name

/-! ### Names that are put together -/

/-- What stands before the first mark and what stands from it on are determined by the
whole. -/
theorem append_inj_of_notMem {mark : Char} {s t u v : List Char} (hs : mark ∉ s) (ht : mark ∉ t)
    (hu : ∀ c ∈ u.head?, c = mark) (hv : ∀ c ∈ v.head?, c = mark) (h : s ++ u = t ++ v) :
  s = t ∧ u = v
  := by
  have hfirst : ∀ {s u : List Char}, mark ∉ s → (∀ c ∈ u.head?, c = mark) →
      (s ++ u).takeWhile (· ≠ mark) = s := by
    intro s u hs hu
    rw [List.takeWhile_append_of_pos]
    · cases u with
      | nil => simp
      | cons c u => simp [hu c rfl]
    · intro c hc
      apply decide_eq_true
      apply ne_of_mem_of_not_mem hc hs
  have hst : s = t := by
    rw [← hfirst hs hu, h, hfirst ht hv]
  use hst
  rw [hst] at h
  apply List.append_cancel_left h

/-- What stands before the last dot and what stands after it are determined by the whole. -/
theorem dotted_inj {space space' name name' : String} (hname : '.' ∉ name.toList)
    (hname' : '.' ∉ name'.toList) :
  space ++ "." ++ name = space' ++ "." ++ name' ↔ space = space' ∧ name = name'
  := by
  constructor
  · intro h
    -- read backwards, the last dot is the first mark
    have hreversed : name.toList.reverse ++ '.' :: space.toList.reverse
        = name'.toList.reverse ++ '.' :: space'.toList.reverse := by
      simpa using congrArg (fun text : String => text.toList.reverse) h
    obtain ⟨hlast, hbefore⟩ := append_inj_of_notMem (by simpa using hname) (by simpa using hname')
      (by simp) (by simp) hreversed
    constructor
    · simpa [String.toList_inj] using hbefore
    · simpa [String.toList_inj] using hlast
  · rintro ⟨rfl, rfl⟩
    rfl

end AmqpBus.Text

import AmqpBus.Proofs.Text.Words
import Mathlib.Data.List.Chain

/-!
# Slugs as joined words

A slug is made of the words of its name, in lower case and with an underscore between each two.
The words of such a text are the lower-case words again, unless lowering a character once leaves
something to be lowered, or something that is no letter.  So the slug of a slug is the slug.
-/

namespace AmqpBus.Text

variable {b : Char}

/-- Words in lower case with an underscore between each two. -/
def joined (ws : List (List Char)) : List Char :=
  ['_'].intercalate (ws.map (·.flatMap lowercase))

/-- Words in lower case with an underscore before each. -/
def appended (ws : List (List Char)) : List Char :=
  ws.flatMap fun word => '_' :: word.flatMap lowercase

theorem joined_cons (word : List Char) (ws : List (List Char)) :
  joined (word :: ws) = word.flatMap lowercase ++ appended ws
  := by
  induction ws generalizing word with
  | nil => simp [joined, appended]
  | cons next ws ih =>
      have hnext := ih next
      rw [joined, List.map_cons] at hnext ⊢
      rw [List.map_cons, List.intercalate_cons_cons, hnext, appended, appended]
      simp

theorem appended_of_ne_nil {ws : List (List Char)} (h : ws ≠ []) :
  appended ws = '_' :: joined ws
  := by
  obtain ⟨word, ws, rfl⟩ := List.exists_cons_of_ne_nil h
  rw [joined_cons]
  rfl

theorem joined_modifyHead {ws : List (List Char)} (h : ws ≠ []) :
  joined (ws.modifyHead (b :: ·)) = lowercase b ++ joined ws
  := by
  obtain ⟨word, ws, rfl⟩ := List.exists_cons_of_ne_nil h
  rw [List.modifyHead_cons, joined_cons, joined_cons, List.flatMap_cons, List.append_assoc]

/-- What is written of a text after a letter or a number, after a separator, and before the
first word. -/
theorem slugAfter_eq (cs : List Char) :
  (∀ b, isAlphanumeric b →
      lowercase b ++ slugAfter (some b) true false cs = joined (words (b :: cs)))
    ∧ (∀ before, slugAfter before true true cs = appended (words cs))
    ∧ ∀ before gap, slugAfter before false gap cs = joined (words cs)
  := by
  induction cs with
  | nil =>
      refine ⟨?_, fun _ => rfl, fun _ _ => rfl⟩
      intro b hb
      rw [words_cons_of_end hb rfl, joined_cons, List.flatMap_singleton]
      rfl
  | cons c cs ih =>
      obtain ⟨hwithin, hpast, hfirst⟩ := ih
      by_cases hc : isAlphanumeric c
      · have hne := words_cons_ne_nil cs hc
        refine ⟨?_, ?_, ?_⟩
        · intro b hb
          rw [slugAfter, if_pos hc, words_cons_cons hb hc, ← List.append_assoc, List.append_assoc,
            List.append_assoc, hwithin c hc]
          simp only [Bool.false_or, Bool.true_and]
          split
          · rw [joined_cons, List.flatMap_singleton, appended_of_ne_nil hne]
            rfl
          · rw [joined_modifyHead hne]
            rfl
        · intro before
          rw [slugAfter, if_pos hc, appended_of_ne_nil hne, ← hwithin c hc]
          rfl
        · intro before gap
          rw [slugAfter, if_pos hc, ← hwithin c hc]
          rfl
      · have hwords : words (c :: cs) = words cs := words_cons_of_not hc
        refine ⟨?_, ?_, ?_⟩
        · intro b hb
          have hend : (c :: cs).head?.filter isAlphanumeric = none := by
            simpa [Option.filter] using hc
          rw [slugAfter, if_neg hc, hpast, words_cons_of_end hb hend, hwords, joined_cons,
            List.flatMap_singleton]
        · intro before
          rw [slugAfter, if_neg hc, hpast, hwords]
        · intro before gap
          rw [slugAfter, if_neg hc, hfirst, hwords]

/-- A slug is the words of its name in lower case with an underscore between each two. -/
theorem toList_slug (name : String) :
  (slug name).toList = joined (words name.toList)
  := by
  rw [slug, String.toList_ofList, (slugAfter_eq name.toList).2.2]

/-! ### Underscores in slugs -/

/-- Whether underscores stand one by one between other characters. -/
structure Spaced (text : List Char) : Prop where
  head : text.head? ≠ some '_'
  last : text.getLast? ≠ some '_'
  apart : text.IsChain fun c d => c ≠ '_' ∨ d ≠ '_'

theorem spaced_of_notMem {text : List Char} (h : '_' ∉ text) :
  Spaced text
  := by
  constructor
  · intro hhead
    apply h (List.mem_of_head? hhead)
  · intro hlast
    apply h (List.mem_of_getLast? hlast)
  · apply List.Pairwise.isChain
    apply List.pairwise_of_forall_mem_list
    intro c hc d _
    left
    apply ne_of_mem_of_not_mem hc h

/-- An underscore between two texts that do not begin or end with one. -/
theorem Spaced.join {left right : List Char} (hleft : Spaced left) (hright : Spaced right)
    (hleft_ne : left ≠ []) (hright_ne : right ≠ []) :
  Spaced (left ++ '_' :: right)
  := by
  constructor
  · rw [List.head?_append_of_ne_nil _ hleft_ne]
    apply hleft.head
  · rw [List.getLast?_append_of_ne_nil _ (List.cons_ne_nil _ _),
      List.getLast?_cons_of_ne_nil hright_ne]
    apply hright.last
  · apply List.isChain_append.mpr
    refine ⟨hleft.apart, List.isChain_cons.mpr ⟨?_, hright.apart⟩, ?_⟩
    · intro d hd
      right
      rintro rfl
      apply hright.head hd
    · intro c hc d _
      left
      rintro rfl
      apply hleft.last hc

theorem underscore_notMem_lowercase {word : List Char} (h : ∀ c ∈ word, isAlphanumeric c) :
  '_' ∉ word.flatMap lowercase
  := by
  intro hmem
  obtain ⟨c, hc, hlower⟩ := List.mem_flatMap.mp hmem
  have habsurd := isAlphanumeric_of_mem_lowercase (h c hc) hlower (by decide)
  contradiction

theorem flatMap_lowercase_ne_nil {word : List Char} (h : word ≠ []) :
  word.flatMap lowercase ≠ []
  := by
  obtain ⟨c, word, rfl⟩ := List.exists_cons_of_ne_nil h
  rw [List.flatMap_cons]
  apply List.append_ne_nil_of_left_ne_nil (lowercase_ne_nil c)

theorem joined_ne_nil {ws : List (List Char)} (hws : ws ≠ []) (hne : ∀ word ∈ ws, word ≠ []) :
  joined ws ≠ []
  := by
  obtain ⟨word, ws, rfl⟩ := List.exists_cons_of_ne_nil hws
  rw [joined_cons]
  apply List.append_ne_nil_of_left_ne_nil
  apply flatMap_lowercase_ne_nil (hne word List.mem_cons_self)

theorem spaced_joined {ws : List (List Char)} (hne : ∀ word ∈ ws, word ≠ [])
    (hletters : ∀ word ∈ ws, ∀ c ∈ word, isAlphanumeric c) :
  Spaced (joined ws)
  := by
  induction ws with
  | nil => exact spaced_of_notMem (by simp [joined])
  | cons word ws ih =>
      rw [List.forall_mem_cons] at hne hletters
      have hword := spaced_of_notMem (underscore_notMem_lowercase hletters.1)
      rw [joined_cons]
      by_cases hws : ws = []
      · subst hws
        rw [appended, List.flatMap_nil, List.append_nil]
        apply hword
      · rw [appended_of_ne_nil hws]
        apply hword.join (ih hne.2 hletters.2) (flatMap_lowercase_ne_nil hne.1)
          (joined_ne_nil hws hne.2)

/-- Without the underscores, joined words are their characters in lower case. -/
theorem filter_joined {ws : List (List Char)} (h : ∀ word ∈ ws, ∀ c ∈ word, isAlphanumeric c) :
  (joined ws).filter (· ≠ '_') = ws.flatten.flatMap lowercase
  := by
  induction ws with
  | nil => rfl
  | cons word ws ih =>
      rw [List.forall_mem_cons] at h
      have hword : (word.flatMap lowercase).filter (· ≠ '_') = word.flatMap lowercase := by
        apply List.filter_eq_self.mpr
        intro c hc
        apply decide_eq_true
        apply ne_of_mem_of_not_mem hc (underscore_notMem_lowercase h.1)
      rw [joined_cons, List.filter_append, hword, List.flatten_cons, List.flatMap_append, ← ih h.2]
      by_cases hws : ws = []
      · subst hws
        rfl
      · rw [appended_of_ne_nil hws, List.filter_cons_of_neg (by decide)]

/-- A slug consists of the words of its name, which are the pieces that the runs of letters and
numbers are cut into, in lower case and with one underscore between each two.  So it neither
begins nor ends with an underscore, never has two of them in a row, and holds the letters and
numbers of the name in their order. -/
theorem slug_joins_words (name : String) :
  ∃ cuttings, (∀ other, List.Forall₂ Pieces (runs name.toList) other ↔ other = cuttings)
    ∧ (slug name).toList = ['_'].intercalate (cuttings.flatten.map (·.flatMap lowercase))
    ∧ Spaced (slug name).toList
    ∧ (slug name).toList.filter (· ≠ '_')
      = (name.toList.filter isAlphanumeric).flatMap lowercase
  := by
  have hletters : ∀ word ∈ words name.toList, ∀ c ∈ word, isAlphanumeric c :=
    fun word hword c hc => (mem_of_mem_words hword hc).2
  refine ⟨(runs name.toList).map pieces, ?_, ?_, ?_, ?_⟩
  · intro other
    have hpieces : Pieces = fun run ps => pieces run = ps := by
      funext run ps
      rw [eq_iff_iff, pieces_iff, eq_comm]
    rw [hpieces, ← List.forall₂_map_left_iff (R := Eq), List.forall₂_eq_eq_eq, eq_comm]
  · rw [toList_slug]
    rfl
  · rw [toList_slug]
    apply spaced_joined _ hletters
    intro word hword
    apply ne_nil_of_mem_words hword
  · rw [toList_slug, filter_joined hletters, flatten_words]

/-! ### Slugs of slugs -/

/-- Whether a character is a letter or a number that lowering leaves as it is, and no capital. -/
def IsLowered (c : Char) : Prop :=
  isAlphanumeric c ∧ ¬ isUppercase c ∧ lowercase c = [c]

instance (c : Char) : Decidable (IsLowered c) :=
  inferInstanceAs (Decidable (_ ∧ _ ∧ _))

/-- Whether nothing is left to lower in the lower-case forms of the letters and numbers of a
name, and none of them is lost. -/
def Lowers (name : String) : Prop :=
  ∀ c ∈ name.toList, isAlphanumeric c → ∀ x ∈ lowercase c, IsLowered x

-- not left to the class, which would go through all characters and not through the name
instance (name : String) : Decidable (Lowers name) :=
  have (c : Char) : Decidable (∀ x ∈ lowercase c, IsLowered x) := List.decidableBAll IsLowered _
  List.decidableBAll (fun c => isAlphanumeric c → ∀ x ∈ lowercase c, IsLowered x) name.toList

theorem flatMap_lowercase_of_lowered {word : List Char} (h : ∀ c ∈ word, IsLowered c) :
  word.flatMap lowercase = word
  := by
  induction word with
  | nil => rfl
  | cons c word ih =>
      rw [List.forall_mem_cons] at h
      rw [List.flatMap_cons, h.1.2.2, ih h.2, List.singleton_append]

/-- A lower-case word is not cut. -/
theorem words_append_of_lowered {word rest : List Char} (hne : word ≠ [])
    (h : ∀ c ∈ word, IsLowered c) (hend : rest.head?.filter isAlphanumeric = none) :
  words (word ++ rest) = word :: words rest
  := by
  induction word with
  | nil => contradiction
  | cons b word ih =>
      rw [List.forall_mem_cons] at h
      cases word with
      | nil => exact words_cons_of_end h.1.1 hend
      | cons c word =>
          have hwithin := ih (List.cons_ne_nil c word) h.2
          rw [List.forall_mem_cons] at h
          rw [List.cons_append, List.cons_append, words_cons_cons h.1.1 h.2.1.1,
            if_neg (by simp [h.2.1.2.1]), ← List.cons_append, hwithin, List.modifyHead_cons]

/-- Joined lower-case words have these words again. -/
theorem words_joined {ws : List (List Char)} (hne : ∀ word ∈ ws, word ≠ [])
    (h : ∀ word ∈ ws, ∀ c ∈ word, IsLowered c) :
  words (joined ws) = ws
  := by
  induction ws with
  | nil => rfl
  | cons word ws ih =>
      rw [List.forall_mem_cons] at hne h
      rw [joined_cons, flatMap_lowercase_of_lowered h.1]
      by_cases hws : ws = []
      · subst hws
        apply words_append_of_lowered hne.1 h.1 rfl
      · rw [appended_of_ne_nil hws, words_append_of_lowered hne.1 h.1 rfl,
          words_cons_of_not (by decide), ih hne.2 h.2]

theorem isLowered_toLower {c : Char} (h : c.val < 0x80) :
  isAlphanumeric c → IsLowered c.toLower
  := forall_ascii (P := fun c => isAlphanumeric c → IsLowered c.toLower) (by decide) h

/-- The slug of a slug is the slug, if the name holds no letter or number that can be lowered
twice or that lowering makes something else of.  No name of ASCII does. -/
theorem slug_slug (name : String) :
  (Lowers name → slug (slug name) = slug name)
    ∧ ((∀ c ∈ name.toList, c.val < 0x80) → Lowers name)
  := by
  constructor
  · intro hlowers
    -- the words of the slug are the lower-case words of the name
    have hne : ∀ form ∈ (words name.toList).map (·.flatMap lowercase), form ≠ [] := by
      rw [List.forall_mem_map]
      intro word hword
      apply flatMap_lowercase_ne_nil (ne_nil_of_mem_words hword)
    have hlowered : ∀ form ∈ (words name.toList).map (·.flatMap lowercase),
        ∀ x ∈ form, IsLowered x := by
      rw [List.forall_mem_map]
      intro word hword x hx
      obtain ⟨c, hc, hlower⟩ := List.mem_flatMap.mp hx
      obtain ⟨hmem, hletter⟩ := mem_of_mem_words hword hc
      apply hlowers c hmem hletter x hlower
    have hjoined : joined ((words name.toList).map (·.flatMap lowercase))
        = joined (words name.toList) := by
      rw [joined, joined, List.map_map]
      congr 1
      apply List.map_congr_left
      intro word hword
      apply flatMap_lowercase_of_lowered
      apply hlowered _ (List.mem_map_of_mem hword)
    apply String.toList_inj.mp
    calc (slug (slug name)).toList
      _ = joined (words (slug name).toList) := toList_slug (slug name)
      _ = joined (words (joined (words name.toList))) := by rw [toList_slug]
      _ = joined (words name.toList) := by rw [← hjoined, words_joined hne hlowered]
      _ = (slug name).toList := (toList_slug name).symm
  · intro hascii c hc hletter x hx
    rw [lowercase, if_pos (hascii c hc)] at hx
    obtain rfl := List.mem_singleton.mp hx
    apply isLowered_toLower (hascii c hc) hletter

/-- A name with capitals above ASCII keeps its slug, as does a name of ASCII. -/
theorem slug_slug_order :
  slug (slug "ÄndereHTTPOrder2Ship") = "ändere_http_order2_ship"
    ∧ slug (slug "Shop.PlaceOrder") = slug "Shop.PlaceOrder"
  := by
  constructor
  · rw [(slug_slug "ÄndereHTTPOrder2Ship").1 (by decide +kernel)]
    decide +kernel
  · apply (slug_slug "Shop.PlaceOrder").1
    apply (slug_slug "Shop.PlaceOrder").2
    have hascii : "Shop.PlaceOrder".toList.all fun c => decide (c.val < 0x80) := by decide
    intro c hc
    apply of_decide_eq_true (List.all_eq_true.mp hascii c hc)

/-- The dot that lowering takes off a capital I is no letter, so the next slug parts there. -/
example : slug (slug "İst") = "i_st" ∧ slug "İst" ≠ "i_st" := by
  decide +kernel

end AmqpBus.Text

import AmqpBus.Proofs.Text.Slug
import Mathlib.Data.List.Chain
import Mathlib.Data.List.Forall2

/-!
# The words of a name

The letters and numbers of a name stand in runs.  A run is cut before a capital that follows a
lower-case letter or a digit, and before the last of several capitals if a lower-case letter
follows it.  The pieces are the words of the name.  There is one way only to cut a run into
pieces that meet at its cuts, and it can be found from the first character on.
-/

namespace AmqpBus.Text

/-! ### Runs and their pieces -/

/-- The runs of letters and numbers in a text, as long as they can be. -/
def runs (cs : List Char) : List (List Char) :=
  (cs.splitOnP (!isAlphanumeric ·)).filter (!·.isEmpty)

/-- Whether a run is cut between what stands before a place and what stands after it. -/
def IsCut (before after : List Char) : Prop :=
  ∃ b ∈ before.getLast?, ∃ c ∈ after.head?, isUppercase c
    ∧ (isLowercase b ∨ b.isDigit ∨ isUppercase b ∧ ∃ d ∈ after.tail.head?, isLowercase d)

/-- Whether one piece ends and the next one starts between the two parts of a run. -/
def Border (pieces : List (List Char)) (before after : List Char) : Prop :=
  ∃ left right, pieces = left ++ right ∧ left.flatten = before ∧ right.flatten = after

/-- Whether pieces meet where a run is cut and nowhere else. -/
def MeetAtCuts (run : List Char) (pieces : List (List Char)) : Prop :=
  ∀ before after, before ≠ [] → after ≠ [] → before ++ after = run →
    (Border pieces before after ↔ IsCut before after)

/-- What a run is cut into. -/
structure Pieces (run : List Char) (pieces : List (List Char)) : Prop where
  flatten : pieces.flatten = run
  nonempty : ∀ piece ∈ pieces, piece ≠ []
  meet : MeetAtCuts run pieces

/-- The pieces of a run. -/
def pieces : List Char → List (List Char)
  | [] => []
  | [c] => [[c]]
  | b :: c :: cs =>
    if isUppercase c && opensWord b cs.head? then [b] :: pieces (c :: cs)
    else (pieces (c :: cs)).modifyHead (b :: ·)

/-- The words of a text: the pieces of its runs. -/
def words (cs : List Char) : List (List Char) := (runs cs).flatMap pieces

variable {b c : Char} {cs run before after : List Char} {piece : List Char}
  {ps qs : List (List Char)}

theorem isCut_singleton :
  IsCut [b] (c :: cs) ↔ isUppercase c && opensWord b cs.head?
  := by
  simp [IsCut, opensWord, Option.any_eq_true, or_assoc]

theorem isCut_cons (h : before ≠ []) :
  IsCut (b :: before) after ↔ IsCut before after
  := by
  obtain ⟨c, cs, rfl⟩ := List.exists_cons_of_ne_nil h
  rw [IsCut, IsCut, List.getLast?_cons_cons]

/-- A border after the first piece or beyond it. -/
theorem border_cons_append (hpiece : piece ≠ []) :
  Border (piece :: ps) (piece ++ before) after ↔ Border ps before after
  := by
  constructor
  · rintro ⟨left, right, hsplit, hbefore, hafter⟩
    cases left with
    | nil =>
        have hnil : piece = [] := by simp_all
        contradiction
    | cons first left =>
        obtain ⟨rfl, rfl⟩ := List.cons.inj hsplit
        use left, right, rfl, List.append_cancel_left hbefore, hafter
  · rintro ⟨left, right, rfl, rfl, rfl⟩
    use piece :: left, right, rfl, rfl

/-- A border beyond the first character of the first piece. -/
theorem border_cons_cons (hbefore : before ≠ []) :
  Border ((b :: piece) :: ps) (b :: before) after ↔ Border (piece :: ps) before after
  := by
  constructor
  · rintro ⟨left, right, hsplit, hleft, hright⟩
    cases left with
    | nil => simp at hleft
    | cons first left =>
        obtain ⟨rfl, rfl⟩ := List.cons.inj hsplit
        use piece :: left, right, rfl, (List.cons.inj hleft).2, hright
  · rintro ⟨left, right, hsplit, hleft, hright⟩
    cases left with
    | nil => exact absurd hleft.symm hbefore
    | cons first left =>
        obtain ⟨rfl, rfl⟩ := List.cons.inj hsplit
        use (b :: piece) :: left, right, rfl, congrArg (b :: ·) hleft, hright

/-- Pieces of which only the first starts a character earlier meet at the cuts of the longer run
exactly if they meet at those of the shorter one, the place after that character aside. -/
theorem meetAtCuts_cons
    (hbeyond : ∀ before after, before ≠ [] →
      (Border qs (b :: before) after ↔ Border ps before after)) :
  MeetAtCuts (b :: c :: cs) qs
    ↔ (Border qs [b] (c :: cs) ↔ isUppercase c && opensWord b cs.head?)
      ∧ MeetAtCuts (c :: cs) ps
  := by
  constructor
  · intro hmeet
    constructor
    · rw [hmeet [b] (c :: cs) (List.cons_ne_nil _ _) (List.cons_ne_nil _ _) rfl, isCut_singleton]
    · intro before after hbefore hafter hrun
      rw [← hbeyond before after hbefore, ← isCut_cons hbefore]
      apply hmeet _ _ (List.cons_ne_nil _ _) hafter
      rw [List.cons_append, hrun]
  · rintro ⟨hfirst, hmeet⟩ before after hbefore hafter hrun
    obtain ⟨b', before, rfl⟩ := List.exists_cons_of_ne_nil hbefore
    obtain ⟨rfl, hrest⟩ := List.cons.inj hrun
    by_cases hnil : before = []
    · subst hnil
      obtain rfl : after = c :: cs := hrest
      rw [hfirst, isCut_singleton]
    · rw [hbeyond before after hnil, isCut_cons hnil]
      apply hmeet before after hnil hafter hrest

theorem pieces_singleton_cons_iff :
  Pieces (b :: c :: cs) ([b] :: ps)
    ↔ (isUppercase c && opensWord b cs.head?) ∧ Pieces (c :: cs) ps
  := by
  have hmeet : MeetAtCuts (b :: c :: cs) ([b] :: ps)
      ↔ (Border ([b] :: ps) [b] (c :: cs) ↔ isUppercase c && opensWord b cs.head?)
        ∧ MeetAtCuts (c :: cs) ps :=
    meetAtCuts_cons fun before after _ => border_cons_append (List.cons_ne_nil b [])
  constructor
  · rintro ⟨hflatten, hnonempty, h⟩
    obtain ⟨hfirst, hrest⟩ := hmeet.mp h
    have hps : ps.flatten = c :: cs := (List.cons.inj hflatten).2
    refine ⟨hfirst.mp ⟨[[b]], ps, rfl, rfl, hps⟩, hps, ?_, hrest⟩
    intro piece hpiece
    apply hnonempty piece (List.mem_cons_of_mem _ hpiece)
  · rintro ⟨hcut, hflatten, hnonempty, h⟩
    constructor
    · rw [List.flatten_cons, hflatten, List.singleton_append]
    · intro piece hpiece
      obtain rfl | hpiece := List.mem_cons.mp hpiece
      · apply List.cons_ne_nil
      · apply hnonempty piece hpiece
    · apply hmeet.mpr
      use iff_of_true ⟨[[b]], ps, rfl, rfl, hflatten⟩ hcut

theorem pieces_cons_cons_iff (hpiece : piece ≠ []) :
  Pieces (b :: c :: cs) ((b :: piece) :: ps)
    ↔ ¬ (isUppercase c && opensWord b cs.head?) ∧ Pieces (c :: cs) (piece :: ps)
  := by
  have hmeet : MeetAtCuts (b :: c :: cs) ((b :: piece) :: ps)
      ↔ (Border ((b :: piece) :: ps) [b] (c :: cs) ↔ isUppercase c && opensWord b cs.head?)
        ∧ MeetAtCuts (c :: cs) (piece :: ps) :=
    meetAtCuts_cons fun before after hbefore => border_cons_cons hbefore
  have hnone : ¬ Border ((b :: piece) :: ps) [b] (c :: cs) := by
    rintro ⟨left, right, hsplit, hleft, -⟩
    cases left with
    | nil => simp at hleft
    | cons first left =>
        obtain ⟨rfl, rfl⟩ := List.cons.inj hsplit
        apply hpiece
        apply (List.append_eq_nil_iff.mp (List.cons.inj hleft).2).1
  constructor
  · rintro ⟨hflatten, hnonempty, h⟩
    obtain ⟨hfirst, hrest⟩ := hmeet.mp h
    refine ⟨fun hcut => hnone (hfirst.mpr hcut), (List.cons.inj hflatten).2, ?_, hrest⟩
    intro other hother
    obtain rfl | hother := List.mem_cons.mp hother
    · apply hpiece
    · apply hnonempty other (List.mem_cons_of_mem _ hother)
  · rintro ⟨hcut, hflatten, hnonempty, h⟩
    constructor
    · rw [List.flatten_cons, List.cons_append, ← List.flatten_cons, hflatten]
    · intro other hother
      obtain rfl | hother := List.mem_cons.mp hother
      · apply List.cons_ne_nil
      · apply hnonempty other (List.mem_cons_of_mem _ hother)
    · apply hmeet.mpr
      use iff_of_false hnone hcut

/-- The first piece starts with the first character. -/
theorem Pieces.exists_cons (h : Pieces (b :: run) ps) :
  ∃ piece rest, ps = (b :: piece) :: rest
  := by
  obtain ⟨hflatten, hnonempty, -⟩ := h
  cases ps with
  | nil => contradiction
  | cons first rest =>
      obtain ⟨c, piece, rfl⟩ := List.exists_cons_of_ne_nil (hnonempty first List.mem_cons_self)
      obtain rfl : c = b := (List.cons.inj hflatten).1
      use piece, rest

theorem eq_nil_of_flatten (hflatten : ps.flatten = []) (hnonempty : ∀ piece ∈ ps, piece ≠ []) :
  ps = []
  := by
  apply List.eq_nil_iff_forall_not_mem.mpr
  intro piece hpiece
  apply hnonempty piece hpiece (List.flatten_eq_nil_iff.mp hflatten piece hpiece)

theorem pieces_nil_iff :
  Pieces [] ps ↔ ps = []
  := by
  constructor
  · rintro ⟨hflatten, hnonempty, -⟩
    apply eq_nil_of_flatten hflatten hnonempty
  · rintro rfl
    refine ⟨rfl, by simp, ?_⟩
    intro before after hbefore hafter hrun
    apply absurd (List.append_eq_nil_iff.mp hrun).1 hbefore

theorem pieces_singleton_iff :
  Pieces [c] ps ↔ ps = [[c]]
  := by
  constructor
  · intro h
    obtain ⟨piece, rest, rfl⟩ := h.exists_cons
    obtain ⟨hflatten, hnonempty, -⟩ := h
    obtain ⟨rfl, hrest⟩ := List.append_eq_nil_iff.mp (List.cons.inj hflatten).2
    rw [eq_nil_of_flatten hrest fun piece hpiece =>
      hnonempty piece (List.mem_cons_of_mem _ hpiece)]
  · rintro rfl
    refine ⟨rfl, by simp, ?_⟩
    -- nothing is left for one of the two parts
    intro before after hbefore hafter hrun
    obtain ⟨hnil, -⟩ | ⟨-, hnil⟩ := List.append_eq_singleton_iff.mp hrun
    · contradiction
    · contradiction

/-- There is one way to cut a run into pieces. -/
theorem pieces_iff :
  Pieces run ps ↔ ps = pieces run
  := by
  induction run using pieces.induct generalizing ps with
  | case1 =>
      rw [pieces]
      apply pieces_nil_iff
  | case2 c =>
      rw [pieces]
      apply pieces_singleton_iff
  | case3 b c cs hcut ih =>
      rw [pieces, if_pos hcut]
      constructor
      · intro h
        obtain ⟨piece, rest, rfl⟩ := h.exists_cons
        by_cases hpiece : piece = []
        · subst hpiece
          rw [ih.mp (pieces_singleton_cons_iff.mp h).2]
        · apply absurd hcut ((pieces_cons_cons_iff hpiece).mp h).1
      · rintro rfl
        apply pieces_singleton_cons_iff.mpr ⟨hcut, ih.mpr rfl⟩
  | case4 b c cs hcut ih =>
      rw [pieces, if_neg hcut]
      constructor
      · intro h
        obtain ⟨piece, rest, rfl⟩ := h.exists_cons
        by_cases hpiece : piece = []
        · subst hpiece
          apply absurd (pieces_singleton_cons_iff.mp h).1 hcut
        · rw [← ih.mp ((pieces_cons_cons_iff hpiece).mp h).2, List.modifyHead_cons]
      · rintro rfl
        have hpieces := ih.mpr rfl
        obtain ⟨piece, rest, hsplit⟩ := hpieces.exists_cons
        rw [hsplit] at hpieces ⊢
        apply (pieces_cons_cons_iff (List.cons_ne_nil c piece)).mpr ⟨hcut, hpieces⟩

theorem pieces_pieces (run : List Char) :
  Pieces run (pieces run)
  := pieces_iff.mpr rfl

/-! ### Words from the first character on -/

/-- A text begins with a run, which is empty unless the text begins with a letter or a number. -/
theorem exists_splitOnP (cs : List Char) :
  ∃ run rest, cs.splitOnP (!isAlphanumeric ·) = run :: rest
    ∧ run.head? = cs.head?.filter isAlphanumeric
  := by
  cases cs with
  | nil =>
      use [], [], List.splitOnP_nil
      rfl
  | cons c cs =>
      rw [List.splitOnP_cons_eq_if_modifyHead]
      split
      · rename_i hc
        use [], cs.splitOnP (!isAlphanumeric ·), rfl
        simpa [Option.filter] using hc
      · rename_i hc
        obtain ⟨run, rest, hsplit⟩ :=
          List.exists_cons_of_ne_nil (List.splitOnP_ne_nil (!isAlphanumeric ·) cs)
        use c :: run, rest, congrArg (List.modifyHead (c :: ·)) hsplit
        simpa [Option.filter] using hc

theorem runs_cons {rest : List (List Char)} (hc : isAlphanumeric c)
    (h : cs.splitOnP (!isAlphanumeric ·) = run :: rest) :
  runs (c :: cs) = (c :: run) :: rest.filter (!·.isEmpty)
  := by
  rw [runs, List.splitOnP_cons_eq_if_modifyHead, if_neg (by simp [hc]), h]
  rfl

theorem words_cons_of_not (hc : ¬ isAlphanumeric c) :
  words (c :: cs) = words cs
  := by
  rw [words, words, runs, runs, List.splitOnP_cons_eq_if_modifyHead, if_pos (by simp [hc])]
  rfl

/-- A word ends where its run ends. -/
theorem words_cons_of_end (hb : isAlphanumeric b) (hend : cs.head?.filter isAlphanumeric = none) :
  words (b :: cs) = [b] :: words cs
  := by
  obtain ⟨run, rest, hsplit, hhead⟩ := exists_splitOnP cs
  obtain rfl := List.head?_eq_none_iff.mp (hhead.trans hend)
  rw [words, runs_cons hb hsplit, words, runs, hsplit]
  rfl

/-- What follows in the text is as good as what follows in the run. -/
theorem opensWord_filter (before after : Option Char) :
  opensWord before (after.filter isAlphanumeric) = opensWord before after
  := by
  cases after with
  | none => rfl
  | some d =>
      by_cases hd : isAlphanumeric d
      · rw [Option.filter_some_pos hd]
      · have hlow : isLowercase d = false :=
          Bool.eq_false_iff.mpr fun h => hd (isAlphanumeric_of_isLowercase h)
        simp [opensWord, hd, hlow]

/-- Within a run a word ends where the run is cut. -/
theorem words_cons_cons (hb : isAlphanumeric b) (hc : isAlphanumeric c) :
  words (b :: c :: cs)
    = if isUppercase c && opensWord b cs.head? then [b] :: words (c :: cs)
      else (words (c :: cs)).modifyHead (b :: ·)
  := by
  obtain ⟨run, rest, hsplit, hhead⟩ := exists_splitOnP cs
  have hnext : (c :: cs).splitOnP (!isAlphanumeric ·) = (c :: run) :: rest := by
    rw [List.splitOnP_cons_eq_if_modifyHead, if_neg (by simp [hc]), hsplit]
    rfl
  rw [words, runs_cons hb hnext, words, runs_cons hc hsplit, List.flatMap_cons,
    List.flatMap_cons, pieces, hhead, opensWord_filter]
  split
  · rfl
  · obtain ⟨piece, more, hpieces⟩ := (pieces_pieces (c :: run)).exists_cons
    rw [hpieces]
    rfl

theorem words_cons_ne_nil (cs : List Char) (hc : isAlphanumeric c) :
  words (c :: cs) ≠ []
  := by
  obtain ⟨run, rest, hsplit, -⟩ := exists_splitOnP cs
  obtain ⟨piece, more, hpieces⟩ := (pieces_pieces (c :: run)).exists_cons
  rw [words, runs_cons hc hsplit, List.flatMap_cons, hpieces]
  apply List.cons_ne_nil

/-- A letter or a number is a word of its own or the beginning of the first word after it. -/
theorem words_cons_cases (cs : List Char) (hc : isAlphanumeric c) :
  words (c :: cs) = [c] :: words cs
    ∨ ∃ word ws, words cs = word :: ws ∧ words (c :: cs) = (c :: word) :: ws
  := by
  cases cs with
  | nil => exact .inl (words_cons_of_end hc rfl)
  | cons d cs =>
      by_cases hd : isAlphanumeric d
      · rw [words_cons_cons hc hd]
        split
        · exact .inl rfl
        · right
          obtain ⟨word, ws, hwords⟩ := List.exists_cons_of_ne_nil (words_cons_ne_nil cs hd)
          use word, ws, hwords
          rw [hwords, List.modifyHead_cons]
      · left
        apply words_cons_of_end hc
        simpa [Option.filter] using hd

/-- Words hold the letters and numbers of a text in their order. -/
theorem flatten_words (cs : List Char) :
  (words cs).flatten = cs.filter isAlphanumeric
  := by
  induction cs with
  | nil => rfl
  | cons c cs ih =>
      by_cases hc : isAlphanumeric c
      · rw [List.filter_cons_of_pos hc, ← ih]
        obtain h | ⟨word, ws, hwords, h⟩ := words_cons_cases cs hc
        · rw [h, List.flatten_cons, List.singleton_append]
        · rw [h, hwords, List.flatten_cons, List.flatten_cons, List.cons_append]
      · rw [List.filter_cons_of_neg hc, ← ih, words_cons_of_not hc]

theorem ne_nil_of_mem_words {word : List Char} (h : word ∈ words cs) :
  word ≠ []
  := by
  obtain ⟨run, -, hword⟩ := List.mem_flatMap.mp h
  apply (pieces_pieces run).nonempty word hword

theorem mem_of_mem_words {word : List Char} (h : word ∈ words cs) (hc : c ∈ word) :
  c ∈ cs ∧ isAlphanumeric c
  := by
  rw [← List.mem_filter, ← flatten_words]
  apply List.mem_flatten_of_mem h hc

example : (words "PlaceHTTPOrder2Ship.v1".toList).map String.ofList
    = ["Place", "HTTP", "Order2", "Ship", "v1"] := by decide

end AmqpBus.Text

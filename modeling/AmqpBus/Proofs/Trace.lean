import AmqpBus.Proofs.Text.Lowering
import AmqpBus.Trace
import Mathlib.Tactic.Common

/-!
# Traces in headers

Entries of a trace that share a name up to its case write to one header, and the last of
them stays.  Headers of other names are left as they were.  An entry is written under its name
in lower case and read under exactly the name that is asked for, so that it is found under the
name that it was written with only when that name is in lower case already.
-/

namespace AmqpBus

/-- A text is read back from its bytes. -/
theorem fromUTF8?_toUTF8 (text : String) :
  String.fromUTF8? text.toUTF8 = some text
  := dif_pos text.isValidUTF8

/-! ### The names of a dictionary -/

namespace Dictionary

variable {α : Type}

theorem mem_names (d : Dictionary α) (name : String) :
  name ∈ d.names ↔ (d.get? name).isSome
  := by
  rw [Option.isSome_iff_exists]
  constructor
  · intro hname
    obtain ⟨entry, hentry, rfl⟩ := List.mem_map.mp hname
    use entry.2
    apply (mem_entries d _ _).mp hentry
  · rintro ⟨value, hvalue⟩
    apply List.mem_map.mpr
    use (name, value), (mem_entries d name value).mpr hvalue

theorem nodup_names (d : Dictionary α) :
  d.names.Nodup
  := by
  apply List.Pairwise.map _ _ d.ordered
  intro entry other hlt heq
  rw [heq] at hlt
  apply String.lt_irrefl _ hlt

end Dictionary

/-! ### Entries -/

namespace Trace

open Amqp (Field Table)

/-- The value of the last entry whose name in lower case is the given one. -/
def last? (entries : List (String × String)) (name : String) : Option String :=
  (entries.reverse.find? fun entry => Text.lower entry.1 = name).map (·.2)

theorem last?_cons (entry : String × String) (entries : List (String × String)) (name : String) :
  last? (entry :: entries) name
    = (last? entries name).or (if Text.lower entry.1 = name then some entry.2 else none)
  := by
  rw [last?, List.reverse_cons, List.find?_append, Option.map_or, List.find?_singleton]
  congr 1
  split <;> simp_all

/-- What headers hold after entries were written: the last of a name, or else what they
held before. -/
theorem get?_injectAll (headers : Table) (entries : List (String × String)) (name : String) :
  (injectAll headers entries).get? name
    = ((last? entries name).map fun value => Field.longString value.toUTF8).or
        (headers.get? name)
  := by
  induction entries generalizing headers with
  | nil => rfl
  | cons entry entries ih =>
      have hstep : injectAll headers (entry :: entries)
          = injectAll (inject headers entry.1 entry.2) entries := rfl
      rw [hstep, ih, last?_cons, Option.map_or, Option.or_assoc, inject,
        Dictionary.get?_insert]
      congr 1
      by_cases hname : Text.lower entry.1 = name
      · rw [if_pos hname, if_pos hname.symm]
        rfl
      · rw [if_neg hname, if_neg (Ne.symm hname)]
        rfl

/-- A name has a last value when an entry has it up to its case. -/
theorem isSome_last?_iff (entries : List (String × String)) (name : String) :
  (last? entries name).isSome ↔ ∃ entry ∈ entries, Text.lower entry.1 = name
  := by
  simp [last?]

theorem last?_eq_none {entries : List (String × String)} {name : String}
    (h : ∀ entry ∈ entries, Text.lower entry.1 ≠ name) :
  last? entries name = none
  := by
  rw [← Option.not_isSome_iff_eq_none, isSome_last?_iff]
  rintro ⟨entry, hentry, hname⟩
  apply h entry hentry hname

/-- Nothing is written under a name that is not in lower case. -/
theorem last?_of_lower_ne (entries : List (String × String)) {name : String}
    (h : Text.lower name ≠ name) :
  last? entries name = none
  := by
  apply last?_eq_none
  rintro entry - rfl
  apply h (Text.lower_lower entry.1)

/-! ### Reading what was written -/

/-- Every name answers with the last entry written to it, or else as it did before. -/
theorem extract?_injectAll (headers : Table) (entries : List (String × String)) (name : String) :
  extract? (injectAll headers entries) name = (last? entries name).or (extract? headers name)
  := by
  rw [extract?, get?_injectAll]
  cases last? entries name with
  | none => rfl
  | some value => apply fromUTF8?_toUTF8

theorem mem_names_injectAll (headers : Table) (entries : List (String × String)) (name : String) :
  name ∈ names (injectAll headers entries)
    ↔ (last? entries name).isSome ∨ name ∈ names headers
  := by
  rw [names, names, Dictionary.mem_names, Dictionary.mem_names, get?_injectAll, Option.isSome_or,
    Option.isSome_map, Bool.or_eq_true]

/-- The last entry of a name up to its case is read under the name in lower case, which is
listed once.  Under the name itself it is read when that is in lower case; otherwise nothing
was written there, and the answer is what the headers held before.  Headers under other
names stay. -/
theorem written_entries_read_back (headers : Table) (entries : List (String × String)) :
  (∀ name ∈ entries.map (·.1), ∃ value,
      last? entries (Text.lower name) = some value
      ∧ extract? (injectAll headers entries) (Text.lower name) = some value
      ∧ (names (injectAll headers entries)).count (Text.lower name) = 1
      ∧ (Text.lower name ≠ name →
          extract? (injectAll headers entries) name = extract? headers name)
      ∧ (extract? (injectAll headers entries) name = some value
          ↔ Text.lower name = name ∨ extract? headers name = some value))
    ∧ ∀ other, (∀ name ∈ entries.map (·.1), Text.lower name ≠ other) →
        (injectAll headers entries).get? other = headers.get? other
        ∧ (other ∈ names (injectAll headers entries) ↔ other ∈ names headers)
  := by
  constructor
  · intro name hname
    obtain ⟨entry, hentry, rfl⟩ := List.mem_map.mp hname
    have hwritten : (last? entries (Text.lower entry.1)).isSome :=
      (isSome_last?_iff _ _).mpr ⟨entry, hentry, rfl⟩
    obtain ⟨value, hvalue⟩ := Option.isSome_iff_exists.mp hwritten
    have hlowered : extract? (injectAll headers entries) (Text.lower entry.1) = some value := by
      rw [extract?_injectAll, hvalue, Option.some_or]
    have hexact (h : Text.lower entry.1 ≠ entry.1) :
        extract? (injectAll headers entries) entry.1 = extract? headers entry.1 := by
      rw [extract?_injectAll, last?_of_lower_ne entries h, Option.none_or]
    refine ⟨value, hvalue, hlowered, ?_, hexact, ?_⟩
    · have hnodup : (names (injectAll headers entries)).Nodup := Dictionary.nodup_names _
      rw [hnodup.count]
      apply if_pos
      apply (mem_names_injectAll _ _ _).mpr (Or.inl hwritten)
    · by_cases hcase : Text.lower entry.1 = entry.1
      · rw [hcase] at hlowered
        simp only [hlowered, hcase, true_or]
      · rw [hexact hcase]
        simp only [hcase, false_or]
  · intro other hother
    have hnone : last? entries other = none := by
      apply last?_eq_none
      intro entry hentry
      apply hother entry.1 (List.mem_map_of_mem hentry)
    constructor
    · rw [get?_injectAll, hnone]
      rfl
    · rw [mem_names_injectAll, hnone]
      simp only [Option.isSome_none, Bool.false_eq_true, false_or]

/-- Of two entries whose names differ in case the last is read, under the name in lower case
alone. -/
theorem written_entries_read_back_parent :
  let written := injectAll ∅ [("TraceParent", "00-abc-def-01"), ("TRACEPARENT", "00-abc-def-02")]
  extract? written "traceparent" = some "00-abc-def-02" ∧ extract? written "TraceParent" = none
    ∧ (names written).count "traceparent" = 1 ∧ written.get? "x-death" = none
  := by
  let entries := [("TraceParent", "00-abc-def-01"), ("TRACEPARENT", "00-abc-def-02")]
  have hlower : Text.lower "TraceParent" = "traceparent" := by decide +kernel
  have hlast : last? entries "traceparent" = some "00-abc-def-02" := by decide +kernel
  obtain ⟨hentries, hother⟩ := written_entries_read_back ∅ entries
  obtain ⟨value, hvalue, hread, hcount, hexact, -⟩ := hentries "TraceParent" (by decide)
  rw [hlower, hlast] at hvalue
  rw [hlower] at hread hcount
  obtain rfl := Option.some.inj hvalue
  refine ⟨hread, ?_, hcount, ?_⟩
  · apply hexact
    decide +kernel
  · apply (hother "x-death" (by decide +kernel)).1

/-- An entry is not always read under the name that it was written with. -/
theorem written_entry_lost :
  extract? (injectAll ∅ [("TraceParent", "00-abc-def-01")]) "TraceParent" = none
    ∧ ¬ ∀ (headers : Table) (entries : List (String × String)),
        ∀ name ∈ entries.map (·.1),
          extract? (injectAll headers entries) name = last? entries (Text.lower name)
  := by
  have hlast : last? [("TraceParent", "00-abc-def-01")] (Text.lower "TraceParent")
      = some "00-abc-def-01" := by
    decide +kernel
  have hnone : extract? (injectAll ∅ [("TraceParent", "00-abc-def-01")]) "TraceParent" = none := by
    decide +kernel
  use hnone
  intro hall
  have hread := hall ∅ [("TraceParent", "00-abc-def-01")] "TraceParent" (List.mem_singleton_self _)
  rw [hnone, hlast] at hread
  apply Option.some_ne_none _ hread.symm

end Trace

end AmqpBus

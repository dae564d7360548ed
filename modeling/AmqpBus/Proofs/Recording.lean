import AmqpBus.Proofs.Ticks
import Mathlib.Data.List.Induction
import Mathlib.Order.Bounds.Defs
import Mathlib.Tactic.Common

/-!
# Recording deliveries

Deliveries are recorded on a context one after the other.  Its identifier and its beginning
never change, and its count is the greatest of those that were reported and of the one that it
came with.  So it does not matter in which order the counts are reported, nor how often.
-/

namespace AmqpBus.Context

/-- What is recorded of a delivery: the count that the broker reports, and the time. -/
structure Report where
  count : UInt32
  moment : Time.Moment

/-- Records deliveries one after the other. -/
def recordAll (context : Context) (reports : List Report) : Context :=
  reports.foldl (fun context report => context.recordDelivery report.count report.moment) context

/-- The counts that were heard of: the one that a context came with and those reported. -/
def counts (context : Context) (reports : List Report) : List UInt32 :=
  context.retries :: reports.map Report.count

/-- What a context comes to when deliveries are recorded on it.  It keeps who it is and when it
began, it has the greatest count, and it knows when the last delivery was, if there was one. -/
structure Records (context : Context) (reports : List Report) (reached : Context) : Prop where
  id : reached.id = context.id
  createdAt : reached.createdAt = context.createdAt
  retries : IsGreatest {count | count ∈ context.counts reports} reached.retries
  deliveredAt : reached.deliveredAt
    = (reports.getLast?.map Report.moment).or context.deliveredAt

variable {context reached reached' : Context} {reports reports' : List Report}

theorem Records.nil (context : Context) :
  Records context [] context
  where
  id := rfl
  createdAt := rfl
  retries := by
    constructor
    · apply List.mem_singleton_self
    · intro count hcount
      obtain rfl := List.mem_singleton.mp hcount
      apply UInt32.le_refl
  deliveredAt := rfl

/-- The greater of two counts is one of them and at least both. -/
theorem max_count (count count' : UInt32) :
  (max count count' = count ∨ max count count' = count')
    ∧ count ≤ max count count' ∧ count' ≤ max count count'
  := by
  simp only [UInt32.le_iff_toNat_le, ← UInt32.toNat_inj, UInt32.toNat_max]
  omega

/-- One more delivery is recorded. -/
theorem Records.recordDelivery (h : Records context reports reached) (report : Report) :
  Records context (reports ++ [report]) (reached.recordDelivery report.count report.moment)
  where
  id := h.id
  createdAt := h.createdAt
  retries := by
    have hcounts : context.counts (reports ++ [report])
        = context.counts reports ++ [report.count] := by
      simp [counts]
    obtain ⟨heither, hbefore, hreport⟩ := max_count reached.retries report.count
    rw [hcounts]
    constructor
    · apply List.mem_append.mpr
      obtain hmax | hmax := heither
      · left
        rw [Context.recordDelivery, hmax]
        apply h.retries.1
      · right
        rw [Context.recordDelivery, hmax]
        apply List.mem_singleton_self
    · intro count hcount
      obtain hcount | hcount := List.mem_append.mp hcount
      · apply UInt32.le_trans (h.retries.2 hcount) hbefore
      · obtain rfl := List.mem_singleton.mp hcount
        apply hreport
  deliveredAt := by
    rw [List.getLast?_concat]
    rfl

/-- All deliveries are recorded. -/
theorem records_recordAll (context : Context) (reports : List Report) :
  Records context reports (context.recordAll reports)
  := by
  induction reports using List.reverseRecOn with
  | nil => apply Records.nil
  | append_singleton reports report ih =>
      rw [recordAll, List.foldl_append]
      apply ih.recordDelivery

/-- Among more counts the greatest is at least as great. -/
theorem Records.retries_le (h : Records context reports reached)
    (h' : Records context reports' reached')
    (hcounts : reports.map Report.count ⊆ reports'.map Report.count) :
  reached.retries ≤ reached'.retries
  := by
  apply h'.retries.2
  apply List.cons_subset_cons _ hcounts h.retries.1

/-- At every step a context, wherever it came from, is who it was at first and has the greatest
count so far.  The count never goes down, the time of delivery is known from the first delivery
on, and other reports of the same counts come to the same. -/
theorem recordAll_keeps_identity (context : Context) (reports : List Report) :
  (∀ step, Records context (reports.take step) (context.recordAll (reports.take step)))
    ∧ (∀ step later, step ≤ later → (context.recordAll (reports.take step)).retries
        ≤ (context.recordAll (reports.take later)).retries)
    ∧ (∀ step, reports.take step ≠ [] →
        (context.recordAll (reports.take step)).deliveredAt.isSome)
    ∧ ∀ reports' : List Report,
        (∀ count, count ∈ reports'.map Report.count ↔ count ∈ reports.map Report.count) →
        (context.recordAll reports').id = (context.recordAll reports).id
          ∧ (context.recordAll reports').createdAt = (context.recordAll reports).createdAt
          ∧ (context.recordAll reports').retries = (context.recordAll reports).retries
  := by
  refine ⟨?_, ?_, ?_, ?_⟩
  · intro step
    apply records_recordAll
  · intro step later hle
    apply (records_recordAll context _).retries_le (records_recordAll context _)
    apply List.map_subset
    apply (List.take_sublist_take_left hle).subset
  · intro step hne
    rw [(records_recordAll context _).deliveredAt, List.getLast?_eq_some_getLast hne]
    rfl
  · intro reports' hcounts
    have h := records_recordAll context reports
    have h' := records_recordAll context reports'
    refine ⟨h'.id.trans h.id.symm, h'.createdAt.trans h.createdAt.symm, ?_⟩
    apply UInt32.le_antisymm
    · apply h'.retries_le h fun count => (hcounts count).mp
    · apply h.retries_le h' fun count => (hcounts count).mpr

/-- Reports of counts, all at the beginning of a tick. -/
def tickReports (counts : List UInt32) : List Report :=
  counts.map fun count => ⟨count, (tick 0).context.createdAt⟩

/-- A tick that was delivered twice before hears of its deliveries late and more than once. -/
theorem recordAll_keeps_identity_tick :
  let context := (tick 2).context
  (tickReports [1, 5, 5, 3]).take 1 ≠ []
    ∧ (∀ count, count ∈ (tickReports [1, 3, 5]).map Report.count
        ↔ count ∈ (tickReports [1, 5, 5, 3]).map Report.count)
    ∧ (context.recordAll ((tickReports [1, 5, 5, 3]).take 1)).retries = 2
    ∧ (context.recordAll ((tickReports [1, 5, 5, 3]).take 1)).deliveredAt.isSome
    ∧ (context.recordAll (tickReports [1, 5, 5, 3])).retries = 5
    ∧ (context.recordAll (tickReports [1, 3, 5])).retries = 5
    ∧ (context.recordAll (tickReports [1, 3, 5])).id = context.id
  := by
  have hne : (tickReports [1, 5, 5, 3]).take 1 ≠ [] := by simp [tickReports]
  have hcounts : ∀ count, count ∈ (tickReports [1, 3, 5]).map Report.count
      ↔ count ∈ (tickReports [1, 5, 5, 3]).map Report.count := by
    intro count
    simp only [tickReports, List.map_cons, List.map_nil, List.mem_cons, List.not_mem_nil]
    tauto
  obtain ⟨hrecords, -, hdelivered, hsame⟩ :=
    recordAll_keeps_identity (tick 2).context (tickReports [1, 5, 5, 3])
  obtain ⟨hid, -, hretries⟩ := hsame _ hcounts
  exact ⟨hne, hcounts, by decide, hdelivered 1 hne, by decide, hretries.trans (by decide),
    hid.trans (hrecords 4).id⟩

end AmqpBus.Context

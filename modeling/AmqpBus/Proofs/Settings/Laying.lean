import AmqpBus.Settings.Environment
import AmqpBus.Proofs.Text.Lowering
import Mathlib.Tactic.Common

/-!
# Laying settings over others

Names that are written plainly lead to an entry of their own.  When a source sets such names
only, and no tables, then laying it over a table replaces what the source names, of which the
last value counts, and keeps all else.
-/

namespace AmqpBus.Settings

/-- A name that leads to an entry of its own, whether it is read as a path or as the end of
the name of a variable. -/
structure IsKey (name : String) : Prop where
  path : Path.ofString? name = some ⟨name, []⟩
  lower : Text.lower name = name
  pointed : pointed name.toList = name.toList
  ascii : Text.IsAscii name

/-- Whether a setting is a table, which merges with a table in its place. -/
def Setting.isTable : Setting → Bool
  | .table _ => true
  | _ => false

/-- A source that sets entries of the table itself, each to something else than a table. -/
def IsFlat (source : List (String × Setting)) : Prop :=
  ∀ entry ∈ source, IsKey entry.1 ∧ ¬ entry.2.isTable

variable {source : List (String × Setting)} {name : String} {value : Setting}

/-! ### Putting in -/

theorem putAt_of_isKey (root : Setting) (hname : IsKey name) (hvalue : ¬ value.isTable) :
  root.putAt name value = .table (insertEntry name value root.entries)
  := by
  have hput : root.put name value = .table (insertEntry (Text.lower name) value root.entries) := by
    cases value with
    | table entries => contradiction
    | _ => rfl
  rw [Setting.putAt, hname.path]
  simp only [Path.put, Path.putSteps]
  rw [hput, hname.lower]

/-- Entries that are inserted one after the other, into those that are there. -/
def insertEntries (source entries : List (String × Setting)) : List (String × Setting) :=
  source.foldl (fun entries entry => insertEntry entry.1 entry.2 entries) entries

theorem mem_insertEntries {entries : List (String × Setting)} {entry : String × Setting}
    (h : entry ∈ insertEntries source entries) :
  entry ∈ source ∨ entry ∈ entries
  := by
  induction source generalizing entries with
  | nil => apply Or.inr h
  | cons first rest ih =>
      obtain hrest | hentries := ih h
      · apply Or.inl (List.mem_cons_of_mem _ hrest)
      · obtain rfl | hentries := mem_insertEntry hentries
        · apply Or.inl List.mem_cons_self
        · apply Or.inr hentries

/-- The last entry of a name counts, and what no entry names stays. -/
theorem lookup_insertEntries (source entries : List (String × Setting)) (name : String) :
  (insertEntries source entries).lookup name = (source.reverse.lookup name).or (entries.lookup name)
  := by
  induction source generalizing entries with
  | nil => rfl
  | cons first rest ih =>
      have hstep : (insertEntries (first :: rest) entries).lookup name
          = (rest.reverse.lookup name).or ((insertEntry first.1 first.2 entries).lookup name) :=
        ih _
      rw [hstep, lookup_insertEntry, List.reverse_cons, List.lookup_append, Option.or_assoc]
      congr 1
      rw [lookup_cons]
      split
      · rfl
      · rfl

theorem putAllAt_of_isFlat (entries : List (String × Setting)) (h : IsFlat source) :
  Setting.putAllAt (.table entries) source = .table (insertEntries source entries)
  := by
  induction source generalizing entries with
  | nil => rfl
  | cons first rest ih =>
      obtain ⟨⟨hname, hvalue⟩, hrest⟩ := List.forall_mem_cons.mp h
      have hstep : Setting.putAllAt (.table entries) (first :: rest)
          = Setting.putAllAt ((Setting.table entries).putAt first.1 first.2) rest := rfl
      rw [hstep, putAt_of_isKey _ hname hvalue]
      apply ih _ hrest

theorem pairwise_insertEntries {entries : List (String × Setting)}
    (source : List (String × Setting)) (h : entries.Pairwise (·.1 < ·.1)) :
  (insertEntries source entries).Pairwise (·.1 < ·.1)
  := by
  induction source generalizing entries with
  | nil => apply h
  | cons first rest ih => apply ih (pairwise_insertEntry _ _ h)

/-! ### Laying over a table -/

/-- Among entries in the order of their names no name comes twice, so that the last entry of a
name is the first. -/
theorem lookup_reverse {entries : List (String × Setting)} (h : entries.Pairwise (·.1 < ·.1))
    (name : String) :
  entries.reverse.lookup name = entries.lookup name
  := by
  have honly : ∀ value, entries.reverse.lookup name = some value →
      entries.lookup name = some value := by
    intro value hlast
    apply Dictionary.lookup_eq_some_of_mem h
      (List.mem_reverse.mp (Dictionary.mem_of_lookup_eq_some hlast))
  cases hlast : entries.reverse.lookup name with
  | some value => rw [honly value hlast]
  | none =>
      rw [List.lookup_eq_none_iff] at hlast
      symm
      rw [List.lookup_eq_none_iff]
      intro entry hentry
      apply hlast entry (List.mem_reverse.mpr hentry)

/-- A flat source that is laid over a table decides what it names and leaves all else. -/
theorem lay_of_isFlat (entries : List (String × Setting)) (h : IsFlat source) :
  ∃ laid, (Setting.table entries).lay source = .table laid
    ∧ ∀ name, laid.lookup name = (source.reverse.lookup name).or (entries.lookup name)
  := by
  have hflat : IsFlat (insertEntries source []) := by
    intro entry hentry
    obtain hsource | hnone := mem_insertEntries hentry
    · apply h entry hsource
    · contradiction
  have hordered := pairwise_insertEntries source List.Pairwise.nil
  use insertEntries (insertEntries source []) entries
  constructor
  · rw [Setting.lay, putAllAt_of_isFlat [] h, Setting.entries, putAllAt_of_isFlat entries hflat]
  · intro name
    rw [lookup_insertEntries, lookup_reverse hordered, lookup_insertEntries, List.lookup_nil,
      Option.or_none]

/-! ### Tables of sections -/

/-- What is put at the end of a path is put into a table. -/
theorem put_eq_table (path : Path) (value root : Setting) :
  ∃ entries, path.put value root = .table entries
  := by
  obtain ⟨head, steps⟩ := path
  cases steps with
  | nil =>
      cases value with
      | table incoming => exact ⟨_, rfl⟩
      | _ => exact ⟨_, rfl⟩
  | cons next rest => exact ⟨_, rfl⟩

end AmqpBus.Settings

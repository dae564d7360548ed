import AmqpBus.Options.Load
import AmqpBus.Proofs.Options.Fields
import AmqpBus.Proofs.Settings.Laying
import Mathlib.Data.Option.Basic

/-!
# Values that are read alike

An option does not tell all values apart: it takes them for a text, a number, a flag or a list.
Values that are taken alike give the same options, and no option reads a table.  A value that is
put into a table may come out changed within, but only when it is a table itself, and so it is
read as before.
-/

namespace AmqpBus

open Settings

namespace Notation

variable {V : Type} {n : Notation V} {v w : V}

/-- Two values that are read alike when they are given for an option. -/
structure Alike (n : Notation V) (v w : V) : Prop where
  text : n.text? v = n.text? w
  natural : n.natural? v = n.natural? w
  flag : n.flag? v = n.flag? w
  items : n.items? v = n.items? w

theorem Alike.refl (v : V) :
  n.Alike v v
  := ⟨rfl, rfl, rfl, rfl⟩

theorem Alike.trans {u : V} (h : n.Alike u v) (h' : n.Alike v w) :
  n.Alike u w
  := ⟨h.text.trans h'.text, h.natural.trans h'.natural, h.flag.trans h'.flag,
    h.items.trans h'.items⟩

theorem rel_some_of_alike {field : Option V} (h : Option.Rel n.Alike field (some v))
    (halike : n.Alike v w) :
  Option.Rel n.Alike field (some w)
  := by
  cases h with
  | some h => apply Option.Rel.some (h.trans halike)

theorem rel_refl (field : Option V) :
  Option.Rel n.Alike field field
  := by
  cases field with
  | none => apply Option.Rel.none
  | some v => apply Option.Rel.some (Alike.refl v)

theorem Alike.ofBits (h : n.Alike v w) (bits : Nat) :
  n.ofBits bits v = n.ofBits bits w
  := by
  rw [Notation.ofBits, Notation.ofBits, h.natural]

theorem givenOr_congr {α : Type} {read : V → Option α} {default : α} {field field' : Option V}
    (hread : ∀ v w, n.Alike v w → read v = read w) (h : Option.Rel n.Alike field field') :
  givenOr read default field = givenOr read default field'
  := by
  cases h with
  | none => rfl
  | some h => apply hread _ _ h

theorem Alike.read (h : n.Alike v w) (kind : Options.Kind) :
  n.read kind v = n.read kind w
  := by
  cases kind <;> simp only [Notation.read, h.text, h.ofBits, h.flag, h.items]

/-- Options are the same when each of their fields is read alike. -/
theorem options?_congr {given given' : String → Option V}
    (hv : n.fields? optionFields v = some (optionFields.map given))
    (hw : n.fields? optionFields w = some (optionFields.map given'))
    (h : ∀ name ∈ optionFields, Option.Rel n.Alike (given name) (given' name)) :
  n.options? v = n.options? w
  := by
  have hfield {kind : Options.Kind} (f : Options.Field kind) :
      n.readField given f = n.readField given' f := by
    apply givenOr_congr _ (h f.name f.name_mem_optionFields)
    intro v w halike
    apply halike.read kind
  rw [options?_eq hv, options?_eq hw]
  simp only [hfield]

end Notation

/-! ### Settings -/

namespace Settings

theorem exists_eq_table {value : Setting} (h : value.isTable) :
  ∃ entries, value = .table entries
  := by
  cases value with
  | table entries => use entries
  | _ => contradiction

/-- No option reads a table. -/
theorem alike_of_isTable {value stored : Setting} (hvalue : value.isTable)
    (hstored : stored.isTable) :
  Notation.settings.Alike stored value
  := by
  obtain ⟨entries, rfl⟩ := exists_eq_table hvalue
  obtain ⟨entries', rfl⟩ := exists_eq_table hstored
  exact ⟨rfl, rfl, rfl, rfl⟩

theorem isTable_putAll (incoming : List (String × Setting)) {root : Setting} (h : root.isTable) :
  (root.putAll incoming).isTable
  := by
  induction incoming generalizing root with
  | nil =>
      rw [Setting.putAll]
      apply h
  | cons first rest ih =>
      rw [Setting.putAll]
      apply ih
      cases first.2 <;> rfl

variable {entries : List (String × Setting)}

/-- A value that is put under a new key is stored as a value that is read alike. -/
theorem put_of_isKey {name : String} (value : Setting) (hname : IsKey name)
    (hnew : entries.lookup name = none) :
  ∃ stored, Path.put ⟨name, []⟩ value (.table entries) = .table (insertEntry name stored entries)
    ∧ Notation.settings.Alike stored value
  := by
  by_cases hvalue : value.isTable
  · obtain ⟨incoming, rfl⟩ := exists_eq_table hvalue
    use Setting.putAll (.table []) incoming
    constructor
    · rw [Path.put, Path.putSteps, Setting.put, Setting.entries, hname.lower, hnew]
      rfl
    · apply alike_of_isTable hvalue (isTable_putAll incoming rfl)
  · use value
    constructor
    · have hput := putAt_of_isKey (.table entries) hname hvalue
      rwa [Setting.putAt, hname.path] at hput
    · apply Notation.Alike.refl

/-- Entries with keys of their own are put into a table one beside the other. -/
theorem foldlM_put_of_isKey {given : List (String × Setting)}
    (hkeys : ∀ entry ∈ given, IsKey entry.1) (hdistinct : (given.map Prod.fst).Nodup)
    (hnew : ∀ entry ∈ given, entries.lookup entry.1 = none) :
  ∃ stored,
    given.foldlM (fun table entry =>
      return (← Path.ofString? entry.1).put entry.2 table) (Setting.table entries)
      = some (.table stored)
    ∧ ∀ name, Option.Rel Notation.settings.Alike (stored.lookup name)
        ((given.lookup name).or (entries.lookup name))
  := by
  induction given generalizing entries with
  | nil =>
      use entries, rfl
      intro name
      apply Notation.rel_refl
  | cons first rest ih =>
      obtain ⟨hkey, hkeys⟩ := List.forall_mem_cons.mp hkeys
      obtain ⟨hfirst, hnew⟩ := List.forall_mem_cons.mp hnew
      rw [List.map_cons, List.nodup_cons] at hdistinct
      have hother : ∀ entry ∈ rest, entry.1 ≠ first.1 := by
        intro entry hentry heq
        apply hdistinct.1
        rw [← heq]
        apply List.mem_map_of_mem hentry
      obtain ⟨value, hput, halike⟩ := put_of_isKey first.2 hkey hfirst
      -- the keys that are still to come stay new
      have hrest : ∀ entry ∈ rest, (insertEntry first.1 value entries).lookup entry.1 = none := by
        intro entry hentry
        rw [lookup_insertEntry, if_neg (hother entry hentry), hnew entry hentry]
      obtain ⟨stored, hstored, hlookup⟩ := ih hkeys hdistinct.2 hrest
      use stored
      constructor
      · rw [List.foldlM_cons, hkey.path]
        simp only [Option.pure_def, Option.bind_eq_bind, Option.bind_some, hput]
        apply hstored
      · intro name
        have hname := hlookup name
        rw [lookup_insertEntry] at hname
        rw [lookup_cons]
        split at hname
        · rename_i heq
          have hnone : rest.lookup name = none := by
            rw [List.lookup_eq_none_iff, heq]
            intro entry hentry
            apply bne_iff_ne.mpr (hother entry hentry).symm
          rw [hnone, Option.none_or] at hname
          rw [if_pos heq, Option.some_or]
          apply Notation.rel_some_of_alike hname halike
        · rename_i hne
          rw [if_neg hne]
          apply hname

end Settings

end AmqpBus

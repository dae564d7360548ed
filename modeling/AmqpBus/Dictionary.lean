/-!
# Dictionaries

A dictionary holds a value under each of its names and lists them in the order of the
names.  Inserting under a name that is taken replaces the value, and `overlay` lets the
entries of one dictionary win over those of another.  Two dictionaries that answer every
name alike are equal, by `Dictionary.ext`.
-/

namespace AmqpBus

/-- Inserts an entry into an ordered list of entries, in place of one of the same name. -/
def insertEntry {α : Type} (name : String) (value : α) : List (String × α) → List (String × α)
  | [] => [(name, value)]
  | entry :: entries =>
    if name < entry.1 then (name, value) :: entry :: entries
    else if name = entry.1 then (name, value) :: entries
    else entry :: insertEntry name value entries

theorem mem_insertEntry {α : Type} {name : String} {value : α} {entry : String × α}
    {entries : List (String × α)} (h : entry ∈ insertEntry name value entries) :
  entry = (name, value) ∨ entry ∈ entries
  := by
  induction entries with
  | nil => simpa [insertEntry] using h
  | cons head rest ih =>
    rw [insertEntry] at h
    split at h
    · simpa using h
    · split at h <;> grind

theorem pairwise_insertEntry {α : Type} {entries : List (String × α)}
    (name : String) (value : α) (h : entries.Pairwise (·.1 < ·.1)) :
  (insertEntry name value entries).Pairwise (·.1 < ·.1)
  := by
  induction entries with
  | nil => simp [insertEntry]
  | cons head rest ih =>
    obtain ⟨hhead, hrest⟩ := List.pairwise_cons.1 h
    rw [insertEntry]
    split
    · next hlt =>
      apply List.Pairwise.cons _ h
      intro entry hentry
      rcases List.mem_cons.1 hentry with rfl | hentry
      · exact hlt
      · exact String.lt_trans hlt (hhead entry hentry)
    · next hlt =>
      split
      · next heq =>
        apply List.Pairwise.cons _ hrest
        intro entry hentry
        exact heq ▸ hhead entry hentry
      · next hne =>
        apply List.Pairwise.cons _ (ih hrest)
        intro entry hentry
        rcases mem_insertEntry hentry with rfl | hentry
        · exact Std.lt_of_le_of_ne (String.not_lt.1 hlt) (Ne.symm hne)
        · exact hhead entry hentry

theorem lookup_cons {α : Type} (entry : String × α) (entries : List (String × α))
    (name : String) :
  (entry :: entries).lookup name = if name = entry.1 then some entry.2 else entries.lookup name
  := by
  obtain ⟨key, value⟩ := entry
  rw [List.lookup_cons]
  split
  · next heq => rw [if_pos (beq_iff_eq.1 heq)]
  · next hne => rw [if_neg (beq_eq_false_iff_ne.1 hne)]

theorem lookup_insertEntry {α : Type} (entries : List (String × α)) (name : String)
    (value : α) (other : String) :
  (insertEntry name value entries).lookup other
    = if other = name then some value else entries.lookup other
  := by
  induction entries with
  | nil => simp [insertEntry, lookup_cons]
  | cons head rest ih => grind [insertEntry, lookup_cons]

/-- Values under names, in the order of the names. -/
structure Dictionary (α : Type) where
  entries : List (String × α)
  ordered : entries.Pairwise (·.1 < ·.1)

namespace Dictionary

variable {α β : Type}

/-- The dictionary without entries. -/
def empty : Dictionary α := ⟨[], List.Pairwise.nil⟩

instance : EmptyCollection (Dictionary α) := ⟨empty⟩

instance : Inhabited (Dictionary α) := ⟨empty⟩

instance [DecidableEq α] : DecidableEq (Dictionary α) := fun d e =>
  decidable_of_iff (d.entries = e.entries)
    ⟨fun h => by cases d; cases e; simp_all, fun h => by rw [h]⟩

/-- The value under a name. -/
def get? (d : Dictionary α) (name : String) : Option α := d.entries.lookup name

/-- The dictionary with a value put under a name. -/
def insert (d : Dictionary α) (name : String) (value : α) : Dictionary α :=
  ⟨insertEntry name value d.entries, pairwise_insertEntry name value d.ordered⟩

/-- The dictionary with entries put in one after the other, so that the last one of a
name stays. -/
def insertMany (d : Dictionary α) (entries : List (String × α)) : Dictionary α :=
  entries.foldl (fun d entry => d.insert entry.1 entry.2) d

/-- The dictionary of a list of entries, in which the last one of a name counts. -/
def ofList (entries : List (String × α)) : Dictionary α := insertMany ∅ entries

/-- The entries of both dictionaries, in which those of `upper` win. -/
def overlay (d upper : Dictionary α) : Dictionary α := d.insertMany upper.entries

/-- The dictionary with a function applied to its values. -/
def map (f : α → β) (d : Dictionary α) : Dictionary β :=
  ⟨d.entries.map fun entry => (entry.1, f entry.2), d.ordered.map _ fun _ _ h => h⟩

/-- The names in order. -/
def names (d : Dictionary α) : List String := d.entries.map (·.1)

@[simp]
theorem get?_empty (name : String) :
  (∅ : Dictionary α).get? name = none
  := rfl

theorem get?_insert (d : Dictionary α) (name : String) (value : α) (other : String) :
  (d.insert name value).get? other = if other = name then some value else d.get? other
  := lookup_insertEntry d.entries name value other

theorem get?_map (f : α → β) (d : Dictionary α) (name : String) :
  (d.map f).get? name = (d.get? name).map f
  := by
  obtain ⟨entries, ordered⟩ := d
  simp only [get?, map]
  clear ordered
  induction entries with
  | nil => rfl
  | cons head rest ih =>
    rw [List.map_cons, lookup_cons, lookup_cons, ih]
    split <;> rfl

theorem lookup_eq_some_of_mem {entries : List (String × α)}
    (ordered : entries.Pairwise (·.1 < ·.1)) {entry : String × α} (h : entry ∈ entries) :
  entries.lookup entry.1 = some entry.2
  := by
  induction entries with
  | nil => simp at h
  | cons head rest ih =>
    obtain ⟨hhead, hrest⟩ := List.pairwise_cons.1 ordered
    rcases List.mem_cons.1 h with rfl | hmem
    · simp [lookup_cons]
    · have hne : entry.1 ≠ head.1 := fun heq =>
        String.lt_irrefl _ (heq ▸ hhead entry hmem)
      rw [lookup_cons, if_neg hne, ih hrest hmem]

theorem mem_of_lookup_eq_some {entries : List (String × α)} {name : String} {value : α}
    (h : entries.lookup name = some value) :
  (name, value) ∈ entries
  := by
  induction entries with
  | nil => simp at h
  | cons head rest ih =>
    rw [lookup_cons] at h
    split at h
    · next heq =>
      obtain rfl := Option.some.inj h
      simp [heq]
    · exact List.mem_cons_of_mem _ (ih h)

/-- The entries of a dictionary are what it answers. -/
theorem mem_entries (d : Dictionary α) (name : String) (value : α) :
  (name, value) ∈ d.entries ↔ d.get? name = some value
  := ⟨lookup_eq_some_of_mem d.ordered, mem_of_lookup_eq_some⟩

theorem eq_of_mem_iff {l m : List (String × α)}
    (hl : l.Pairwise (·.1 < ·.1)) (hm : m.Pairwise (·.1 < ·.1))
    (h : ∀ entry, entry ∈ l ↔ entry ∈ m) :
  l = m
  := by
  induction l generalizing m with
  | nil =>
    cases m with
    | nil => rfl
    | cons head rest => simpa using h head
  | cons head rest ih =>
    cases m with
    | nil => simpa using h head
    | cons head' rest' =>
      obtain ⟨hhead, hrest⟩ := List.pairwise_cons.1 hl
      obtain ⟨hhead', hrest'⟩ := List.pairwise_cons.1 hm
      have heq : head = head' := by
        rcases List.mem_cons.1 ((h head).1 (by simp)) with heq | hmem
        · exact heq
        · rcases List.mem_cons.1 ((h head').2 (by simp)) with heq | hmem'
          · exact heq.symm
          · exact absurd (hhead' head hmem) (String.lt_asymm (hhead head' hmem'))
      subst heq
      congr 1
      apply ih hrest hrest'
      intro entry
      constructor
      · intro hmem
        rcases List.mem_cons.1 ((h entry).1 (List.mem_cons_of_mem _ hmem)) with rfl | hmem'
        · exact absurd (hhead entry hmem) (String.lt_irrefl _)
        · exact hmem'
      · intro hmem
        rcases List.mem_cons.1 ((h entry).2 (List.mem_cons_of_mem _ hmem)) with rfl | hmem'
        · exact absurd (hhead' entry hmem) (String.lt_irrefl _)
        · exact hmem'

/-- A dictionary is determined by what it answers. -/
theorem ext {d e : Dictionary α} (h : ∀ name, d.get? name = e.get? name) :
  d = e
  := by
  have hentries : d.entries = e.entries := by
    apply eq_of_mem_iff d.ordered e.ordered
    intro ⟨name, value⟩
    rw [mem_entries, mem_entries, h]
  cases d
  cases e
  simp_all

theorem get?_insertMany_of_pairwise {entries : List (String × α)}
    (ordered : entries.Pairwise (·.1 < ·.1)) (d : Dictionary α) (name : String) :
  (d.insertMany entries).get? name = (entries.lookup name).or (d.get? name)
  := by
  induction entries generalizing d with
  | nil => rfl
  | cons head rest ih =>
    obtain ⟨hhead, hrest⟩ := List.pairwise_cons.1 ordered
    have hstep : (d.insertMany (head :: rest)).get? name
        = (rest.lookup name).or ((d.insert head.1 head.2).get? name) :=
      ih hrest (d.insert head.1 head.2)
    rw [hstep, get?_insert, lookup_cons]
    split
    · next heq =>
      have hnone : rest.lookup name = none := by
        cases hlookup : rest.lookup name with
        | none => rfl
        | some value =>
          have hlt : head.1 < name := hhead _ (mem_of_lookup_eq_some hlookup)
          exact absurd hlt (heq ▸ String.lt_irrefl name)
      simp [hnone]
    · rfl

/-- In an overlay the upper dictionary answers first. -/
theorem get?_overlay (d upper : Dictionary α) (name : String) :
  (d.overlay upper).get? name = (upper.get? name).or (d.get? name)
  := get?_insertMany_of_pairwise upper.ordered d name

end Dictionary

end AmqpBus

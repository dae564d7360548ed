import AmqpBus.Proofs.Registry

/-!
# Registering message types

A registry is made of entries in order.  It takes them all exactly when no two of them have one
type and no two have one full name, and then it answers for each type with the descriptor of
its entry, in the role of the entry.  Otherwise the first entry that repeats an earlier one is
reported, by the full name if that is repeated and by the type if only that is.
-/

namespace AmqpBus.Registry

/-- Whether no two registrations have one type, and no two have one full name. -/
@[mk_iff]
structure Unambiguous (registrations : List Registration) : Prop where
  types : (registrations.map (·.type)).Nodup
  names : (registrations.map (·.descriptor.fullName)).Nodup

/-- Why a registration is refused after those in `earlier`: its full name is taken, or else its
type is. -/
inductive Refused (earlier : List Registration) (new : Registration) : BusError → Prop where
  | sharedName (old : Registration) (hold : old ∈ earlier)
      (hname : old.descriptor.fullName = new.descriptor.fullName) :
      Refused earlier new
        (.configuration (.sharedName new.descriptor.fullName old.typeName new.typeName))
  | registeredTwice (old : Registration) (hold : old ∈ earlier)
      (htype : old.type = new.type)
      (hfree : ∀ r ∈ earlier, r.descriptor.fullName ≠ new.descriptor.fullName) :
      Refused earlier new (.configuration (.registeredTwice new.typeName))

variable {registry next : Registry} {new : Registration} {error : BusError}
  {registrations earlier later : List Registration}

theorem unambiguous (registry : Registry) :
  Unambiguous registry.registrations
  := ⟨registry.nodup_types, registry.nodup_names⟩

/-- A registry is determined by its registrations. -/
theorem eq_of_registrations (h : registry.registrations = next.registrations) :
  registry = next
  := by
  cases registry
  cases next
  obtain rfl : _ = _ := h
  rfl

/-- Among unambiguous registrations none is refused after those before it. -/
theorem Unambiguous.not_refused (h : Unambiguous (earlier ++ new :: later)) :
  ¬ Refused earlier new error
  := by
  obtain ⟨htypes, hnames⟩ := h
  rw [List.map_append, List.nodup_append] at htypes hnames
  intro hrefused
  cases hrefused with
  | sharedName old hold hname =>
      apply hnames.2.2 _ (List.mem_map_of_mem hold) _ (List.mem_map_of_mem List.mem_cons_self) hname
  | registeredTwice old hold htype _ =>
      apply htypes.2.2 _ (List.mem_map_of_mem hold) _ (List.mem_map_of_mem List.mem_cons_self) htype

/-- After unambiguous registrations a registration is refused for one cause only. -/
theorem Refused.unique {error' : BusError} (hearlier : Unambiguous earlier)
    (h : Refused earlier new error) (h' : Refused earlier new error') :
  error = error'
  := by
  cases h with
  | sharedName old hold hname =>
      cases h' with
      | sharedName old' hold' hname' =>
          rw [List.inj_on_of_nodup_map hearlier.names hold hold' (hname.trans hname'.symm)]
      | registeredTwice _ _ _ hfree => apply absurd hname (hfree old hold)
  | registeredTwice _ _ _ hfree =>
      cases h' with
      | sharedName old' hold' hname' => apply absurd hname' (hfree old' hold')
      | registeredTwice => rfl

/-! ### Adding registrations -/

/-- A registration is added after those that are there, or refused after them. -/
theorem add_cases (registry : Registry) (new : Registration) :
  (∃ next, registry.add new = .ok next ∧ next.registrations = registry.registrations ++ [new])
  ∨ ∃ error, registry.add new = .error error ∧ Refused registry.registrations new error
  := by
  rw [add]
  split
  · rename_i old hname
    right
    have hsame : old.descriptor.fullName = new.descriptor.fullName := by
      simpa using List.find?_some hname
    refine ⟨_, rfl, .sharedName old (List.mem_of_find?_eq_some hname) hsame⟩
  · rename_i hname
    have hfree : ∀ r ∈ registry.registrations,
        r.descriptor.fullName ≠ new.descriptor.fullName := by
      simpa [holder?] using hname
    split
    · rename_i old htype
      right
      have hsame : old.type = new.type := by
        simpa using List.find?_some htype
      refine ⟨_, rfl, .registeredTwice old (List.mem_of_find?_eq_some htype) hsame hfree⟩
    · left
      refine ⟨_, rfl, rfl⟩

/-- Registrations are added in order, up to the first that is refused after those before it. -/
theorem foldlM_add_cases (registry : Registry) (registrations : List Registration) :
  (∃ next, registrations.foldlM add registry = .ok next
    ∧ next.registrations = registry.registrations ++ registrations)
  ∨ ∃ before new after error, registrations = before ++ new :: after
    ∧ Unambiguous (registry.registrations ++ before)
    ∧ Refused (registry.registrations ++ before) new error
    ∧ registrations.foldlM add registry = .error error
  := by
  induction registrations generalizing registry with
  | nil =>
      left
      use registry, rfl
      rw [List.append_nil]
  | cons new rest ih =>
      rw [List.foldlM_cons]
      obtain ⟨next, hadd, hnext⟩ | ⟨error, hadd, hrefused⟩ := registry.add_cases new
      · rw [hadd]
        -- what comes after `new` is added to a registry that ends with it
        have hshift (list : List Registration) :
            next.registrations ++ list = registry.registrations ++ new :: list := by
          rw [hnext, List.append_assoc, List.singleton_append]
        obtain ⟨last, hlast, hall⟩ | ⟨before, refused, after, error, rfl, hbefore, hrefused,
          herror⟩ := ih next
        · left
          use last, hlast
          rw [hall, hshift]
        · right
          rw [hshift] at hbefore hrefused
          use new :: before, refused, after, error, rfl, hbefore, hrefused, herror
      · right
        rw [hadd]
        have hregistry := registry.unambiguous
        rw [← List.append_nil registry.registrations] at hregistry hrefused
        use [], new, rest, error, rfl, hregistry, hrefused
        rfl

theorem ofList_eq_ok_iff :
  ofList registrations = .ok registry ↔ registry.registrations = registrations
  := by
  obtain ⟨next, hok, hnext⟩ | ⟨before, new, after, error, hsplit, -, hrefused, herror⟩ :=
    empty.foldlM_add_cases registrations
  · rw [ofList, hok, Except.ok.injEq]
    constructor
    · rintro rfl
      apply hnext
    · intro h
      apply eq_of_registrations (hnext.trans h.symm)
  · rw [ofList, herror]
    apply iff_of_false
    · intro h
      contradiction
    · intro h
      have hall := registry.unambiguous
      rw [h, hsplit] at hall
      apply hall.not_refused hrefused

theorem exists_ofList_eq_ok_iff :
  (∃ registry, ofList registrations = .ok registry) ↔ Unambiguous registrations
  := by
  constructor
  · rintro ⟨registry, h⟩
    obtain rfl := ofList_eq_ok_iff.mp h
    apply registry.unambiguous
  · intro h
    use ⟨registrations, h.types, h.names⟩
    rw [ofList_eq_ok_iff]

/-- A list of registrations fails with the cause for which its first repetition is refused. -/
theorem ofList_eq_error_iff :
  ofList registrations = .error error
    ↔ ∃ before new after, registrations = before ++ new :: after
      ∧ Unambiguous before ∧ Refused before new error
  := by
  constructor
  · intro h
    obtain ⟨next, hok, -⟩ | ⟨before, new, after, cause, hsplit, hbefore, hrefused, herror⟩ :=
      empty.foldlM_add_cases registrations
    · rw [ofList, hok] at h
      contradiction
    · rw [ofList, herror] at h
      obtain rfl := Except.error.inj h
      use before, new, after, hsplit, hbefore, hrefused
  · rintro ⟨before, new, after, rfl, hbefore, hrefused⟩
    obtain ⟨registry, hok⟩ := exists_ofList_eq_ok_iff.mpr hbefore
    have hregistrations := ofList_eq_ok_iff.mp hok
    have hadd : registry.add new = .error error := by
      obtain ⟨next, -, hnext⟩ | ⟨cause, hadd, hcause⟩ := registry.add_cases new
      · have hall := next.unambiguous
        rw [hnext, hregistrations] at hall
        apply absurd hrefused hall.not_refused
      · rw [hregistrations] at hcause
        rw [hadd, hcause.unique hbefore hrefused]
    rw [ofList] at hok ⊢
    rw [List.foldlM_append, hok]
    dsimp only [bind, Except.bind]
    rw [List.foldlM_cons, hadd]
    rfl

/-! ### Registries of entries -/

/-- A registry holds what was entered and nothing else: it has as many types as entries, and
answers for the type of an entry with the descriptor of the entry, in the role that it was
entered in. -/
structure Holds (registry : Registry) (entries : List Entry) : Prop where
  size : registry.size = entries.length
  own : ∀ entry ∈ entries,
    registry.descriptor entry.type = .ok { entry.descriptor with role := entry.role }
  others : ∀ type, (∀ entry ∈ entries, entry.type ≠ type) →
    registry.descriptor type = .error (.unregistered type.typeName)

theorem holds_of_registrations {entries : List Entry}
    (h : registry.registrations = entries.map Entry.registration) :
  registry.Holds entries
  := by
  constructor
  · rw [size, h, List.length_map]
  · intro entry hentry
    have hmem : entry.registration ∈ registry.registrations := by
      rw [h]
      apply List.mem_map_of_mem hentry
    apply descriptor_of_mem hmem
  · intro type hfree
    apply descriptor_of_unregistered
    intro descriptor hdescriptor
    have hmem := mem_of_descriptor hdescriptor
    rw [h] at hmem
    obtain ⟨entry, hentry, hregistration⟩ := List.mem_map.mp hmem
    apply hfree entry hentry
    apply congrArg Registration.type hregistration

/-- Entries are accepted exactly when their types are distinct and their full names are, and
none of them is lost then.  Entries that are not accepted fail with the cause for which the
first of them is refused that repeats one before it. -/
theorem ofEntries_accepts_unambiguous (entries : List Entry) :
  ((∃ registry, ofEntries entries = .ok registry)
      ↔ (entries.map (·.type)).Nodup ∧ (entries.map (·.descriptor.fullName)).Nodup)
    ∧ (∀ registry, ofEntries entries = .ok registry → registry.Holds entries)
    ∧ ∀ error, ofEntries entries = .error error
      ↔ ∃ before new after, entries = before ++ new :: after
        ∧ (before.map (·.type)).Nodup ∧ (before.map (·.descriptor.fullName)).Nodup
        ∧ Refused (before.map Entry.registration) new.registration error
  := by
  have hdistinct : ∀ entries : List Entry, Unambiguous (entries.map Entry.registration)
      ↔ (entries.map (·.type)).Nodup ∧ (entries.map (·.descriptor.fullName)).Nodup := by
    intro entries
    rw [unambiguous_iff, List.map_map, List.map_map]
    rfl
  refine ⟨?_, ?_, ?_⟩
  · rw [← hdistinct]
    apply exists_ofList_eq_ok_iff
  · intro registry h
    apply holds_of_registrations (ofList_eq_ok_iff.mp h)
  · intro error
    rw [ofEntries, ofList_eq_error_iff]
    constructor
    · rintro ⟨_, _, _, hsplit, hbefore, hrefused⟩
      obtain ⟨before, rest, rfl, rfl, hrest⟩ := List.map_eq_append_iff.mp hsplit
      obtain ⟨new, after, rfl, rfl, rfl⟩ := List.map_eq_cons_iff.mp hrest
      obtain ⟨htypes, hnames⟩ := (hdistinct before).mp hbefore
      use before, new, after, rfl, htypes, hnames
    · rintro ⟨before, new, after, rfl, htypes, hnames, hrefused⟩
      refine ⟨before.map Entry.registration, new.registration, after.map Entry.registration, ?_,
        (hdistinct before).mpr ⟨htypes, hnames⟩, hrefused⟩
      rw [List.map_append, List.map_cons]

/-- Another type that prints the name of the orders that are placed. -/
def placedReturn : MessageType := { typeName := "shop::Placed", number := 1 }

/-- The orders of a shop, whose descriptors were made for another role than they are entered
in, and returns, whose type prints the name of another one. -/
def orderEntries : List Entry := [
  ⟨"shop::Place", .command, { space := "Shop.Orders", name := "Place", role := .reject }⟩,
  ⟨"shop::Placed", .abstractEvent, { space := "Shop.Orders", name := "Placed", role := .command }⟩,
  ⟨placedReturn, .event, { space := "Shop.Returns", name := "Placed", role := .command }⟩]

/-- The orders are accepted in the roles that they are entered in, and so are the returns.  A type
after them whose full name is put together from other parts is refused, as is their first type
once more. -/
theorem ofEntries_accepts_unambiguous_orders :
  (∃ registry, ofEntries orderEntries = .ok registry ∧ registry.size = 3
      ∧ registry.descriptor "shop::Placed"
        = .ok { space := "Shop.Orders", name := "Placed", role := .abstractEvent }
      ∧ registry.descriptor placedReturn
        = .ok { space := "Shop.Returns", name := "Placed", role := .event }
      ∧ registry.descriptor "shop::Shipped" = .error (.unregistered "shop::Shipped"))
    ∧ ofEntries (orderEntries
        ++ [⟨"shop::Other", .event, { space := "Shop", name := "Orders.Placed", role := .event }⟩])
      = .error (.configuration (.sharedName "Shop.Orders.Placed" "shop::Placed" "shop::Other"))
    ∧ ofEntries (orderEntries
        ++ [⟨"shop::Place", .event, { space := "", name := "Place", role := .event }⟩])
      = .error (.configuration (.registeredTwice "shop::Place"))
  := by
  refine ⟨?_, ?_, ?_⟩
  · obtain ⟨haccepts, hholds, -⟩ := ofEntries_accepts_unambiguous orderEntries
    obtain ⟨registry, hok⟩ := haccepts.mpr ⟨by decide, by decide⟩
    obtain ⟨hsize, hown, hothers⟩ := hholds registry hok
    use registry, hok, hsize
    refine ⟨?_, ?_, ?_⟩
    · apply hown ⟨"shop::Placed", .abstractEvent,
        { space := "Shop.Orders", name := "Placed", role := .command }⟩
      decide
    · apply hown ⟨placedReturn, .event,
        { space := "Shop.Returns", name := "Placed", role := .command }⟩
      decide
    · apply hothers
      decide
  · apply ((ofEntries_accepts_unambiguous _).2.2 _).mpr
    refine ⟨orderEntries, _, [], rfl, by decide, by decide, ?_⟩
    apply Refused.sharedName ⟨"shop::Placed",
      { space := "Shop.Orders", name := "Placed", role := .abstractEvent }⟩
    · decide
    · decide
  · apply ((ofEntries_accepts_unambiguous _).2.2 _).mpr
    refine ⟨orderEntries, _, [], rfl, by decide, by decide, ?_⟩
    apply Refused.registeredTwice ⟨"shop::Place",
      { space := "Shop.Orders", name := "Place", role := .command }⟩
    · decide
    · rfl
    · decide

end AmqpBus.Registry

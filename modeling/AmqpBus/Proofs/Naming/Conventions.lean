import AmqpBus.Proofs.Route
import AmqpBus.Proofs.Ticks
import Mathlib.Data.List.Nodup

/-!
# Conventions that are unambiguous

Settings validate when the broker gets a limit and no two conventions are for one type.  Of
several conventions for a type the one that is listed last counts.  So in settings that validate
each convention counts for its type, and nothing depends on the order in which they are listed.
-/

namespace AmqpBus

namespace Options

variable {options : Options} {conventions : List Convention} {c : Convention} {typeName : String}

/-! ### Validation -/

/-- The types that conventions are for. -/
def conventionTypes (conventions : List Convention) : List String := conventions.map (·.typeName)

/-- A convention is the first in a list whose type one before it is for. -/
def FirstRepeated (conventions : List Convention) (c : Convention) : Prop :=
  ∃ before after, conventions = before ++ c :: after ∧ (conventionTypes before).Nodup
    ∧ c.typeName ∈ conventionTypes before

theorem conventionTypes_append_singleton (before : List Convention) (c : Convention) :
  (conventionTypes (before ++ [c])).reverse = c.typeName :: (conventionTypes before).reverse
  := by
  rw [conventionTypes, List.map_append, List.reverse_append]
  rfl

/-- A list that goes on after conventions for types of their own repeats no type or has a first
convention that does. -/
theorem repeated?_cases (before conventions : List Convention)
    (hbefore : (conventionTypes before).Nodup) :
  (repeated? (conventionTypes before).reverse conventions = none
      ∧ (conventionTypes (before ++ conventions)).Nodup)
    ∨ ∃ c, repeated? (conventionTypes before).reverse conventions = some c.typeName
      ∧ FirstRepeated (before ++ conventions) c
  := by
  induction conventions generalizing before with
  | nil =>
      left
      rw [List.append_nil]
      exact ⟨rfl, hbefore⟩
  | cons c conventions ih =>
      rw [repeated?]
      split
      · rename_i hrepeated
        right
        use c, rfl, before, conventions, rfl, hbefore, List.mem_reverse.mp hrepeated
      · rename_i hnew
        have hnext : (conventionTypes (before ++ [c])).Nodup := by
          rw [← List.nodup_reverse, conventionTypes_append_singleton, List.nodup_cons]
          exact ⟨hnew, List.nodup_reverse.mpr hbefore⟩
        have hrest := ih _ hnext
        rw [conventionTypes_append_singleton, List.append_assoc] at hrest
        apply hrest

theorem not_nodup_of_firstRepeated (h : FirstRepeated conventions c) :
  ¬(conventionTypes conventions).Nodup
  := by
  obtain ⟨before, after, rfl, -, hmem⟩ := h
  rw [conventionTypes, List.map_append, List.nodup_append]
  rintro ⟨-, -, hne⟩
  apply hne _ hmem _ (List.mem_map_of_mem List.mem_cons_self) rfl

/-- What is reported of settings: first that there is no limit, and then the first convention
that repeats a type. -/
theorem validate_cases (options : Options) :
  (options.prefetch = 0 ∧ options.validate = .error (.configuration .zeroPrefetch))
    ∨ (options.prefetch ≠ 0 ∧ (conventionTypes options.conventions).Nodup
      ∧ options.validate = .ok ())
    ∨ options.prefetch ≠ 0 ∧ ∃ c, FirstRepeated options.conventions c
      ∧ options.validate = .error (.configuration (.repeatedConvention c.typeName))
  := by
  rw [validate]
  split
  · rename_i hzero
    left
    exact ⟨hzero, rfl⟩
  · rename_i hlimited
    right
    obtain ⟨hnone, hnodup⟩ | ⟨c, hsome, hfirst⟩ :=
      repeated?_cases [] options.conventions List.nodup_nil
    · left
      rw [show repeated? [] options.conventions = none from hnone]
      exact ⟨hlimited, hnodup, rfl⟩
    · right
      rw [show repeated? [] options.conventions = some c.typeName from hsome]
      exact ⟨hlimited, c, hfirst, rfl⟩

/-- Settings validate with a limit and conventions for types of their own. -/
theorem validate_eq_ok_iff :
  options.validate = .ok ()
    ↔ options.prefetch ≠ 0 ∧ (conventionTypes options.conventions).Nodup
  := by
  obtain ⟨hzero, hvalidate⟩ | ⟨hlimited, hnodup, hvalidate⟩ | ⟨hlimited, c, hfirst, hvalidate⟩ :=
    options.validate_cases
  · rw [hvalidate]
    constructor
    · intro h
      contradiction
    · rintro ⟨hlimited, -⟩
      contradiction
  · rw [hvalidate]
    apply iff_of_true rfl ⟨hlimited, hnodup⟩
  · rw [hvalidate]
    constructor
    · intro h
      contradiction
    · rintro ⟨-, hnodup⟩
      apply absurd hnodup (not_nodup_of_firstRepeated hfirst)

/-! ### Lookup -/

theorem findRev?_cons (c : Convention) (conventions : List Convention) (typeName : String) :
  (c :: conventions).findRev? (·.typeName = typeName)
    = (conventions.findRev? (·.typeName = typeName)).or
      (if c.typeName = typeName then some c else none)
  := by
  rw [List.findRev?_eq_find?_reverse, List.findRev?_eq_find?_reverse, List.reverse_cons,
    List.find?_append, List.find?_singleton]
  simp only [decide_eq_true_eq]

theorem get?_insertMany_conventions (table : Dictionary Convention)
    (conventions : List Convention) (typeName : String) :
  (table.insertMany (conventions.map fun c => (c.typeName, c))).get? typeName
    = (conventions.findRev? (·.typeName = typeName)).or (table.get? typeName)
  := by
  induction conventions generalizing table with
  | nil => rfl
  | cons c conventions ih =>
      have hstep : (table.insertMany ((c :: conventions).map fun c => (c.typeName, c))).get?
            typeName
          = (conventions.findRev? (·.typeName = typeName)).or
            ((table.insert c.typeName c).get? typeName) :=
        ih _
      rw [hstep, findRev?_cons, Option.or_assoc, Dictionary.get?_insert]
      congr 1
      simp only [eq_comm (a := typeName)]
      split <;> rfl

/-- The table answers with the convention that counts. -/
theorem get?_conventionTable (options : Options) (typeName : String) :
  options.conventionTable.get? typeName = options.convention? typeName
  := by
  rw [conventionTable, Dictionary.ofList, get?_insertMany_conventions, Dictionary.get?_empty,
    Option.or_none]
  rfl

/-- The convention that counts for a type is the last one that is listed for it. -/
theorem convention?_eq_some_iff :
  options.convention? typeName = some c
    ↔ ∃ before after, options.conventions = before ++ c :: after ∧ c.typeName = typeName
      ∧ typeName ∉ conventionTypes after
  := by
  rw [convention?, List.findRev?_eq_find?_reverse, List.find?_eq_some_iff_append]
  constructor
  · rintro ⟨htype, after, before, hreverse, hafter⟩
    use before.reverse, after.reverse
    refine ⟨?_, by simpa using htype, ?_⟩
    · rw [List.reverse_eq_append_iff] at hreverse
      simpa using hreverse
    · simpa [conventionTypes] using hafter
  · rintro ⟨before, after, hlist, htype, hafter⟩
    refine ⟨by simpa using htype, after.reverse, before.reverse, ?_, ?_⟩
    · rw [hlist]
      simp
    · simpa [conventionTypes] using hafter

theorem convention?_eq_none_iff :
  options.convention? typeName = none ↔ typeName ∉ conventionTypes options.conventions
  := by
  rw [convention?, List.findRev?_eq_find?_reverse, List.find?_eq_none]
  simp [conventionTypes]

/-- Of conventions for types of their own each counts. -/
theorem convention?_eq_some_iff_of_nodup (h : (conventionTypes options.conventions).Nodup) :
  options.convention? typeName = some c ↔ c ∈ options.conventions ∧ c.typeName = typeName
  := by
  constructor
  · intro hfound
    obtain ⟨before, after, hlist, htype, -⟩ := convention?_eq_some_iff.mp hfound
    rw [hlist]
    exact ⟨List.mem_append_right _ List.mem_cons_self, htype⟩
  · rintro ⟨hmem, rfl⟩
    obtain ⟨before, after, hlist⟩ := List.append_of_mem hmem
    apply convention?_eq_some_iff.mpr
    use before, after, hlist, rfl
    rw [hlist, conventionTypes, List.map_append, List.nodup_append, List.map_cons,
      List.nodup_cons] at h
    apply h.2.1.1

/-- The settings with other conventions. -/
def withConventions (options : Options) (conventions : List Convention) : Options :=
  { options with conventions }

theorem convention?_of_perm (h : (conventionTypes options.conventions).Nodup)
    (hperm : conventions.Perm options.conventions) (typeName : String) :
  (options.withConventions conventions).convention? typeName = options.convention? typeName
  := by
  have hnodup : (conventionTypes conventions).Nodup := (hperm.map _).nodup_iff.mpr h
  apply Option.ext
  intro c
  rw [convention?_eq_some_iff_of_nodup h, convention?_eq_some_iff_of_nodup hnodup]
  apply and_congr_left
  intro _
  apply hperm.mem_iff

end Options

/-! ### Resolution -/

namespace Naming

/-- The bus with other conventions. -/
def withConventions (naming : Naming) (conventions : List Convention) : Naming :=
  { naming with options := naming.options.withConventions conventions }

/-- Nothing else of conventions matters to a route than which one counts for its type. -/
theorem route_withConventions {naming : Naming} {conventions : List Convention}
    (h : ∀ typeName, (naming.options.withConventions conventions).convention? typeName
      = naming.options.convention? typeName)
    (descriptor : Descriptor) (override : Override) :
  (naming.withConventions conventions).route descriptor override = naming.route descriptor override
  := by
  simp only [route, withConventions, h]
  rfl

/-- Settings validate exactly if the broker gets a limit and no two conventions are for one type;
otherwise the missing limit is reported, or else the first convention that repeats a type.  Of any
conventions the table has for each type the last one that is listed for it.  So in settings that
validate each convention is found under its type, and another order of them validates as well,
finds the same conventions and resolves to the same routes. -/
theorem conventions_unambiguous (naming : Naming) :
  let options := naming.options
  (options.validate = .ok ()
      ↔ options.prefetch ≠ 0 ∧ (Options.conventionTypes options.conventions).Nodup)
    ∧ (options.prefetch = 0 → options.validate = .error (.configuration .zeroPrefetch))
    ∧ (options.prefetch ≠ 0 → ¬(Options.conventionTypes options.conventions).Nodup →
      ∃ c, Options.FirstRepeated options.conventions c
        ∧ options.validate = .error (.configuration (.repeatedConvention c.typeName)))
    ∧ (∀ typeName, options.conventionTable.get? typeName = options.convention? typeName
      ∧ (∀ c, options.convention? typeName = some c
        ↔ ∃ before after, options.conventions = before ++ c :: after ∧ c.typeName = typeName
          ∧ typeName ∉ Options.conventionTypes after)
      ∧ (options.convention? typeName = none
        ↔ typeName ∉ Options.conventionTypes options.conventions))
    ∧ (options.validate = .ok () →
      (∀ c ∈ options.conventions, options.convention? c.typeName = some c)
      ∧ ∀ conventions, conventions.Perm options.conventions →
        let reordered := options.withConventions conventions
        reordered.validate = .ok ()
          ∧ (∀ typeName, reordered.convention? typeName = options.convention? typeName)
          ∧ ∀ type override,
            (naming.withConventions conventions).resolve type override
                = naming.resolve type override
              ∧ (naming.withConventions conventions).resolveRejection type
                = naming.resolveRejection type)
  := by
  intro options
  refine ⟨Options.validate_eq_ok_iff, ?_, ?_, ?_, ?_⟩
  · intro hzero
    rw [Options.validate, if_pos hzero]
  · intro hlimited hrepeated
    obtain ⟨hzero, -⟩ | ⟨-, hnodup, -⟩ | ⟨-, hfirst⟩ := options.validate_cases
    · contradiction
    · contradiction
    · apply hfirst
  · intro typeName
    exact ⟨options.get?_conventionTable typeName, fun c => Options.convention?_eq_some_iff,
      Options.convention?_eq_none_iff⟩
  · intro hvalid
    obtain ⟨hlimited, hnodup⟩ := Options.validate_eq_ok_iff.mp hvalid
    constructor
    · intro c hc
      apply (Options.convention?_eq_some_iff_of_nodup hnodup).mpr ⟨hc, rfl⟩
    · intro conventions hperm reordered
      have hsame : ∀ typeName, reordered.convention? typeName = options.convention? typeName :=
        Options.convention?_of_perm hnodup hperm
      refine ⟨?_, hsame, ?_⟩
      · apply Options.validate_eq_ok_iff.mpr
        exact ⟨hlimited, (hperm.map _).nodup_iff.mpr hnodup⟩
      · intro type override
        rw [resolve, resolve, resolveRejection, resolveRejection]
        simp only [route_withConventions hsame]
        exact ⟨rfl, rfl⟩

/-- Ticks with a queue of their own, and late ones with a key of their own. -/
def tickConventions : List Convention :=
  [{ typeName := "clock.Tick", queueName := some "ticks" },
    { typeName := "clock.TickMissed", routingKey := some "missed" }]

/-- A bus with the conventions for ticks. -/
def conventionalClock : Naming :=
  clockNaming.withConventions tickConventions

/-- The queue of ticks is found whatever stands before it. -/
theorem conventions_unambiguous_ticks :
  conventionalClock.options.validate = .ok ()
    ∧ tickConventions.reverse.Perm conventionalClock.options.conventions
    ∧ (conventionalClock.options.withConventions tickConventions.reverse).convention? "clock.Tick"
      = some { typeName := "clock.Tick", queueName := some "ticks" }
  := by
  have hvalid : conventionalClock.options.validate = .ok () := by decide
  have hperm : tickConventions.reverse.Perm conventionalClock.options.conventions :=
    List.reverse_perm tickConventions
  obtain ⟨-, -, -, -, hvalidated⟩ := conventions_unambiguous conventionalClock
  obtain ⟨hfound, hreordered⟩ := hvalidated hvalid
  obtain ⟨-, hsame, -⟩ := hreordered _ hperm
  use hvalid, hperm
  rw [hsame]
  apply hfound { typeName := "clock.Tick", queueName := some "ticks" } List.mem_cons_self

end Naming

end AmqpBus

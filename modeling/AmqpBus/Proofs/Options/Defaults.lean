import AmqpBus.Options.Json
import AmqpBus.Proofs.Options.Fields
import Mathlib.Data.List.Nodup

/-!
# Options that are not given

A record of options need not be complete.  A field that it leaves out is the standard one, and
this does not touch the fields that it gives; names that are no fields do not matter.  A list of
options may stop early.  It is read as the record of as many fields in their order.
-/

namespace AmqpBus

open Json (Value Text)

/-! ### Members of a record -/

namespace Json.Value

variable {members members' : List (Text × Value)} {names : List String} {name : String}

/-- The members without those of some names. -/
def without (names : List String) (members : List (Text × Value)) : List (Text × Value) :=
  members.filter fun member => member.1.all fun name => name ∉ names

/-- The members that have one of some names. -/
def among (names : List String) (members : List (Text × Value)) : List (Text × Value) :=
  members.filter fun member => member.1.any fun name => name ∈ names

theorem member?_filter (members : List (Text × Value)) (p : Text → Bool) (name : String) :
  member? (members.filter fun member => p member.1) name
    = if p (some name) then member? members name else none
  := by
  have hfind : (members.filter fun member => p member.1).findRev? (·.1 = some name)
      = members.reverse.find? fun member => p (some name) && decide (member.1 = some name) := by
    rw [List.findRev?_eq_find?_reverse, ← List.filter_reverse, List.find?_filter]
    congr 1
    funext member
    by_cases hname : member.1 = some name <;> simp [hname]
  rw [member?, hfind]
  split
  · rename_i hp
    simp only [hp, Bool.true_and, ← List.findRev?_eq_find?_reverse, member?]
  · rename_i hp
    simp [hp]

theorem member?_without (members : List (Text × Value)) (names : List String) (name : String) :
  member? (without names members) name = if name ∈ names then none else member? members name
  := by
  rw [without, member?_filter members fun text => text.all fun name => name ∉ names]
  by_cases hname : name ∈ names <;> simp [hname]

theorem member?_among (h : name ∈ names) :
  member? (among names members) name = member? members name
  := by
  rw [among, member?_filter members fun text => text.any fun name => name ∈ names]
  simp [h]

theorem mem_of_member? {value : Value} (h : member? members name = some value) :
  (some name, value) ∈ members
  := by
  obtain ⟨member, hfound, rfl⟩ := Option.map_eq_some_iff.mp h
  rw [List.findRev?_eq_find?_reverse] at hfound
  have hmem := List.mem_reverse.mp (List.mem_of_find?_eq_some hfound)
  have hname := List.find?_some hfound
  rw [decide_eq_true_eq] at hname
  rwa [← hname]

theorem exists_member? {value : Value} (h : (some name, value) ∈ members) :
  ∃ last, member? members name = some last
  := by
  cases hmember : member? members name with
  | some last => use last
  | none =>
      rw [member?, Option.map_eq_none_iff, List.findRev?_eq_find?_reverse,
        List.find?_eq_none] at hmember
      apply absurd (decide_eq_true rfl) (hmember _ (List.mem_reverse.mpr h))

/-- Where the first fields are given and nothing else, each has the value at its position. -/
theorem member?_of_perm_zip {values : List Value} (hdistinct : names.Nodup)
    (h : members.Perm ((names.map some).zip values)) {i : ℕ} (hi : i < names.length) :
  member? members names[i] = values[i]?
  := by
  have hvalue {value : Value} (hmember : member? members names[i] = some value) :
      values[i]? = some value := by
    have hmem := h.mem_iff.mp (mem_of_member? hmember)
    obtain ⟨j, hj⟩ := List.mem_iff_getElem?.mp hmem
    obtain ⟨hname, hvalue⟩ := List.getElem?_zip_eq_some.mp hj
    rw [List.getElem?_map] at hname
    obtain ⟨name, hname, hsame⟩ := Option.map_eq_some_iff.mp hname
    rw [Option.some.inj hsame] at hname
    -- the name stands at one position only
    obtain rfl : i = j := by
      apply (List.getElem?_inj hi hdistinct).mp
      rw [hname, List.getElem?_eq_getElem hi]
    apply hvalue
  cases hmember : member? members names[i] with
  | some value => rw [hvalue hmember]
  | none =>
      cases hgiven : values[i]? with
      | none => rfl
      | some value =>
          have hmem : (some names[i], value) ∈ members := by
            rw [h.mem_iff, List.mem_iff_getElem?]
            use i
            rw [List.getElem?_zip_eq_some]
            exact ⟨by simp [hi], hgiven⟩
          obtain ⟨last, hlast⟩ := exists_member? hmem
          rw [hmember] at hlast
          contradiction

/-- A list is taken as a record of the first fields. -/
theorem fields?_list {values : List Value} (hdistinct : names.Nodup)
    (hlength : values.length ≤ names.length)
    (h : members.Perm ((names.map some).zip values)) :
  fields? names (.list values) = fields? names (.record members)
  := by
  simp only [fields?, if_pos hlength, Option.some_inj]
  apply List.ext_getElem
  · rw [List.length_append, List.length_map, List.length_replicate, List.length_map]
    omega
  · intro i hi hi'
    rw [List.getElem_map, member?_of_perm_zip hdistinct h, List.getElem_append]
    split
    · rename_i hgiven
      rw [List.length_map] at hgiven
      rw [List.getElem_map, List.getElem?_eq_getElem hgiven]
    · rename_i hmissing
      rw [List.length_map, Nat.not_lt] at hmissing
      rw [List.getElem_replicate, List.getElem?_eq_none hmissing]

end Json.Value

/-! ### Reading options -/

namespace Options

open Json.Value

variable {members : List (Text × Value)} {options : Options}

/-- Options with the standard fields for some names. -/
def withStandard (names : List String) (options : Options) : Options where
  host := if "host" ∈ names then standard.host else options.host
  port := if "port" ∈ names then standard.port else options.port
  vhost := if "vhost" ∈ names then standard.vhost else options.vhost
  user := if "user" ∈ names then standard.user else options.user
  password := if "password" ∈ names then standard.password else options.password
  connectionName :=
    if "connection_name" ∈ names then standard.connectionName else options.connectionName
  exchangeName := if "exchange_name" ∈ names then standard.exchangeName else options.exchangeName
  retries := if "retries" ∈ names then standard.retries else options.retries
  retryInterval :=
    if "retry_interval" ∈ names then standard.retryInterval else options.retryInterval
  requeues := if "with_requeuing" ∈ names then standard.requeues else options.requeues
  prefetch := if "prefetch" ∈ names then standard.prefetch else options.prefetch
  conventions :=
    if "message_naming_conventions" ∈ names then standard.conventions else options.conventions

theorem value_withStandard {kind : Kind} (f : Field kind) (names : List String)
    (options : Options) :
  f.value (options.withStandard names)
    = if f.name ∈ names then f.value standard else f.value options
  := by
  cases f <;> rfl

theorem ofJson?_record_eq_some_iff :
  ofJson? (.record members) = some options
    ↔ ∀ (kind : Kind) (f : Field kind),
      Notation.json.readField (member? members) f = some (f.value options)
  := Notation.options?_eq_some_iff rfl

/-- Fields that are left out are the standard ones, and the others stay. -/
theorem ofJson?_without (h : ofJson? (.record members) = some options) (names : List String) :
  ofJson? (.record (without names members)) = some (options.withStandard names)
  := by
  rw [ofJson?_record_eq_some_iff] at h ⊢
  intro kind f
  rw [value_withStandard, Notation.readField, member?_without]
  split
  · rfl
  · apply h

/-- Options depend only on the members that are fields. -/
theorem ofJson?_among (members : List (Text × Value)) :
  ofJson? (.record (among Notation.optionFields members)) = ofJson? (.record members)
  := by
  apply Option.ext
  intro options
  rw [ofJson?_record_eq_some_iff, ofJson?_record_eq_some_iff]
  simp only [Notation.readField, member?_among (Field.name_mem_optionFields _)]

/-- A list of the first fields is read as the record of them. -/
theorem ofJson?_list {values : List Value} (hlength : values.length ≤ Notation.optionFields.length)
    (h : members.Perm ((Notation.optionFields.map some).zip values)) :
  ofJson? (.list values) = ofJson? (.record members)
  := by
  have hfields : Notation.json.fields? Notation.optionFields (.list values)
      = Notation.json.fields? Notation.optionFields (.record members) :=
    fields?_list (by decide) hlength h
  rw [ofJson?, ofJson?, Notation.options?, Notation.options?, hfields]

/-- A record of options reads without any of its fields too: those are the standard ones, and the
others are what they were.  Names that are no fields change nothing, and a list of the first
fields is read exactly as the record of them, in whatever order the record holds them. -/
theorem left_out_fields_are_standard :
  (∀ (members : List (Text × Value)) (options : Options),
      ofJson? (.record members) = some options →
      ∀ dropped : List String, ∃ rest, ofJson? (.record (without dropped members)) = some rest
        ∧ ∀ (kind : Kind) (f : Field kind), f.value rest
          = if f.name ∈ dropped then f.value standard else f.value options)
    ∧ (∀ members members' : List (Text × Value),
        among Notation.optionFields members' = among Notation.optionFields members →
        ofJson? (.record members') = ofJson? (.record members))
    ∧ ∀ values : List Value, values.length ≤ Notation.optionFields.length →
        ∀ members : List (Text × Value),
          members.Perm ((Notation.optionFields.map some).zip values) →
          ofJson? (.list values) = ofJson? (.record members)
  := by
  refine ⟨?_, ?_, ?_⟩
  · intro members options h dropped
    use options.withStandard dropped, ofJson?_without h dropped
    intro kind f
    apply value_withStandard
  · intro members members' hamong
    rw [← ofJson?_among members', hamong, ofJson?_among]
  · intro values hlength members h
    apply ofJson?_list hlength h

/-- The members of options with a convention that is a list, and of a remark. -/
def remarkedMembers : List (Text × Value) :=
  [(some "host", .string "broker"), (some "remark", .null), (some "port", .natural 5673),
    (some "message_naming_conventions",
      .list [.list [.string "clock.Tick", .null, .string "ticks"]])]

/-- The remark does not matter, the port is left out, and two values give the host and the
port. -/
theorem left_out_fields_are_standard_broker :
  ofJson? (.record remarkedMembers)
      = some { host := "broker", port := 5673, conventions := [⟨"clock.Tick", none, some "ticks"⟩] }
    ∧ (∃ rest, ofJson? (.record (without ["port", "vhost"] remarkedMembers)) = some rest
      ∧ rest.port = 5672 ∧ rest.host = "broker")
    ∧ ofJson? (.record (remarkedMembers.eraseIdx 1)) = ofJson? (.record remarkedMembers)
    ∧ ofJson? (.list [.string "broker", .natural 5673])
      = ofJson? (.record [(some "port", .natural 5673), (some "host", .string "broker")])
  := by
  have hread : ofJson? (.record remarkedMembers) = some
      { host := "broker", port := 5673, conventions := [⟨"clock.Tick", none, some "ticks"⟩] } := by
    decide +kernel
  obtain ⟨hwithout, hunknown, hlist⟩ := left_out_fields_are_standard
  obtain ⟨rest, hrest, hvalue⟩ := hwithout _ _ hread ["port", "vhost"]
  refine ⟨hread, ⟨rest, hrest, hvalue _ .port, hvalue _ .host⟩, ?_, ?_⟩
  · apply hunknown
    rfl
  · apply hlist
    · decide
    · apply List.Perm.swap

end Options

end AmqpBus

import AmqpBus.Proofs.Options.Alike
import AmqpBus.Proofs.Options.Loading
import Mathlib.Data.List.Nodup
import Mathlib.Data.List.TakeWhile

/-!
# Layers

The section of a file lies over the defaults and the environment lies over the section, option
by option.  What is loaded is what one layer would give that holds the value of the environment
for an option that a variable names, and the value of the file for any other.
-/

namespace AmqpBus

open Settings

/-! ### Names of sections -/

/-- A name of ASCII letters, digits and underscores. -/
structure IsSectionName (sectionName : String) : Prop where
  nonempty : sectionName ≠ ""
  plain : sectionName.toList.all fun c => c.isAlphanum || c == '_'

namespace IsSectionName

variable {sectionName : String}

theorem cases_of_mem (h : IsSectionName sectionName) {c : Char} (hc : c ∈ sectionName.toList) :
  c.isAlphanum ∨ c = '_'
  := by
  have hplain := List.all_eq_true.mp h.plain c hc
  rwa [Bool.or_eq_true, beq_iff_eq] at hplain

theorem isAscii (h : IsSectionName sectionName) :
  Text.IsAscii sectionName
  := by
  intro c hc
  obtain halnum | rfl := h.cases_of_mem hc
  · apply Text.lt_of_isAlphanum halnum
  · decide

/-- The name of a section leads to an entry of the root. -/
theorem path_lower (h : IsSectionName sectionName) :
  Path.ofString? (Text.lower sectionName) = some ⟨Text.lower sectionName, []⟩
  := by
  have hparts : ∀ c ∈ (Text.lower sectionName).toList, Path.isNamePart c := by
    intro c hc
    rw [Text.toList_lower h.isAscii] at hc
    obtain ⟨d, hd, rfl⟩ := List.mem_map.mp hc
    obtain halnum | rfl := h.cases_of_mem hd
    · have hlower := Text.isAlphanum_toLower (h.isAscii d hd) halnum
      simp [Path.isNamePart, hlower]
    · decide
  have hne : (Text.lower sectionName).toList ≠ [] := by
    rw [Text.toList_lower h.isAscii, Ne, List.map_eq_nil_iff, String.toList_eq_nil_iff]
    apply h.nonempty
  rw [Path.ofString?]
  simp only [List.takeWhile_eq_self_iff.mpr hparts, List.dropWhile_eq_nil_iff.mpr hparts,
    List.isEmpty_eq_false_iff.mpr hne]
  simp [Path.stepsWithin?]

end IsSectionName

namespace Options

variable {sectionName : String} {file : Option File} {given : List (String × Setting)}
  {environment : List (String × String)}

/-! ### The layer of the file -/

/-- A file can be read, and its section is missing or a table of options only.  The names are
those that reading leaves, in lower case. -/
structure Gives (sectionName : String) (file : Option File) (given : List (String × Setting)) :
    Prop where
  held : ∃ root, root? file = some root
    ∧ (root.entries.lookup (Text.lower sectionName) = some (.table given)
      ∨ root.entries.lookup (Text.lower sectionName) = none ∧ given = [])
  options : ∀ entry ∈ given, entry.1 ∈ Notation.optionFields
  distinct : (given.map Prod.fst).Nodup

/-- The environment lies over a table in which every option is read as the file gives it. -/
theorem base?_of_gives (hsection : IsSectionName sectionName)
    (h : Gives sectionName file given) :
  ∃ base, base? sectionName file = some (.table base)
    ∧ ∀ name, Option.Rel Notation.settings.Alike (base.lookup name) (given.lookup name)
  := by
  obtain ⟨root, hroot, hheld⟩ := h.held
  have hget : Path.get? ⟨Text.lower sectionName, []⟩ root
      = root.entries.lookup (Text.lower sectionName) := by
    simp [Path.get?, Path.stepFrom?]
  rw [base?, hroot, Option.bind_some, sectionTable?, hsection.path_lower, Option.bind_eq_bind,
    Option.bind_some, hget]
  obtain hheld | ⟨hheld, rfl⟩ := hheld
  · rw [hheld]
    obtain ⟨base, hbase, hlookup⟩ := foldlM_put_of_isKey
      (fun entry hentry => isKey_of_mem_optionFields entry.1 (h.options entry hentry))
      h.distinct (fun entry _ => List.lookup_nil)
    use base, hbase
    intro name
    have hname := hlookup name
    rwa [List.lookup_nil, Option.or_none] at hname
  · rw [hheld]
    use [], rfl
    intro name
    apply Notation.rel_refl

/-! ### The layer of the environment -/

/-- The name, in lower case, of the variables of a section for an option. -/
def loweredName (sectionName option : String) : String :=
  Text.lower sectionName ++ "__" ++ option

/-- Each variable of a section names an option, and no two name the same. -/
structure NamesOptions (sectionName : String) (environment : List (String × String)) : Prop where
  options : ∀ given ∈ variablesOf sectionName environment, ∃ option ∈ Notation.optionFields,
    Text.lower given.1 = loweredName sectionName option
  distinct : ((variablesOf sectionName environment).map fun given => Text.lower given.1).Nodup

/-- The text of the variable of a section that names an option. -/
def variableText? (sectionName : String) (environment : List (String × String)) (option : String) :
    Option String :=
  (environment.find? fun given => Text.lower given.1 = loweredName sectionName option).map Prod.snd

theorem entryName?_of_lower {name option : String} (hoption : option ∈ Notation.optionFields)
    (h : Text.lower name = loweredName sectionName option) :
  entryName? sectionName name = some option
  := by
  apply entryName?_of_isKey (isKey_of_mem_optionFields option hoption)
  rw [h, loweredName, String.toList_append, String.toList_append]
  rfl

namespace NamesOptions

/-- A variable sets an option exactly when it names it. -/
theorem entryName?_eq_some_iff (h : NamesOptions sectionName environment)
    {named : String × String} (hnamed : named ∈ environment) {option : String}
    (hoption : option ∈ Notation.optionFields) :
  entryName? sectionName named.1 = some option
    ↔ Text.lower named.1 = loweredName sectionName option
  := by
  constructor
  · intro hname
    obtain ⟨option', hoption', hlower⟩ := h.options named (mem_variablesOf hnamed hname)
    rw [entryName?_of_lower hoption' hlower, Option.some_inj] at hname
    rw [hlower, hname]
  · apply entryName?_of_lower hoption

theorem isFlat (h : NamesOptions sectionName environment) :
  IsFlat (environmentEntries sectionName environment)
  := by
  intro entry hentry
  obtain ⟨named, hnamed, hentry⟩ := List.mem_filterMap.mp hentry
  obtain ⟨name, hname, rfl⟩ := Option.map_eq_some_iff.mp hentry
  obtain ⟨option, hoption, hlower⟩ := h.options named (mem_variablesOf hnamed hname)
  rw [entryName?_of_lower hoption hlower, Option.some_inj] at hname
  subst hname
  exact ⟨isKey_of_mem_optionFields option hoption, (typed_ofVariable named.2).not_isTable⟩

end NamesOptions

theorem lookup_environmentEntries {option : String}
    (h : ∀ named ∈ environment, entryName? sectionName named.1 = some option
      ↔ Text.lower named.1 = loweredName sectionName option) :
  (environmentEntries sectionName environment).lookup option
    = (variableText? sectionName environment option).map .ofVariable
  := by
  induction environment with
  | nil => rfl
  | cons first rest ih =>
      obtain ⟨hfirst, hrest⟩ := List.forall_mem_cons.mp h
      rw [environmentEntries, List.filterMap_cons, variableText?, List.find?_cons]
      by_cases hnames : Text.lower first.1 = loweredName sectionName option
      · rw [hfirst.mpr hnames, decide_eq_true hnames]
        apply List.lookup_cons_self
      · rw [decide_eq_false hnames]
        cases hname : entryName? sectionName first.1 with
        | none => apply ih hrest
        | some other =>
            have hne : option ≠ other := by
              rintro rfl
              apply hnames (hfirst.mp hname)
            simp only [Option.map_some]
            rw [lookup_cons, if_neg hne]
            apply ih hrest

/-- What only one item of a list can be is found from both ends. -/
theorem find?_reverse_of_only {β : Type} {items : List β} {p : β → Bool}
    (h : ∀ item ∈ items, ∀ other ∈ items, p item → p other → item = other) :
  items.reverse.find? p = items.find? p
  := by
  cases hfirst : items.find? p with
  | none =>
      rw [List.find?_eq_none] at hfirst ⊢
      intro item hitem
      apply hfirst item (List.mem_reverse.mp hitem)
  | some first =>
      have hmem := List.mem_of_find?_eq_some hfirst
      have hp := List.find?_some hfirst
      cases hlast : items.reverse.find? p with
      | none =>
          rw [List.find?_eq_none] at hlast
          apply absurd hp (hlast first (List.mem_reverse.mpr hmem))
      | some last =>
          have hmem' := List.mem_reverse.mp (List.mem_of_find?_eq_some hlast)
          rw [h last hmem' first hmem (List.find?_some hlast) hp]

/-- It does not matter in which order the variables stand. -/
theorem NamesOptions.variableText?_reverse (h : NamesOptions sectionName environment)
    {option : String} (hoption : option ∈ Notation.optionFields) :
  variableText? sectionName environment.reverse option
    = variableText? sectionName environment option
  := by
  have hmem {named : String × String} (hnamed : named ∈ environment)
      (hlower : Text.lower named.1 = loweredName sectionName option) :
      named ∈ variablesOf sectionName environment :=
    mem_variablesOf hnamed (entryName?_of_lower hoption hlower)
  rw [variableText?, variableText?, find?_reverse_of_only]
  intro named hnamed other hother hlower hlower'
  rw [decide_eq_true_eq] at hlower hlower'
  apply List.inj_on_of_nodup_map h.distinct (hmem hnamed hlower) (hmem hother hlower')
  rw [hlower, hlower']

/-- The environment sets an option to what the text of its variable is typed as. -/
theorem NamesOptions.lookup_reverse (h : NamesOptions sectionName environment) {option : String}
    (hoption : option ∈ Notation.optionFields) :
  (environmentEntries sectionName environment).reverse.lookup option
    = (variableText? sectionName environment option).map .ofVariable
  := by
  have hreverse : (environmentEntries sectionName environment).reverse
      = environmentEntries sectionName environment.reverse := by
    rw [environmentEntries, environmentEntries, List.filterMap_reverse]
  rw [hreverse, ← h.variableText?_reverse hoption]
  apply lookup_environmentEntries
  intro named hnamed
  apply h.entryName?_eq_some_iff (List.mem_reverse.mp hnamed) hoption

/-! ### Both layers as one -/

/-- The values of options, each from the environment or else from the file. -/
def layered (sectionName : String) (given : List (String × Setting))
    (environment : List (String × String)) : List (String × Setting) :=
  Notation.optionFields.filterMap fun option =>
    (((variableText? sectionName environment option).map .ofVariable).or
      (given.lookup option)).map fun value => (option, value)

/-- Loads options from one layer. -/
def ofLayer (layer : List (String × Setting)) : Except BusError Options :=
  match Notation.settings.options? (.table layer) with
  | none => .error (.configuration .unreadable)
  | some options => options.validate.map fun _ => options

theorem lookup_filterMap (names : List String) (value : String → Option Setting) (name : String) :
  (names.filterMap fun name => (value name).map fun value => (name, value)).lookup name
    = if name ∈ names then value name else none
  := by
  induction names with
  | nil => rfl
  | cons first rest ih =>
      rw [List.filterMap_cons]
      cases hvalue : value first with
      | none =>
          simp only [Option.map_none]
          rw [ih]
          grind
      | some given =>
          simp only [Option.map_some]
          rw [lookup_cons, ih]
          grind

/-- What the layers set together is what one layer sets. -/
theorem set?_eq_options? (hsection : IsSectionName sectionName)
    (hfile : Gives sectionName file given) (henvironment : NamesOptions sectionName environment) :
  set? sectionName file environment
    = Notation.settings.options? (.table (layered sectionName given environment))
  := by
  obtain ⟨base, hbase, hread⟩ := base?_of_gives hsection hfile
  obtain ⟨laid, hlaid, hlookup⟩ := lay_of_isFlat base henvironment.isFlat
  rw [set?, hbase, Option.bind_some, hlaid]
  apply Notation.options?_congr rfl rfl
  intro option hoption
  rw [hlookup, henvironment.lookup_reverse hoption, layered, lookup_filterMap, if_pos hoption]
  -- only where no variable names the option is the file read at all
  cases variableText? sectionName environment option with
  | none => apply hread
  | some text => apply Notation.rel_refl

theorem load_eq_ofLayer (hsection : IsSectionName sectionName)
    (hfile : Gives sectionName file given) (henvironment : NamesOptions sectionName environment) :
  load sectionName file environment = ofLayer (layered sectionName given environment)
  := by
  have hset := set?_eq_options? hsection hfile henvironment
  rw [ofLayer, ← hset]
  obtain ⟨hnone, hload⟩ | ⟨options, hsome, hload⟩ := load_cases sectionName file environment
  · rw [hload, hnone]
  · rw [hload, hsome]

/-- The layers override each other option by option.  What is loaded is valid, and it depends on
nothing but the variables that name options and what the file gives for the other options. -/
theorem load_layered (hsection : IsSectionName sectionName) (hfile : Gives sectionName file given)
    (henvironment : NamesOptions sectionName environment) :
  load sectionName file environment = ofLayer (layered sectionName given environment)
    ∧ (∀ options, load sectionName file environment = .ok options → options.validate = .ok ())
    ∧ ∀ (file' : Option File) (given' : List (String × Setting))
        (environment' : List (String × String)),
        Gives sectionName file' given' → NamesOptions sectionName environment' →
        (∀ option ∈ Notation.optionFields, variableText? sectionName environment' option
          = variableText? sectionName environment option) →
        (∀ option ∈ Notation.optionFields, variableText? sectionName environment option = none →
          given'.lookup option = given.lookup option) →
        load sectionName file' environment' = load sectionName file environment
  := by
  refine ⟨load_eq_ofLayer hsection hfile henvironment, ?_, ?_⟩
  · intro options hload
    apply (load_eq_ok_iff.mp hload).2
  · intro file' given' environment' hfile' henvironment' hvariables hgiven
    have hlayers : layered sectionName given' environment'
        = layered sectionName given environment := by
      apply List.filterMap_congr
      intro option hoption
      rw [hvariables option hoption]
      cases hvariable : variableText? sectionName environment option with
      | none => rw [hgiven option hoption hvariable]
      | some text => rfl
    rw [load_eq_ofLayer hsection hfile' henvironment', hlayers,
      load_eq_ofLayer hsection hfile henvironment]

/-- A file that gives a list for the host, and something else in another section. -/
def listedHost : File := ⟨.toml, "[rabbitmq]\nHost = [1]\n\n[other]\nport = -1\n"⟩

theorem gives_listedHost :
  ∃ given, Gives "rabbitmq" (some listedHost) given ∧ given.map Prod.fst = ["host"]
  := by
  have hheld : (((root? (some listedHost)).bind fun root =>
      root.entries.lookup (Text.lower "rabbitmq")).map fun held =>
        (held.isTable, held.entries.map Prod.fst)) = some (true, ["host"]) := by
    decide +kernel
  obtain ⟨held, hheld, hshape⟩ := Option.map_eq_some_iff.mp hheld
  obtain ⟨root, hroot, hlookup⟩ := Option.bind_eq_some_iff.mp hheld
  obtain ⟨given, rfl⟩ := exists_eq_table (congrArg Prod.fst hshape)
  have hnames : given.map Prod.fst = ["host"] := congrArg Prod.snd hshape
  refine ⟨given, ⟨⟨root, hroot, .inl hlookup⟩, ?_, ?_⟩, hnames⟩
  · intro entry hentry
    have hname : entry.1 ∈ ["host"] := hnames ▸ List.mem_map_of_mem hentry
    rw [List.mem_singleton.mp hname]
    decide
  · rw [hnames]
    decide

/-- The host of a variable is loaded though the file gives something that is no text. -/
theorem load_layered_listedHost :
  load "rabbitmq" (some listedHost) [("PATH", "/bin"), ("RABBITMQ__HOST", "broker")]
    = .ok { host := "broker" }
  := by
  obtain ⟨given, hgiven, hnames⟩ := gives_listedHost
  have hmissing : Gives "rabbitmq" none [] :=
    ⟨⟨.table [], rfl, .inr ⟨rfl, rfl⟩⟩, by simp, List.nodup_nil⟩
  have hvariables : NamesOptions "rabbitmq" [("PATH", "/bin"), ("RABBITMQ__HOST", "broker")] :=
    ⟨by decide +kernel, by decide +kernel⟩
  have hvariable : NamesOptions "rabbitmq" [("rabbitmq__host", "broker")] :=
    ⟨by decide +kernel, by decide +kernel⟩
  obtain ⟨-, -, hsame⟩ := load_layered ⟨by decide, by decide⟩ hmissing hvariable
  rw [hsame _ given _ hgiven hvariables (by decide +kernel)]
  · decide +kernel
  · intro option hoption hnone
    rw [List.lookup_nil, List.lookup_eq_none_iff]
    intro entry hentry
    have hname : entry.1 ∈ ["host"] := hnames ▸ List.mem_map_of_mem hentry
    rw [List.mem_singleton.mp hname, bne_iff_ne]
    rintro rfl
    apply absurd hnone
    decide +kernel

end Options

end AmqpBus

import AmqpBus.Options.Load
import AmqpBus.Proofs.Options.Fields
import AmqpBus.Proofs.Settings.Variables

/-!
# Texts that are loaded

An option that is a text is loaded from the variable that names it, from the section of the file
or from neither.  The file gives a text as it stands there.  The environment does not: what its
variables set is typed first, and a text comes back from that exactly when it survives.
-/

namespace AmqpBus

open Settings

theorem isKey_of_mem_optionFields :
  ∀ name ∈ Notation.optionFields, IsKey name
  := by
  have hkeys : ∀ name ∈ Notation.optionFields, Path.ofString? name = some ⟨name, []⟩
      ∧ Text.lower name = name ∧ pointed name.toList = name.toList ∧ Text.IsAscii name := by
    decide
  intro name hname
  obtain ⟨hpath, hlower, hpointed, hascii⟩ := hkeys name hname
  exact ⟨hpath, hlower, hpointed, hascii⟩

namespace Options

variable {sectionName : String} {file : Option File} {environment : List (String × String)}
  {options : Options} {entries : List (String × Setting)}

/-! ### Layers -/

/-- The settings of a file, which are empty when it is missing. -/
def root? (file : Option File) : Option Setting :=
  file.elim (some (.table [])) File.settings?

/-- What a file sets in a section, which the environment lies over. -/
def base? (sectionName : String) (file : Option File) : Option Setting :=
  (root? file).bind fun root => sectionTable? root sectionName

/-- The options that a file and the environment set together, before they are validated. -/
def set? (sectionName : String) (file : Option File) (environment : List (String × String)) :
    Option Options :=
  (base? sectionName file).bind fun base =>
    Notation.settings.options? (base.lay (environmentEntries sectionName environment))

/-- Loading fails when nothing can be set, and validates what is set. -/
theorem load_cases (sectionName : String) (file : Option File)
    (environment : List (String × String)) :
  set? sectionName file environment = none
    ∧ load sectionName file environment = .error (.configuration .unreadable)
  ∨ ∃ options, set? sectionName file environment = some options
    ∧ load sectionName file environment = options.validate.map fun _ => options
  := by
  rw [load, set?, base?, Option.bind_assoc]
  split
  · rename_i hnone
    left
    constructor
    · cases file with
      | none => apply hnone
      | some file => apply hnone
    · rfl
  · rename_i options hsome
    right
    use options
    constructor
    · cases file with
      | none => apply hsome
      | some file => apply hsome
    · cases options.validate with
      | error error => rfl
      | ok valid => rfl

/-- Options are loaded when they are set and validate. -/
theorem load_eq_ok_iff :
  load sectionName file environment = .ok options
    ↔ set? sectionName file environment = some options ∧ options.validate = .ok ()
  := by
  obtain ⟨hset, hload⟩ | ⟨set, hset, hload⟩ := load_cases sectionName file environment
  · rw [hset, hload]
    constructor
    · intro h
      contradiction
    · rintro ⟨h, -⟩
      contradiction
  · rw [hset, hload, Option.some_inj]
    constructor
    · intro h
      cases hvalid : set.validate with
      | error error =>
          rw [hvalid] at h
          contradiction
      | ok valid =>
          rw [hvalid] at h
          obtain rfl := Except.ok.inj h
          exact ⟨rfl, hvalid⟩
    · rintro ⟨rfl, hvalid⟩
      rw [hvalid]
      rfl

theorem foldlM_put_eq_table {given : List (String × Setting)} {table : Setting}
    (h : given.foldlM (fun table entry =>
      return (← Path.ofString? entry.1).put entry.2 table) (Setting.table entries) = some table) :
  ∃ entries, table = .table entries
  := by
  induction given generalizing entries with
  | nil =>
      obtain rfl := Option.some.inj h
      use entries
  | cons first rest ih =>
      rw [List.foldlM_cons, Option.bind_eq_bind, Option.bind_eq_some_iff] at h
      obtain ⟨next, hnext, h⟩ := h
      obtain ⟨path, -, ⟨⟩⟩ := Option.bind_eq_some_iff.mp hnext
      obtain ⟨entries', hput⟩ := put_eq_table path first.2 (.table entries)
      rw [hput] at h
      apply ih h

/-- A section is a table. -/
theorem base?_eq_table {table : Setting} (h : base? sectionName file = some table) :
  ∃ entries, table = .table entries
  := by
  obtain ⟨root, -, h⟩ := Option.bind_eq_some_iff.mp h
  rw [sectionTable?, Option.bind_eq_bind] at h
  obtain ⟨path, -, h⟩ := Option.bind_eq_some_iff.mp h
  split at h
  · obtain rfl := Option.some.inj h
    use []
  · apply foldlM_put_eq_table h
  · contradiction

/-- Where each variable of the section sets a key, a text comes from the last variable that sets
it, from the section of the file, or is the default. -/
theorem text_of_load (o : Field .text) (hflat : IsFlat (environmentEntries sectionName environment))
    (hbase : base? sectionName file = some (.table entries))
    (h : load sectionName file environment = .ok options) :
  Notation.givenOr Setting.text? (o.value .standard)
      (((environmentEntries sectionName environment).reverse.lookup o.name).or
        (entries.lookup o.name))
    = some (o.value options)
  := by
  have hoptions := (load_eq_ok_iff.mp h).1
  rw [set?, hbase, Option.bind_some] at hoptions
  obtain ⟨laid, hlaid, hlookup⟩ := lay_of_isFlat entries hflat
  rw [hlaid] at hoptions
  rw [← hlookup]
  apply Notation.text_of_options? o rfl hoptions

/-! ### Texts -/

theorem environmentEntries_of_variablesOf {given : List (String × String)}
    (h : variablesOf sectionName environment = given) :
  environmentEntries sectionName environment = environmentEntries sectionName given
  := by
  rw [← environmentEntries_variablesOf, h]

/-- The string that a section of a file holds under a name. -/
def string? (sectionName : String) (file : Option File) (name : String) : Option String := do
  match (← base? sectionName file).entries.lookup name with
  | some (.text text) => some text
  | _ => none

/-- A string that the section of the file holds is loaded as it stands there. -/
theorem text_of_string (o : Field .text) {text : String}
    (hnone : variablesOf sectionName environment = [])
    (hstring : string? sectionName file o.name = some text)
    (h : load sectionName file environment = .ok options) :
  o.value options = text
  := by
  have hentries : environmentEntries sectionName environment = [] :=
    environmentEntries_of_variablesOf hnone
  obtain ⟨base, hbase, hlookup⟩ := Option.bind_eq_some_iff.mp hstring
  obtain ⟨entries, rfl⟩ := base?_eq_table hbase
  have htext := text_of_load o (by simp [hentries, IsFlat]) hbase h
  rw [hentries, List.reverse_nil, List.lookup_nil, Option.none_or] at htext
  rw [Setting.entries] at hlookup
  split at hlookup
  · rename_i found hfound
    obtain rfl := Option.some.inj hlookup
    rw [hfound] at htext
    apply (Option.some.inj htext).symm
  · contradiction

/-- A text that the environment gives is typed, and loaded as the text of this. -/
theorem text_of_variable (o : Field .text) {text : String} (hsection : Text.IsAscii sectionName)
    (hvariable : variablesOf sectionName environment = [(variableName sectionName o.name, text)])
    (h : load sectionName file environment = .ok options) :
  (Setting.ofVariable text).text? = some (o.value options)
  := by
  have hkey := isKey_of_mem_optionFields o.name o.name_mem_optionFields
  have hentries : environmentEntries sectionName environment
      = [(o.name, .ofVariable text)] := by
    rw [environmentEntries_of_variablesOf hvariable, environmentEntries, List.filterMap_cons,
      entryName?_variableName hsection hkey]
    rfl
  obtain ⟨base, hbase, -⟩ := Option.bind_eq_some_iff.mp (load_eq_ok_iff.mp h).1
  obtain ⟨entries, rfl⟩ := base?_eq_table hbase
  have hflat : IsFlat (environmentEntries sectionName environment) := by
    rw [hentries]
    intro entry hentry
    obtain rfl := List.mem_singleton.mp hentry
    exact ⟨hkey, (typed_ofVariable text).not_isTable⟩
  have htext := text_of_load o hflat hbase h
  rw [hentries, List.reverse_singleton, List.lookup_cons_self, Option.some_or] at htext
  apply htext

/-- A text that the environment gives is loaded verbatim exactly when it survives being typed; a
string in the file always is. -/
theorem verbatim_iff_survives (o : Field .text) {text : String}
    (hsection : Text.IsAscii sectionName)
    (hvariable : variablesOf sectionName environment = [(variableName sectionName o.name, text)])
    (h : load sectionName file environment = .ok options) :
  (Setting.ofVariable text).text? = some (o.value options)
    ∧ (o.value options = text ↔ Survives text)
    ∧ ∀ (file' : Option File) (environment' : List (String × String)) (options' : Options),
        variablesOf sectionName environment' = [] → string? sectionName file' o.name = some text →
        load sectionName file' environment' = .ok options' → o.value options' = text
  := by
  have htext := text_of_variable o hsection hvariable h
  refine ⟨htext, ?_, ?_⟩
  · rw [← (typed_ofVariable text).text?_eq_iff, htext, Option.some_inj]
  · intro file' environment' options' hnone hstring h'
    apply text_of_string o hnone hstring h'

theorem verbatim_iff_survives_password :
  load "rabbitmq" none [("RABBITMQ__PASSWORD", "007")] = .ok { password := "7" }
    ∧ ¬ Survives "007"
    ∧ ∃ options, load "rabbitmq" (some ⟨.toml, "[rabbitmq]\npassword = \"007\"\n"⟩) [] = .ok options
      ∧ options.password = "007"
  := by
  have hload : load "rabbitmq" none [("RABBITMQ__PASSWORD", "007")] = .ok { password := "7" } := by
    decide +kernel
  have hvariable : variablesOf "rabbitmq" [("RABBITMQ__PASSWORD", "007")]
      = [(variableName "rabbitmq" Field.password.name, "007")] := by
    decide +kernel
  have hfile : load "rabbitmq" (some ⟨.toml, "[rabbitmq]\npassword = \"007\"\n"⟩) []
      = .ok { password := "007" } := by
    decide +kernel
  obtain ⟨-, hverbatim, hstring⟩ := verbatim_iff_survives .password (by decide) hvariable hload
  refine ⟨hload, ?_, _, hfile, ?_⟩
  · intro hsurvives
    apply absurd (hverbatim.mpr hsurvives) (by decide)
  · apply hstring _ [] _ rfl (by decide +kernel) hfile

/-- A password that starts with a zero is not loaded verbatim. -/
theorem not_verbatim_of_zero :
  ¬ ∀ (o : Field .text) (sectionName text : String) (file : Option File)
      (environment : List (String × String)) (options : Options), Text.IsAscii sectionName →
      variablesOf sectionName environment = [(variableName sectionName o.name, text)] →
      load sectionName file environment = .ok options → o.value options = text
  := by
  intro hverbatim
  have hpassword := hverbatim .password "rabbitmq" "007" none [("RABBITMQ__PASSWORD", "007")]
    { password := "7" } (by decide) (by decide +kernel) (by decide +kernel)
  apply absurd hpassword (by decide)

end Options

end AmqpBus

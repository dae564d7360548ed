import AmqpBus.Proofs.Settings.Laying
import AmqpBus.Proofs.Text.Numerals

/-!
# Variables of a section

A variable belongs to a section when its name starts with the name of the section and two
underscores, in whatever letter case.  Its text is typed first, and so it need not come back when
what the variable sets is taken for a text again: `Survives` says of which texts it does.
-/

namespace AmqpBus.Settings

/-! ### Names -/

/-- The name of the variable of a section for a name, in upper case. -/
def variableName (sectionName name : String) : String := (sectionName ++ "__" ++ name).toUpper

/-- The variables of a section. -/
def variablesOf (sectionName : String) (environment : List (String × String)) :
    List (String × String) :=
  environment.filter fun given => (entryName? sectionName given.1).isSome

variable {sectionName name : String} {environment : List (String × String)}

theorem mem_variablesOf {given : String × String} (hgiven : given ∈ environment)
    (h : entryName? sectionName given.1 = some name) :
  given ∈ variablesOf sectionName environment
  := by
  rw [variablesOf, List.mem_filter, h]
  use hgiven
  rfl

/-- A variable with the name of a section, two underscores and a key sets this key. -/
theorem entryName?_of_isKey {variableName : String} (hname : IsKey name)
    (h : (Text.lower variableName).toList
      = (Text.lower sectionName).toList ++ ['_', '_'] ++ name.toList) :
  entryName? sectionName variableName = some name
  := by
  have hstart : ((Text.lower sectionName).toList ++ ['_', '_']).isPrefixOf
      ((Text.lower sectionName).toList ++ ['_', '_'] ++ name.toList) := by
    apply List.isPrefixOf_iff_prefix.mpr
    apply List.prefix_append
  rw [entryName?, h]
  simp only [hstart, if_true]
  rw [List.drop_left, hname.pointed, String.ofList_toList]

/-- The variable of a section for a key sets this key. -/
theorem entryName?_variableName (hsection : Text.IsAscii sectionName) (hname : IsKey name) :
  entryName? sectionName (variableName sectionName name) = some name
  := by
  have hascii : Text.IsAscii (sectionName ++ "__" ++ name) :=
    Text.isAscii_append (Text.isAscii_append hsection (by decide)) hname.ascii
  apply entryName?_of_isKey hname
  rw [variableName, Text.toList_lower_toUpper hascii, Text.toList_lower hascii,
    String.toList_append, String.toList_append, List.map_append, List.map_append,
    ← Text.toList_lower hsection, ← Text.toList_lower hname.ascii, hname.lower]
  rfl

/-- Only the variables of a section set anything in it. -/
theorem environmentEntries_variablesOf (sectionName : String)
    (environment : List (String × String)) :
  environmentEntries sectionName (variablesOf sectionName environment)
    = environmentEntries sectionName environment
  := by
  rw [environmentEntries, environmentEntries, variablesOf, List.filterMap_filter]
  apply List.filterMap_congr
  intro given hgiven
  cases hname : entryName? sectionName given.1 with
  | none => rfl
  | some name => rfl

/-! ### Texts -/

/-- The words for flags. -/
def flagWord (value : Bool) : String := if value then "true" else "false"

/-- What a text is typed as. -/
inductive Typed (text : String) : Setting → Prop
  | flag (value : Bool) (h : Text.lower text = flagWord value) : Typed text (.bool value)
  | integer (i : ℤ) (hword : ∀ value, Text.lower text ≠ flagWord value)
    (h : Number.integer64? text = some i) : Typed text (.integer i)
  | real (d : Number.Double) (hword : ∀ value, Text.lower text ≠ flagWord value)
    (hinteger : Number.integer64? text = none) (h : Number.real? text = some d) :
    Typed text (.real d)
  | text (hword : ∀ value, Text.lower text ≠ flagWord value)
    (hinteger : Number.integer64? text = none) (h : Number.real? text = none) :
    Typed text (.text text)

variable {text : String} {value : Setting}

theorem typed_ofVariable (text : String) :
  Typed text (.ofVariable text)
  := by
  rw [Setting.ofVariable]
  split
  · rename_i htrue
    apply Typed.flag true htrue
  · rename_i htrue
    split
    · rename_i hfalse
      apply Typed.flag false hfalse
    · rename_i hfalse
      have hword : ∀ value, Text.lower text ≠ flagWord value := by
        intro value
        cases value with
        | true => apply htrue
        | false => apply hfalse
      split
      · rename_i i hinteger
        apply Typed.integer i hword hinteger
      · rename_i hinteger
        split
        · rename_i d hreal
          apply Typed.real d hword hinteger hreal
        · rename_i hreal
          apply Typed.text hword hinteger hreal

theorem Typed.not_isTable (h : Typed text value) :
  ¬ value.isTable
  := by
  cases h <;> exact Bool.false_ne_true

/-- A text that comes back when it is typed and then taken for a text: a word for a flag is in
lower case, an integer has no sign and no zero that could be left out, and another number is
written in the shortest way. -/
structure Survives (text : String) : Prop where
  word : ∀ value, Text.lower text = flagWord value → text = flagWord value
  integer : ∀ i, Number.integer64? text = some i → Text.IsTerse text.toList
  real : Number.integer64? text = none → ∀ d, Number.real? text = some d → d.text = text

theorem numeral_flagWord (value : Bool) :
  Number.integer64? (flagWord value) = none ∧ Number.real? (flagWord value) = none
  := by
  cases value <;> decide

theorem signedDecimal?_of_integer64? {i : ℤ} (h : Number.integer64? text = some i) :
  Text.signedDecimal? text.toList = some i
  := by
  rw [Number.integer64?, Option.filter_eq_some_iff] at h
  apply h.1

/-! ### Which texts survive -/

theorem survives_iff_of_flagWord {flag : Bool} (h : Text.lower text = flagWord flag) :
  Survives text ↔ text = flagWord flag
  := by
  constructor
  · intro hsurvives
    apply hsurvives.word flag h
  · rintro rfl
    obtain ⟨hinteger, hreal⟩ := numeral_flagWord flag
    constructor
    · intro other hother
      rw [← h, hother]
    · intro i hi
      rw [hinteger] at hi
      contradiction
    · intro _ d hd
      rw [hreal] at hd
      contradiction

/-- An integer survives exactly when its numeral is terse. -/
theorem survives_iff_isTerse {i : ℤ} (h : Number.integer64? text = some i) :
  Survives text ↔ Text.IsTerse text.toList
  := by
  constructor
  · intro hsurvives
    apply hsurvives.integer i h
  · intro hterse
    constructor
    · intro value hword
      rw [← hword, Text.lower_of_signedDecimal? (signedDecimal?_of_integer64? h)]
    · intro _ _
      apply hterse
    · intro hnone
      rw [h] at hnone
      contradiction

theorem survives_iff_of_real {d : Number.Double}
    (hword : ∀ value, Text.lower text ≠ flagWord value)
    (hinteger : Number.integer64? text = none) (h : Number.real? text = some d) :
  Survives text ↔ d.text = text
  := by
  constructor
  · intro hsurvives
    apply hsurvives.real hinteger d h
  · intro hback
    constructor
    · intro value hvalue
      apply absurd hvalue (hword value)
    · intro i hi
      rw [hinteger] at hi
      contradiction
    · intro _ other hother
      obtain rfl : d = other := Option.some.inj (h.symm.trans hother)
      apply hback

theorem survives_of_not_typed (hword : ∀ value, Text.lower text ≠ flagWord value)
    (hinteger : Number.integer64? text = none) (h : Number.real? text = none) :
  Survives text
  := by
  constructor
  · intro value hvalue
    apply absurd hvalue (hword value)
  · intro i hi
    rw [hinteger] at hi
    contradiction
  · intro _ d hd
    rw [h] at hd
    contradiction

/-- What a text is typed as is taken for this text exactly when the text survives. -/
theorem Typed.text?_eq_iff (h : Typed text value) :
  value.text? = some text ↔ Survives text
  := by
  cases h with
  | flag value hword =>
      have htext : (Setting.bool value).text? = some (flagWord value) := rfl
      rw [htext, Option.some_inj, survives_iff_of_flagWord hword]
      apply eq_comm
  | integer i hword hinteger =>
      rw [Setting.text?, Option.some_inj, ← String.toList_inj,
        Text.toList_repr_iff (signedDecimal?_of_integer64? hinteger),
        survives_iff_isTerse hinteger]
  | real d hword hinteger hreal =>
      rw [Setting.text?, Option.some_inj, survives_iff_of_real hword hinteger hreal]
  | text hword hinteger hreal =>
      exact iff_of_true rfl (survives_of_not_typed hword hinteger hreal)

example :
  ["TRUE", "-00", "+7", "1e5", "1.50", "s3cret"].map (fun t => (Setting.ofVariable t).text?)
    = ["true", "0", "7", "100000", "1.5", "s3cret"].map some
  := by
  decide +kernel

end AmqpBus.Settings

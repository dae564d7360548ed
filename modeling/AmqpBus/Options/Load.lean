import AmqpBus.Options.Fields
import AmqpBus.Settings.Environment
import AmqpBus.Settings.Json
import AmqpBus.Settings.Toml

/-!
# Loading options

Options come from a section of a file, over which the variables of the environment lie.
What neither sets has its default.  A file that is missing is empty, and so is a section
that is missing from a file; a file that cannot be read, or a section that is no table,
is an error, and so are options that do not validate.
-/

namespace AmqpBus

open Settings

/-- The values of fields in a table by their names, or in a list in order. -/
def Settings.Setting.fields? (names : List String) : Setting → Option (List (Option Setting))
  | .table entries => some (names.map fun name => entries.lookup name)
  | .list items => some ((List.range names.length).map fun i => items[i]?)
  | _ => none

/-- The notation of settings. -/
def Notation.settings : Notation Setting where
  isNull
    | .null => true
    | _ => false
  text? := Setting.text?
  natural? := Setting.natural?
  flag? := Setting.flag?
  items?
    | .list items => some items
    | _ => none
  fields? := Setting.fields?

/-- The notations in which a file may be written. -/
inductive FileFormat where
  | json
  | toml

/-- A file: its notation and its text. -/
structure File where
  format : FileFormat
  text : String

/-- The settings that a file holds, whose names are paths. -/
def File.settings? (file : File) : Option Setting := do
  let root ← match file.format with
    | .json => Setting.readJson? file.text
    | .toml => Setting.readToml? file.text
  match root with
  | .table entries => return Setting.lay (.table []) entries
  | _ => none

namespace Options

/-- The table of a section, in which every name must be a path. -/
def sectionTable? (root : Setting) (sectionName : String) : Option Setting := do
  let path ← Path.ofString? (Text.lower sectionName)
  match path.get? root with
  | none => return .table []
  | some (.table entries) =>
    entries.foldlM (fun table entry =>
      return (← Path.ofString? entry.1).put entry.2 table) (.table [])
  | some _ => none

/-- Loads options from a section of a file and from the environment. -/
def load (sectionName : String) (file : Option File) (environment : List (String × String)) :
    Except BusError Options := do
  let options? : Option Options := do
    let root ← match file with
      | some file => file.settings?
      | none => some (.table [])
    let table ← sectionTable? root sectionName
    Notation.settings.options? (table.lay (environmentEntries sectionName environment))
  match options? with
  | none => throw (.configuration .unreadable)
  | some options =>
    options.validate
    return options

end Options

end AmqpBus

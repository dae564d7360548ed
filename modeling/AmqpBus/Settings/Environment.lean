import AmqpBus.Settings.Path

/-!
# The environment

Variables whose name starts with the name of a section and two underscores set entries
of that section.  Letter case does not matter in names, and two underscores within the
rest of a name lead into a table.  The text of a variable is taken for a flag or a
number if it reads as one.
-/

namespace AmqpBus.Settings

/-- What the text of a variable sets. -/
def Setting.ofVariable (text : String) : Setting :=
  if Text.lower text = "true" then .bool true
  else if Text.lower text = "false" then .bool false
  else
    match Number.integer64? text with
    | some value => .integer value
    | none =>
      match Number.real? text with
      | some value => .real value
      | none => .text text

/-- Replaces every two underscores, from the left, by a point. -/
def pointed : List Char → List Char
  | '_' :: '_' :: cs => '.' :: pointed cs
  | c :: cs => c :: pointed cs
  | [] => []

/-- The name of what a variable sets in a section. -/
def entryName? (sectionName variableName : String) : Option String :=
  let start := (Text.lower sectionName).toList ++ ['_', '_']
  let name := (Text.lower variableName).toList
  if start.isPrefixOf name then some (String.ofList (pointed (name.drop start.length))) else none

/-- What the variables of a section set, under the names of the entries. -/
def environmentEntries (sectionName : String) (environment : List (String × String)) :
    List (String × Setting) :=
  environment.filterMap fun given =>
    (entryName? sectionName given.1).map fun name => (name, .ofVariable given.2)

end AmqpBus.Settings

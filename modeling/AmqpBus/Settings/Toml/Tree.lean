import AmqpBus.Settings.Setting
import AmqpBus.Settings.Toml.Moment

/-!
# Tables of TOML

A file defines tables by headers, by keys with points, and as values.  No value and no
table is defined twice: a header may not open a table that a header or a key has defined,
a key may not reach into a table that a header has, and nothing adds to a table that is a
value.  A header in double brackets opens a further table of a list, and names then lead
into the last one.

A table lists its entries in the order in which they were defined.  The order counts for
the name under which a date or a time stands in a string: a table with that name in front
is no table but the date or time.
-/

namespace AmqpBus.Settings.Toml

/-- What defined a table: a longer header that passes through it, its own header, a key,
or a value. -/
inductive Origin where
  | passed
  | header
  | key
  | value
  deriving DecidableEq

/-- A string, another scalar, a list of values, a table, or a list of tables with the one
opened last apart. -/
inductive Node where
  | text (value : String)
  | scalar (setting : Setting)
  | list (items : List Node)
  | table (origin : Origin) (entries : List (String × Node))
  | tables (earlier : List (List (String × Node))) (last : List (String × Node))

/-- The entries of a table. -/
abbrev Entries := List (String × Node)

/-- The entries with one put in place of that of the same name, or at the end. -/
def Entries.put (name : String) (node : Node) : Entries → Entries
  | [] => [(name, node)]
  | entry :: entries =>
    if name = entry.1 then (name, node) :: entries else entry :: Entries.put name node entries

namespace Node

/-- Applies `f` to the table at the end of a path, making the tables on the way.  The flag
tells that the path comes from a key, which keeps out of tables with a header. -/
def reach (byKey : Bool) (f : Origin → Entries → Option Entries) (origin : Origin)
    (entries : Entries) : List String → Option Entries
  | [] => f origin entries
  | name :: path =>
    match entries.lookup name with
    | none => do
      let made := if byKey then Origin.key else Origin.passed
      return entries.put name (.table made (← reach byKey f made [] path))
    | some (.table inner inside) => do
      if inner = .value ∨ (byKey ∧ inner = .header) then none
      else return entries.put name (.table inner (← reach byKey f inner inside path))
    | some (.tables earlier last) => do
      return entries.put name (.tables earlier (← reach byKey f .header last path))
    | some _ => none

/-- Sets a value under a key in the table at a path. -/
def set (path : List String) (key : List String) (value : Node) (root : Entries) :
    Option Entries :=
  reach false (fun origin entries => do
    let name ← key.getLast?
    let way := key.dropLast
    let add (origin : Origin) (entries : Entries) : Option Entries :=
      if (origin = .key) = way.isEmpty ∨ (entries.lookup name).isSome then none
      else some (entries.put name value)
    reach true add origin entries way) .header root path

/-- Opens the table at a path by its header.  A table that longer headers passed through
counts as defined here. -/
def openTable (path : List String) (root : Entries) : Option Entries := do
  let name ← path.getLast?
  let add (_ : Origin) (entries : Entries) : Option Entries :=
    match entries.lookup name with
    | none => some (entries.put name (.table .header []))
    | some (.table .passed inside) =>
      some (entries.filter (·.1 ≠ name) ++ [(name, .table .header inside)])
    | some _ => none
  reach false add .header root path.dropLast

/-- Opens a further table of the list at a path. -/
def openItem (path : List String) (root : Entries) : Option Entries := do
  let name ← path.getLast?
  let add (_ : Origin) (entries : Entries) : Option Entries :=
    match entries.lookup name with
    | none => some (entries.put name (.tables [] []))
    | some (.tables earlier last) => some (entries.put name (.tables (earlier ++ [last]) []))
    | some _ => none
  reach false add .header root path.dropLast

/-- The name under which a date or a time stands in a string. -/
def momentName : String := "$__toml_private_datetime"

/-- The date or time that a string holds. -/
def moment? : Node → Option Setting
  | .text value => (Clock.ofString.moment? value.toList).map fun m => .text (String.ofList m)
  | _ => none

mutual

/-- The setting that a node stands for. -/
def setting? : Node → Option Setting
  | .text value => some (.text value)
  | .scalar setting => some setting
  | .list items => (itemSettings? items).map .list
  | .table _ entries => tableSetting? entries
  | .tables earlier last => do
    return .list ((← tableSettings? earlier) ++ [← tableSetting? last])

/-- The settings that items stand for. -/
def itemSettings? : List Node → Option (List Setting)
  | [] => some []
  | item :: items => do return (← setting? item) :: (← itemSettings? items)

/-- The setting that a table stands for. -/
def tableSetting? : List (String × Node) → Option Setting
  | [] => some (.table [])
  | (name, node) :: entries =>
    if name = momentName then moment? node
    else do return .table (insertEntry name (← setting? node) (← entrySettings? entries))

/-- The settings that entries stand for, in the order of their names. -/
def entrySettings? : List (String × Node) → Option (List (String × Setting))
  | [] => some []
  | (name, node) :: entries => do
    return insertEntry name (← setting? node) (← entrySettings? entries)

/-- The settings that the tables of a list stand for. -/
def tableSettings? : List (List (String × Node)) → Option (List Setting)
  | [] => some []
  | entries :: rest => do return (← tableSetting? entries) :: (← tableSettings? rest)

end

end Node

end AmqpBus.Settings.Toml

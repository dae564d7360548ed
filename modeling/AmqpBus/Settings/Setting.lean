import AmqpBus.Dictionary
import AmqpBus.Number.Numeral
import AmqpBus.Number.Shortest

/-!
# Settings

The values that files and the environment set.  A setting is typed loosely: it is taken
for a text, a number or a flag whenever it can be read as one.
-/

namespace AmqpBus.Settings

open Number (Double)

/-- A value in a file or in the environment.  A table lists its entries in the order of
their names. -/
inductive Setting where
  | null
  | bool (value : Bool)
  | integer (value : Int)
  | real (value : Double)
  | text (value : String)
  | list (items : List Setting)
  | table (entries : List (String × Setting))

namespace Setting

/-- The texts, in any letter case, that stand for a flag. -/
def flagWords (value : Bool) : List String :=
  if value then ["true", "on", "yes"] else ["false", "off", "no"]

/-- A setting as a text.  Numbers are written in decimal, doubles in the shortest way. -/
def text? : Setting → Option String
  | .bool value => some (if value then "true" else "false")
  | .integer value => some value.repr
  | .real value => some value.text
  | .text value => some value
  | _ => none

/-- A setting as a natural number of 64 bits.  Doubles are rounded, a half away from
zero, and kept within the range. -/
def natural? : Setting → Option Nat
  | .bool value => some value.toNat
  | .integer value => if 0 ≤ value then some value.toNat else none
  | .real value => some (value.toNatWithin (Number.capacity 64 - 1))
  | .text value =>
    if Text.lower value ∈ flagWords true then some 1
    else if Text.lower value ∈ flagWords false then some 0
    else Number.natural64? value
  | _ => none

/-- A setting as a flag.  Numbers other than zero are true. -/
def flag? : Setting → Option Bool
  | .bool value => some value
  | .integer value => some (value != 0)
  | .real value => some (!value.isZero)
  | .text value =>
    if Text.lower value ∈ "1" :: flagWords true then some true
    else if Text.lower value ∈ "0" :: flagWords false then some false
    else none
  | _ => none

/-- The entries of a table; other settings have none. -/
def entries : Setting → List (String × Setting)
  | .table entries => entries
  | _ => []

/-- The items of a list; other settings have none. -/
def items : Setting → List Setting
  | .list items => items
  | _ => []

mutual

/-- Puts a setting under a name, which is lowered, into a table.  A setting that is no
table becomes one.  Tables are merged entry by entry, all else is replaced. -/
def put (root : Setting) (name : String) : Setting → Setting
  | .table incoming =>
    let key := Text.lower name
    let target := (root.entries.lookup key).getD (.table [])
    .table (insertEntry key (putAll target incoming) root.entries)
  | value => .table (insertEntry (Text.lower name) value root.entries)

/-- Puts settings under their names into a table, one after the other. -/
def putAll (root : Setting) : List (String × Setting) → Setting
  | [] => root
  | (name, value) :: rest => putAll (put root name value) rest

end

end Setting

end AmqpBus.Settings

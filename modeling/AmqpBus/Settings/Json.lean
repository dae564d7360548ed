import AmqpBus.Json.Reader
import AmqpBus.Json.Real
import AmqpBus.Settings.Setting

/-!
# Settings in JSON

A JSON file holds one record.  Integers of 64 bits stay integers and other numbers
become doubles; of two members with one name the last counts.
-/

namespace AmqpBus.Settings

open Json (Value Text)

/-- The number of a numeral. -/
def Setting.ofNumeral? (numeral : Json.Numeral) : Option Setting :=
  match numeral.integer? with
  | some i => if Number.isSigned 64 i then some (.integer i) else numeral.real?.map .real
  | none => numeral.real?.map .real

mutual

/-- The setting that a JSON value stands for, whose strings must be Unicode text. -/
def Setting.ofJson? : Value → Option Setting
  | .null => some .null
  | .bool b => some (.bool b)
  | .number n => Setting.ofNumeral? n
  | .text t => t.map .text
  | .list items => (ofJsonItems? items).map .list
  | .record members => (ofJsonMembers? members []).map .table

/-- The settings in a list. -/
def Setting.ofJsonItems? : List Value → Option (List Setting)
  | [] => some []
  | item :: items => do return (← ofJson? item) :: (← ofJsonItems? items)

/-- The settings in a record, put in after those in front. -/
def Setting.ofJsonMembers? : List (Text × Value) → List (String × Setting) →
    Option (List (String × Setting))
  | [], entries => some entries
  | (name, value) :: members, entries => do
    ofJsonMembers? members (insertEntry (← name) (← ofJson? value) entries)

end

/-- The settings in a JSON text, which nests at most 127 deep. -/
def Setting.readJson? (text : String) : Option Setting := do
  Setting.ofJson? (← Value.readWithin? 127 text.toUTF8)

end AmqpBus.Settings

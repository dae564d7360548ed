import AmqpBus.Amqp.Field
import AmqpBus.Log
import AmqpBus.Text.Lowering
import AmqpBus.Text.Utf8

/-!
# Trace entries

The entries of a trace travel in the headers of messages, as texts under names in lower
case.  Reading one that is no text leaves a complaint in the log.
-/

namespace AmqpBus.Trace

open Amqp (Table)

/-- Writes an entry into headers. -/
def inject (headers : Table) (name value : String) : Table :=
  headers.insert (Text.lower name) (.longString value.toUTF8)

/-- Writes entries into headers, one after the other. -/
def injectAll (headers : Table) (entries : List (String × String)) : Table :=
  entries.foldl (fun headers entry => inject headers entry.1 entry.2) headers

/-- Reads the entry under exactly this name. -/
def extract? (headers : Table) (name : String) : Option String :=
  match headers.get? name with
  | some (.longString bytes) => String.fromUTF8? bytes
  | _ => none

/-- What the log says of bytes that are no text. -/
def faultText (fault : Text.Utf8Fault) : String :=
  let length := fault.length.elim "None" fun n => "Some(" ++ n.repr ++ ")"
  "Error decoding header value Utf8Error \x7b valid_up_to: " ++ fault.position.repr
    ++ ", error_len: " ++ length ++ " \x7d"

/-- What reading the entry under a name writes to the log: something when the entry is
there and is no text. -/
def complaint? (headers : Table) (name : String) : Option LogEntry :=
  match headers.get? name with
  | some (.longString bytes) =>
    (Text.utf8Fault? bytes.data.toList).map fun fault => ⟨.error, faultText fault⟩
  | _ => none

/-- The names of all headers that may be entries. -/
def names (headers : Table) : List String := headers.names

end AmqpBus.Trace

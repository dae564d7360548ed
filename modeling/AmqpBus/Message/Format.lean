import AmqpBus.Message.Descriptor
import AmqpBus.Message.Shape

/-!
# Message formats

How the messages of a type are written as payloads and read back.  A message may fail to
be written.  Of a reject event only its type and its payload are
kept.
-/

namespace AmqpBus

/-- A message type, and how its messages are read and written. -/
structure Format (α : Type) extends type : MessageType where
  decode? : ByteArray → Option α
  encode? : α → Option ByteArray

/-- The format of a message type with a shape. -/
def Format.ofShape (type : MessageType) (shape : Shape) : Format Datum where
  type := type
  decode? := shape.read?
  encode? datum := some datum.payload

/-- A reject event of some type. -/
structure RejectEvent extends type : MessageType where
  payload? : Option ByteArray

/-- A message as a reject event. -/
def Format.rejectEvent {α : Type} (format : Format α) (message : α) : RejectEvent :=
  ⟨format.type, format.encode? message⟩

end AmqpBus

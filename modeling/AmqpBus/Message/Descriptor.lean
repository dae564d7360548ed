import AmqpBus.Topology.Exchange

/-!
# Message types

A message type, and how it is registered: its name on the bus, its role there, and the names
and flags of its topology that are fixed with it.
-/

namespace AmqpBus

/-- A message type.  The name that it prints is for texts only: other types may print it too,
and a number tells them apart. -/
structure MessageType where
  typeName : String
  number : Nat := 0
  deriving DecidableEq

/-- The first of the types that print a name. -/
instance : Coe String MessageType := ⟨fun typeName => { typeName }⟩

/-- The role of a message type.  An abstract event stands for a family of events and is
never published itself; a reject event tells that a message could not be completed. -/
inductive Role where
  | command
  | event
  | abstractEvent
  | reject
  deriving DecidableEq

/-- The registration of a message type. -/
structure Descriptor where
  space : String
  name : String
  role : Role
  exchangeName : Option String := none
  exchangeKind : Option ExchangeKind := none
  routingKey : Option String := none
  queueName : Option String := none
  durable : Option Bool := none
  autoDelete : Option Bool := none
  deriving DecidableEq

/-- The name by which a message type is known on the wire and in naming conventions. -/
def Descriptor.fullName (descriptor : Descriptor) : String :=
  if descriptor.space.isEmpty then descriptor.name
  else descriptor.space ++ "." ++ descriptor.name

end AmqpBus

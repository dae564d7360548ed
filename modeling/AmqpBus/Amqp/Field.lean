import AmqpBus.Dictionary

/-!
# Fields

The typed values that AMQP carries in its tables, and the smaller choice of typed
scalars that a caller may put into arguments and headers.  `Scalar.field` gives every
scalar the field of its own type.
-/

namespace AmqpBus.Amqp

/-- A typed value of an AMQP table.  A table lists its entries in the order of their
names. -/
inductive Field where
  | boolean (value : Bool)
  | int8 (value : Int8)
  | uint8 (value : UInt8)
  | int16 (value : Int16)
  | uint16 (value : UInt16)
  | int32 (value : Int32)
  | uint32 (value : UInt32)
  | int64 (value : Int64)
  | timestamp (value : UInt64)
  | shortString (value : String)
  | longString (value : ByteArray)
  | bytes (value : ByteArray)
  | array (items : List Field)
  | table (entries : List (String × Field))
  | void

/-- A value that a caller may put into an argument or a header. -/
inductive Scalar where
  | shortString (value : String)
  | longString (value : String)
  | boolean (value : Bool)
  | int16 (value : Int16)
  | int32 (value : Int32)
  | int64 (value : Int64)
  | uint32 (value : UInt32)
  | timestamp (value : UInt64)
  deriving DecidableEq

/-- The field that carries a scalar. -/
def Scalar.field : Scalar → Field
  | .shortString value => .shortString value
  | .longString value => .longString value.toUTF8
  | .boolean value => .boolean value
  | .int16 value => .int16 value
  | .int32 value => .int32 value
  | .int64 value => .int64 value
  | .uint32 value => .uint32 value
  | .timestamp value => .timestamp value

/-- The names and scalars of arguments and headers. -/
abbrev Arguments := Dictionary Scalar

/-- The names and fields of a table. -/
abbrev Table := Dictionary Field

/-- The table that carries arguments. -/
def fieldsOf (arguments : Arguments) : Table := arguments.map Scalar.field

/-- The text of a field that is a string, when it is Unicode. -/
def Field.text? : Field → Option String
  | .shortString value => some value
  | .longString value => String.fromUTF8? value
  | _ => none

end AmqpBus.Amqp

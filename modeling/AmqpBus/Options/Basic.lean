import AmqpBus.Dictionary
import AmqpBus.Error
import AmqpBus.Time.Duration

/-!
# Options

The settings of a bus: how to reach the broker, the exchange that message types use
unless they name another, how failures are retried, and naming conventions for message
types that cannot be changed where they are registered.
-/

namespace AmqpBus

/-- The names that one message type, known by its full name, uses unless it is registered
with others. -/
structure Convention where
  typeName : String
  queueName : Option String := none
  routingKey : Option String := none
  deriving DecidableEq

/-- The settings of a bus.  The retry interval is in seconds. -/
structure Options where
  host : String := "localhost"
  port : UInt16 := 5672
  vhost : String := ""
  user : String := "guest"
  password : String := "guest"
  connectionName : String := ""
  exchangeName : String := ""
  retries : UInt32 := 3
  retryInterval : UInt64 := 2
  requeues : Bool := false
  prefetch : UInt16 := 1
  conventions : List Convention := []
  deriving DecidableEq

namespace Options

/-- The settings of a bus that sets nothing. -/
def standard : Options := {}

/-- The first type name in a list of conventions that occurred before. -/
def repeated? (seen : List String) : List Convention → Option String
  | [] => none
  | c :: cs =>
    if c.typeName ∈ seen then some c.typeName else repeated? (c.typeName :: seen) cs

/-- Accepts settings that can be worked with: the broker takes a prefetch of zero for no
limit, and two conventions for one type would contradict each other. -/
def validate (options : Options) : Except BusError Unit :=
  if options.prefetch = 0 then .error (.configuration .zeroPrefetch)
  else
    match repeated? [] options.conventions with
    | some typeName => .error (.configuration (.repeatedConvention typeName))
    | none => .ok ()

/-- The convention for a full name, which is the last one listed for it. -/
def convention? (options : Options) (fullName : String) : Option Convention :=
  options.conventions.findRev? (·.typeName = fullName)

/-- The table of the conventions, which are put in one after the other. -/
def conventionTable (options : Options) : Dictionary Convention :=
  .ofList (options.conventions.map fun c => (c.typeName, c))

/-- The wait before a message that failed is tried again. -/
def retryDelay (options : Options) : Time.Duration :=
  .ofSeconds options.retryInterval.toNat

/-- The address of the broker.  The settings stand in it as they are. -/
def uri (options : Options) : String :=
  "amqp://" ++ options.user ++ ":" ++ options.password ++ "@" ++ options.host ++ ":" ++
    options.port.toNat.repr ++ "/" ++ options.vhost

end Options

end AmqpBus

/-!
# Errors

What can go wrong, by cause.  A broker request fails with a `BrokerError`, a handler
with a `HandlerError`, and every operation of the bus with a `BusError`; the wording of
each is in its `message`.
-/

namespace AmqpBus

/-- A broker request that failed. -/
inductive BrokerError where
  | internal
  | connection
  | channel
  | declareExchange (exchange : String)
  | declareQueue (queue : String)
  | bind (exchange queue : String)
  | publish (exchange : String)
  | ack
  | nack
  | requeue
  | deadLetter
  | qos (queue : String)
  | consume (queue : String)
  deriving DecidableEq

/-- The wording of a broker error. -/
def BrokerError.message : BrokerError → String
  | .internal => "internal error"
  | .connection => "failure to connect"
  | .channel => "failure to create a channel"
  | .declareExchange exchange => "failure to declare an exchange `" ++ exchange ++ "`"
  | .declareQueue queue => "failure to declare a queue `" ++ queue ++ "`"
  | .bind exchange queue =>
    "failure to binding exchange `" ++ exchange ++ "` to queue `" ++ queue ++ "`"
  | .publish exchange => "failure to publish to `" ++ exchange ++ "`"
  | .ack => "failure to ack message"
  | .nack => "failure to nack message"
  | .requeue => "failure to requeuing message"
  | .deadLetter => "failure to publish to dlq"
  | .qos queue => "failure to configure qos `" ++ queue ++ "`"
  | .consume queue => "failure to declare consumer `" ++ queue ++ "`"

/-- A refusal for reasons of the business, with an optional code. -/
structure Refusal where
  message : String
  code : Option String := none
  deriving DecidableEq

/-- How a handler fails: the message is invalid and is dropped, it is refused, or the
handler broke down and the message may be tried again. -/
inductive HandlerError where
  | domain (message : String)
  | rejected (refusal : Refusal)
  | failed (cause : String)
  deriving DecidableEq

namespace HandlerError

/-- The wording of a handler error. -/
def message : HandlerError → String
  | .domain message => message
  | .rejected refusal => refusal.message
  | .failed cause => "handler failure: " ++ cause

/-- Whether another attempt may succeed. -/
def isRecoverable : HandlerError → Bool
  | .failed _ => true
  | _ => false

end HandlerError

/-- A mistake in the configuration of the bus. -/
inductive ConfigurationError where
  | sharedName (fullName first second : String)
  | registeredTwice (typeName : String)
  | notReject (messageType : String)
  | autoAckRequeue (queue : String)
  | zeroPrefetch
  | repeatedConvention (typeName : String)
  | unreadable
  | other (text : String)
  deriving DecidableEq

/-- The wording of a configuration error. -/
def ConfigurationError.message : ConfigurationError → String
  | .sharedName fullName first second =>
    "`" ++ fullName ++ "` is used by both `" ++ first ++ "` and `" ++ second ++ "`"
  | .registeredTwice typeName => "`" ++ typeName ++ "` is registered twice"
  | .notReject messageType => "`" ++ messageType ++ "` is not registered as a reject event"
  | .autoAckRequeue queue =>
    "queue `" ++ queue ++ "` is auto-ack, broker requeuing needs manual acks"
  | .zeroPrefetch => "prefetch must be greater than zero"
  | .repeatedConvention typeName => "duplicated naming convention for `" ++ typeName ++ "`"
  | .unreadable => "the settings cannot be read"
  | .other text => text

/-- How an operation of the bus fails. -/
inductive BusError where
  | unregistered (typeName : String)
  | conflictingQueues (messageType first second : String)
  | abstractEvent (messageType : String)
  | configuration (error : ConfigurationError)
  | serialization (messageType : String)
  | transport (error : BrokerError)
  | domain (message : String)
  | rejected (refusal : Refusal)
  | unhandled (cause : String)
  | cancelled
  deriving DecidableEq

namespace BusError

/-- The wording of a bus error. -/
def message : BusError → String
  | .unregistered typeName => "message type `" ++ typeName ++ "` is not registered"
  | .conflictingQueues messageType first second =>
    "conflicting queue names for `" ++ messageType ++ "`: `" ++ first ++ "` and `" ++ second
      ++ "`"
  | .abstractEvent messageType => "cannot publish abstract event type `" ++ messageType ++ "`"
  | .configuration error => "configuration error: " ++ error.message
  | .serialization messageType => "failure to serialize `" ++ messageType ++ "`"
  | .transport error => error.message
  | .domain message => message
  | .rejected refusal => refusal.message
  | .unhandled cause => "unhandled failure: " ++ cause
  | .cancelled => "operation cancelled"

/-- Whether an error comes from how the bus is set up and not from running it. -/
def isConfiguration : BusError → Bool
  | .unregistered _ => true
  | .conflictingQueues _ _ _ => true
  | .abstractEvent _ => true
  | .configuration _ => true
  | _ => false

/-- The message that could not be processed in a number of attempts. -/
def exhausted (messageType : String) (attempts : UInt32) : BusError :=
  .domain ("message `" ++ messageType ++ "` could not be processed after " ++
    attempts.toNat.repr ++ " attempts")

/-- A handler's failure as a failure of the bus. -/
def ofHandler : HandlerError → BusError
  | .domain message => .domain message
  | .rejected refusal => .rejected refusal
  | .failed cause => .unhandled cause

end BusError

end AmqpBus

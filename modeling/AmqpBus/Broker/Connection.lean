import AmqpBus.Interaction
import AmqpBus.Operation
import AmqpBus.Options.Basic

/-!
# Connecting

A bus works over one channel of one connection, which it opens by the address in its
options.  The connection has a name, by which an operator finds it at the broker.
-/

namespace AmqpBus.Broker

/-- What connecting asks: that a connection is opened at an address under a name, and a
channel over it, each of which may fail, and that entries are logged. -/
inductive Opening where
  | connection (address name : String)
  | channel
  | log (entry : LogEntry)

/-- The replies. -/
def Opening.Reply : Opening → Type
  | .connection _ _ => Bool
  | .channel => Bool
  | .log _ => Unit

/-- The act of connecting. -/
abbrev Connecting (α : Type) : Type := Interaction Opening Opening.Reply α

/-- The act that asks once. -/
def Opening.ask (opening : Opening) : Connecting opening.Reply := .request opening

namespace Connecting

/-- Opens a connection. -/
def openConnection (address name : String) : Connecting Bool :=
  Opening.ask (.connection address name)

/-- Opens a channel. -/
def openChannel : Connecting Bool := Opening.ask .channel

/-- Writes a debugging entry to the log. -/
def debug (text : String) : Connecting Unit := Opening.ask (.log ⟨.debug, text⟩)

/-- Writes an error to the log. -/
def complain (text : String) : Connecting Unit := Opening.ask (.log ⟨.error, text⟩)

end Connecting

open Connecting

/-- The name of a connection whose options give none. -/
def defaultConnectionName : String := "messagebus"

/-- The name of the connection. -/
def connectionName (options : Options) : String :=
  if options.connectionName.isEmpty then defaultConnectionName else options.connectionName

/-- Opens a connection and a channel over it. -/
def connect (options : Options) : Connecting (Except BrokerError Unit) := do
  debug "creating amqp connection..."
  if ← openConnection options.uri (connectionName options) then
    debug "amqp connected"
    debug "creating amqp channel..."
    if ← openChannel then
      debug "channel created"
      return .ok ()
    else
      complain "error to create the channel"
      return .error .channel
  else
    complain "failure to connect"
    return .error .connection

end AmqpBus.Broker

import AmqpBus.Message.Format
import AmqpBus.Message.Inbound
import AmqpBus.Naming

/-!
# Ticks

A small bus that examples are about.  It carries ticks, which have no content, and a reject
event for ticks that come too late.
-/

namespace AmqpBus

/-- A bus with one reject event, for ticks that come too late. -/
def tickNaming : Naming where
  options := { exchangeName := "clock" }
  registry :=
    { registrations :=
        [⟨"clock::TickMissed", { space := "clock", name := "TickMissed", role := .reject }⟩]
      nodup_types := by decide
      nodup_names := by decide }

/-- A bus with ticks and the reject event for them. -/
def clockNaming : Naming where
  options := { exchangeName := "clock" }
  registry :=
    { registrations :=
        [⟨"clock::Tick", { space := "clock", name := "Tick", role := .event }⟩,
          ⟨"clock::TickMissed", { space := "clock", name := "TickMissed", role := .reject }⟩]
      nodup_types := by decide
      nodup_names := by decide }

/-- Ticks have no content. -/
def tickFormat : Format Unit where
  typeName := "clock::Tick"
  decode? payload := if payload.isEmpty then some () else none
  encode? _ := some ByteArray.empty

/-- The reject event for a tick says what went wrong. -/
def tickMissed (_ : Unit) (error : HandlerError) : RejectEvent :=
  ⟨"clock::TickMissed", some error.message.toUTF8⟩

/-- A tick that was delivered before as often as the count says. -/
def tick (count : UInt32) : Inbound where
  messageType := "clock.Tick"
  payload := ByteArray.empty
  context :=
    { id := ⟨List.replicate 32 0, rfl⟩
      retries := count
      createdAt :=
        { date := ⟨1970, 1, 1, by decide, by decide, by decide, by decide⟩
          time := ⟨0, 0, 0, 0, by decide, by decide, by decide, by decide⟩ } }

/-- A subscription to ticks whose dead letters are kept. -/
def tickRoute : Route where
  messageType := "clock.Tick"
  exchange := { name := "clock" }
  routingKey := "clock.tick"
  queue := ({ name := "ticks" } : Queue).withDeadLetters
  binding := { queue := "ticks", exchange := "clock", key := "clock.tick" }
  consumer := { tag := "ticks" }

end AmqpBus

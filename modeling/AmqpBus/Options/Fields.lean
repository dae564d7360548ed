import AmqpBus.Number.Bits
import AmqpBus.Options.Basic

/-!
# Reading options

Options are read from values of some notation: a record of fields by name, or a list of
them in order.  A notation says which of its values are texts, numbers, flags, lists and
groups of fields; the fields, their order and their defaults are the same in all.
-/

namespace AmqpBus

/-- How values of a notation are taken.  `fields?` finds the values of named fields in a
record, or in a list in the order of the names; a field that is not there has none. -/
structure Notation (V : Type) where
  isNull : V → Bool
  text? : V → Option String
  natural? : V → Option Nat
  flag? : V → Option Bool
  items? : V → Option (List V)
  fields? : List String → V → Option (List (Option V))

namespace Notation

variable {V : Type} (n : Notation V)

/-- A field with a default for when it is not there. -/
def givenOr {α : Type} (read : V → Option α) (default : α) : Option V → Option α
  | none => some default
  | some v => read v

/-- A field that may be null or not there. -/
def optional {α : Type} (read : V → Option α) : Option V → Option (Option α)
  | none => some none
  | some v => if n.isNull v then some none else (read v).map some

/-- A number that some bits hold. -/
def ofBits (bits : Nat) (v : V) : Option Nat :=
  (n.natural? v).filter (· < Number.capacity bits)

/-- The names of the fields of a convention, in order. -/
def conventionFields : List String := ["type_name", "queue_name", "routing_key"]

/-- A convention, which needs a type name. -/
def convention? (v : V) : Option Convention := do
  match ← n.fields? conventionFields v with
  | [typeName, queueName, routingKey] =>
    return {
      typeName := ← n.text? (← typeName)
      queueName := ← n.optional n.text? queueName
      routingKey := ← n.optional n.text? routingKey }
  | _ => none

/-- The names of the fields of options, in order. -/
def optionFields : List String :=
  ["host", "port", "vhost", "user", "password", "connection_name", "exchange_name", "retries",
    "retry_interval", "with_requeuing", "prefetch", "message_naming_conventions"]

/-- Options, in which each field may be missing. -/
def options? (v : V) : Option Options := do
  match ← n.fields? optionFields v with
  | [host, port, vhost, user, password, connectionName, exchangeName, retries, retryInterval,
      requeues, prefetch, conventions] =>
    return {
      host := ← givenOr n.text? "localhost" host
      port := .ofNat (← givenOr (n.ofBits 16) 5672 port)
      vhost := ← givenOr n.text? "" vhost
      user := ← givenOr n.text? "guest" user
      password := ← givenOr n.text? "guest" password
      connectionName := ← givenOr n.text? "" connectionName
      exchangeName := ← givenOr n.text? "" exchangeName
      retries := .ofNat (← givenOr (n.ofBits 32) 3 retries)
      retryInterval := .ofNat (← givenOr (n.ofBits 64) 2 retryInterval)
      requeues := ← givenOr n.flag? false requeues
      prefetch := .ofNat (← givenOr (n.ofBits 16) 1 prefetch)
      conventions := ← givenOr (fun v => do (← n.items? v).mapM n.convention?) [] conventions }
  | _ => none

end Notation

end AmqpBus

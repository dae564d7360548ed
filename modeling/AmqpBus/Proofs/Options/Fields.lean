import AmqpBus.Options.Fields
import Mathlib.Tactic.Common

/-!
# The fields of options

In every notation options are read field by field: the value under the name of the field, taken
for what a field of its kind holds, and without one what the standard options hold there.  Half
of the fields are texts.
-/

namespace AmqpBus

/-! ### Fields -/

/-- What a field of options holds: a text, a number of some bits, a flag or conventions. -/
inductive Options.Kind where
  | text
  | bits16
  | bits32
  | bits64
  | flag
  | conventions

/-- The values of a kind. -/
@[reducible]
def Options.Kind.Value : Kind → Type
  | text => String
  | bits16 => UInt16
  | bits32 => UInt32
  | bits64 => UInt64
  | flag => Bool
  | conventions => List Convention

/-- The fields of options, by the kind of what they hold. -/
inductive Options.Field : Kind → Type
  | host : Field .text
  | port : Field .bits16
  | vhost : Field .text
  | user : Field .text
  | password : Field .text
  | connectionName : Field .text
  | exchangeName : Field .text
  | retries : Field .bits32
  | retryInterval : Field .bits64
  | requeues : Field .flag
  | prefetch : Field .bits16
  | conventions : Field .conventions

namespace Options.Field

variable {kind : Kind}

/-- The name of a field. -/
def name : Field kind → String
  | host => "host"
  | port => "port"
  | vhost => "vhost"
  | user => "user"
  | password => "password"
  | connectionName => "connection_name"
  | exchangeName => "exchange_name"
  | retries => "retries"
  | retryInterval => "retry_interval"
  | requeues => "with_requeuing"
  | prefetch => "prefetch"
  | conventions => "message_naming_conventions"

/-- What options hold in a field. -/
def value : Field kind → Options → kind.Value
  | host, options => options.host
  | port, options => options.port
  | vhost, options => options.vhost
  | user, options => options.user
  | password, options => options.password
  | connectionName, options => options.connectionName
  | exchangeName, options => options.exchangeName
  | retries, options => options.retries
  | retryInterval, options => options.retryInterval
  | requeues, options => options.requeues
  | prefetch, options => options.prefetch
  | conventions, options => options.conventions

theorem name_mem_optionFields (f : Field kind) :
  f.name ∈ Notation.optionFields
  := by
  cases f <;> decide

end Options.Field

/-! ### Reading -/

namespace Notation

variable {V : Type} {n : Notation V} {v : V} {given : String → Option V} {options : Options}

/-- What a value is taken for in a field of a kind. -/
def read (n : Notation V) : (kind : Options.Kind) → V → Option kind.Value
  | .text => n.text?
  | .bits16 => fun v => (n.ofBits 16 v).map UInt16.ofNat
  | .bits32 => fun v => (n.ofBits 32 v).map UInt32.ofNat
  | .bits64 => fun v => (n.ofBits 64 v).map UInt64.ofNat
  | .flag => n.flag?
  | .conventions => fun v => do (← n.items? v).mapM n.convention?

/-- What a field holds, given the values under all names. -/
def readField (n : Notation V) {kind : Options.Kind} (given : String → Option V)
    (f : Options.Field kind) : Option kind.Value :=
  givenOr (n.read kind) (f.value .standard) (given f.name)

theorem givenOr_map {α β : Type} (read : V → Option α) (f : α → β) (default : α)
    (given : Option V) :
  givenOr (fun v => (read v).map f) (f default) given = (givenOr read default given).map f
  := by
  cases given <;> rfl

/-- Options are read field by field. -/
theorem options?_eq (hfields : n.fields? optionFields v = some (optionFields.map given)) :
  n.options? v = do
    return {
      host := ← n.readField given .host
      port := ← n.readField given .port
      vhost := ← n.readField given .vhost
      user := ← n.readField given .user
      password := ← n.readField given .password
      connectionName := ← n.readField given .connectionName
      exchangeName := ← n.readField given .exchangeName
      retries := ← n.readField given .retries
      retryInterval := ← n.readField given .retryInterval
      requeues := ← n.readField given .requeues
      prefetch := ← n.readField given .prefetch
      conventions := ← n.readField given .conventions }
  := by
  have hport : n.readField given .port
      = (givenOr (n.ofBits 16) 5672 (given "port")).map UInt16.ofNat := givenOr_map _ _ _ _
  have hretries : n.readField given .retries
      = (givenOr (n.ofBits 32) 3 (given "retries")).map UInt32.ofNat := givenOr_map _ _ _ _
  have hinterval : n.readField given .retryInterval
      = (givenOr (n.ofBits 64) 2 (given "retry_interval")).map UInt64.ofNat := givenOr_map _ _ _ _
  have hprefetch : n.readField given .prefetch
      = (givenOr (n.ofBits 16) 1 (given "prefetch")).map UInt16.ofNat := givenOr_map _ _ _ _
  rw [hport, hretries, hinterval, hprefetch]
  calc n.options? v
    -- numbers are read as naturals before they are put into words
    _ = do
        return {
          host := ← n.readField given .host
          port := .ofNat (← givenOr (n.ofBits 16) 5672 (given "port"))
          vhost := ← n.readField given .vhost
          user := ← n.readField given .user
          password := ← n.readField given .password
          connectionName := ← n.readField given .connectionName
          exchangeName := ← n.readField given .exchangeName
          retries := .ofNat (← givenOr (n.ofBits 32) 3 (given "retries"))
          retryInterval := .ofNat (← givenOr (n.ofBits 64) 2 (given "retry_interval"))
          requeues := ← n.readField given .requeues
          prefetch := .ofNat (← givenOr (n.ofBits 16) 1 (given "prefetch"))
          conventions := ← n.readField given .conventions } := by
      rw [options?, hfields]
      rfl
    _ = _ := by
      generalize givenOr (n.ofBits 16) 5672 (given "port") = port
      generalize givenOr (n.ofBits 32) 3 (given "retries") = retries
      generalize givenOr (n.ofBits 64) 2 (given "retry_interval") = interval
      generalize givenOr (n.ofBits 16) 1 (given "prefetch") = prefetch
      cases port <;> cases retries <;> cases interval <;> cases prefetch <;> rfl

/-- Options are read exactly when each field is. -/
theorem options?_eq_some_iff
    (hfields : n.fields? optionFields v = some (optionFields.map given)) :
  n.options? v = some options
    ↔ ∀ (kind : Options.Kind) (f : Options.Field kind),
      n.readField given f = some (f.value options)
  := by
  rw [options?_eq hfields]
  constructor
  · intro h
    obtain ⟨host, hhost, h⟩ := Option.bind_eq_some_iff.mp h
    obtain ⟨port, hport, h⟩ := Option.bind_eq_some_iff.mp h
    obtain ⟨vhost, hvhost, h⟩ := Option.bind_eq_some_iff.mp h
    obtain ⟨user, huser, h⟩ := Option.bind_eq_some_iff.mp h
    obtain ⟨password, hpassword, h⟩ := Option.bind_eq_some_iff.mp h
    obtain ⟨connectionName, hconnectionName, h⟩ := Option.bind_eq_some_iff.mp h
    obtain ⟨exchangeName, hexchangeName, h⟩ := Option.bind_eq_some_iff.mp h
    obtain ⟨retries, hretries, h⟩ := Option.bind_eq_some_iff.mp h
    obtain ⟨interval, hinterval, h⟩ := Option.bind_eq_some_iff.mp h
    obtain ⟨requeues, hrequeues, h⟩ := Option.bind_eq_some_iff.mp h
    obtain ⟨prefetch, hprefetch, h⟩ := Option.bind_eq_some_iff.mp h
    obtain ⟨conventions, hconventions, h⟩ := Option.bind_eq_some_iff.mp h
    obtain rfl := Option.some.inj h
    intro kind f
    cases f <;> assumption
  · intro h
    rw [h _ .host, h _ .port, h _ .vhost, h _ .user, h _ .password, h _ .connectionName,
      h _ .exchangeName, h _ .retries, h _ .retryInterval, h _ .requeues, h _ .prefetch,
      h _ .conventions]
    rfl

/-- An option that is a text is the text of its field, or its default when there is none. -/
theorem text_of_options? (o : Options.Field .text)
    (hfields : n.fields? optionFields v = some (optionFields.map given))
    (h : n.options? v = some options) :
  givenOr n.text? (o.value .standard) (given o.name) = some (o.value options)
  := (options?_eq_some_iff hfields).mp h .text o

end Notation

end AmqpBus

import AmqpBus.Error
import AmqpBus.Message.Descriptor

/-!
# The registry

The message types of a bus with their descriptors.  No type is registered twice and no
two types share a full name, so a full name on the wire tells the type.
-/

namespace AmqpBus

/-- A message type with its descriptor. -/
structure Registration extends type : MessageType where
  descriptor : Descriptor
  deriving DecidableEq

/-- A message type as it is entered into a registry.  The role it is entered in counts,
whatever role its descriptor was made with. -/
structure Registry.Entry extends type : MessageType where
  role : Role
  descriptor : Descriptor
  deriving DecidableEq

/-- The registration that an entry makes. -/
def Registry.Entry.registration (entry : Registry.Entry) : Registration :=
  ⟨entry.type, { entry.descriptor with role := entry.role }⟩

/-- Registrations in order, of distinct types under distinct full names. -/
structure Registry where
  registrations : List Registration
  nodup_types : (registrations.map (·.type)).Nodup
  nodup_names : (registrations.map (·.descriptor.fullName)).Nodup

namespace Registry

/-- The registry without types. -/
def empty : Registry := ⟨[], List.nodup_nil, List.nodup_nil⟩

/-- The registration of a type. -/
def find? (registry : Registry) (type : MessageType) : Option Registration :=
  registry.registrations.find? (·.type = type)

/-- The registration under a full name. -/
def holder? (registry : Registry) (fullName : String) : Option Registration :=
  registry.registrations.find? (·.descriptor.fullName = fullName)

/-- The descriptor of a type. -/
def descriptor (registry : Registry) (type : MessageType) : Except BusError Descriptor :=
  match registry.find? type with
  | some registration => .ok registration.descriptor
  | none => .error (.unregistered type.typeName)

/-- The number of types. -/
def size (registry : Registry) : Nat := registry.registrations.length

/-- Adds a registration.  A full name that is taken is reported before a type that is. -/
def add (registry : Registry) (new : Registration) : Except BusError Registry :=
  match hname : registry.holder? new.descriptor.fullName with
  | some old =>
    .error (.configuration
      (.sharedName new.descriptor.fullName old.typeName new.typeName))
  | none =>
    match htype : registry.find? new.type with
    | some _ => .error (.configuration (.registeredTwice new.typeName))
    | none =>
      .ok
        { registrations := registry.registrations ++ [new]
          nodup_types := by
            have hfree : ∀ r ∈ registry.registrations, r.type ≠ new.type := by
              simpa [find?] using htype
            rw [List.map_append, List.nodup_append]
            refine ⟨registry.nodup_types, by simp, ?_⟩
            grind
          nodup_names := by
            have hfree : ∀ r ∈ registry.registrations,
                r.descriptor.fullName ≠ new.descriptor.fullName := by
              simpa [holder?] using hname
            rw [List.map_append, List.nodup_append]
            refine ⟨registry.nodup_names, by simp, ?_⟩
            grind }

/-- The registry of a list of registrations, made in order. -/
def ofList (registrations : List Registration) : Except BusError Registry :=
  registrations.foldlM add empty

/-- The registry of a list of entries, made in order. -/
def ofEntries (entries : List Entry) : Except BusError Registry :=
  ofList (entries.map Entry.registration)

end Registry

end AmqpBus

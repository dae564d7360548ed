import AmqpBus.Message.Registry
import Mathlib.Data.List.Nodup

/-!
# Registered types

In a registry the full names of message types tell the types apart, although a full name is
put together from two parts and can be put together in more than one way.
-/

namespace AmqpBus.Registry

variable {registry : Registry} {type : MessageType} {descriptor : Descriptor}

theorem mem_of_descriptor (h : registry.descriptor type = .ok descriptor) :
  ⟨type, descriptor⟩ ∈ registry.registrations
  := by
  rw [Registry.descriptor] at h
  split at h
  · rename_i registration hfound
    obtain rfl := Except.ok.inj h
    have htype : registration.type = type := by
      simpa using List.find?_some hfound
    subst htype
    apply List.mem_of_find?_eq_some hfound
  · contradiction

theorem descriptor_of_unregistered (h : ∀ descriptor, registry.descriptor type ≠ .ok descriptor) :
  registry.descriptor type = .error (.unregistered type.typeName)
  := by
  rw [Registry.descriptor] at h ⊢
  split
  · rename_i registration hfound
    rw [hfound] at h
    apply absurd rfl (h registration.descriptor)
  · rfl

/-- A registry answers for a type with its registration. -/
theorem descriptor_of_mem {registration : Registration}
    (h : registration ∈ registry.registrations) :
  registry.descriptor registration.type = .ok registration.descriptor
  := by
  rw [Registry.descriptor]
  split
  · rename_i found hfound
    have htype : found.type = registration.type := by
      simpa using List.find?_some hfound
    have hsame := List.inj_on_of_nodup_map registry.nodup_types
      (List.mem_of_find?_eq_some hfound) h htype
    rw [hsame]
  · rename_i hnone
    have hne := List.find?_eq_none.mp hnone registration h
    simp at hne

/-- A full name belongs to one type. -/
theorem fullName_inj {other : MessageType} {other' : Descriptor}
    (h : registry.descriptor type = .ok descriptor)
    (h' : registry.descriptor other = .ok other') :
  descriptor.fullName = other'.fullName ↔ type = other
  := by
  constructor
  · intro hname
    have hsame := List.inj_on_of_nodup_map registry.nodup_names (mem_of_descriptor h)
      (mem_of_descriptor h') hname
    apply congrArg Registration.type hsame
  · rintro rfl
    rw [Except.ok.inj (h.symm.trans h')]

end AmqpBus.Registry

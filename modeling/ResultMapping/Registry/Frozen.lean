import ResultMapping.Registry.Basic

/-!
# Frozen registries

When a configuration is complete its registry is frozen: the descriptors are kept under their ids
for look-up, and none is added or changed any more.
-/

namespace ResultMapping

structure FrozenRegistry where
  descriptors : Dictionary Descriptor

namespace Registry

/-- The registered descriptors under their ids. -/
def freeze (r : Registry) : FrozenRegistry :=
  ⟨.ofList (r.descriptors.map fun d => (d.id, d))⟩

end Registry

namespace FrozenRegistry

def empty : FrozenRegistry := ⟨∅⟩

instance : Inhabited FrozenRegistry := ⟨empty⟩

def get? (r : FrozenRegistry) (id : String) : Option Descriptor := r.descriptors.get? id

/-- The descriptor of an id that has to be there. -/
def require (r : FrozenRegistry) (id : String) : Except MappingError Descriptor :=
  match r.get? id with
  | some d => .ok d
  | none => .error (.descriptorNotFound id)

def size (r : FrozenRegistry) : Nat := r.descriptors.size

def isEmpty (r : FrozenRegistry) : Bool := r.descriptors.isEmpty

end FrozenRegistry

end ResultMapping

import ResultMapping.Descriptor

/-!
# The registry

Descriptors are registered one by one while a configuration is put together, each under its own id.
A row that may be mapped by a descriptor with nested result maps has to be treated as nested itself.
So a new descriptor is forced to be nested if one of its discriminator's cases is registered and
nested, and if the new one is nested, so is every registered descriptor that has it as a case.
-/

namespace ResultMapping

structure Registry where
  /-- The descriptors in the order of their registration. -/
  descriptors : List Descriptor
  distinct : (descriptors.map (·.id)).Nodup

namespace Registry

def empty : Registry := ⟨[], .nil⟩

instance : Inhabited Registry := ⟨empty⟩

def ids (r : Registry) : List String := r.descriptors.map (·.id)

def get? (r : Registry) (id : String) : Option Descriptor := r.descriptors.find? (·.id == id)

def contains (r : Registry) (id : String) : Bool := r.descriptors.any (·.id == id)

def size (r : Registry) : Nat := r.descriptors.length

def isEmpty (r : Registry) : Bool := r.descriptors.isEmpty

/-- Whether a descriptor of this id is registered and nested. -/
def isNested (r : Registry) (id : String) : Bool :=
  r.descriptors.any fun d => d.id == id && d.hasNestedResultMaps

/-! ## Registration

In which order the cases of a discriminator are gone through makes no difference; `caseIds` is that
order.
-/

section Scanning

variable (caseIds : Descriptor → List String)

/-- Whether a new descriptor has to be forced: it is not nested, but a registered case is. -/
def forcesNew (r : Registry) (d : Descriptor) : Bool :=
  !d.hasNestedResultMaps && (caseIds d).any r.isNested

/-- The new descriptor as it is registered. -/
def receive (r : Registry) (d : Descriptor) : Descriptor :=
  if r.forcesNew caseIds d then d.forceNestedResultMaps else d

/-- Whether a registered descriptor has to be forced by a nested one of the given id. -/
def forcesOld (nestedId : String) (d : Descriptor) : Bool :=
  !d.hasNestedResultMaps && (caseIds d).contains nestedId

/-- The registered descriptors after a nested one has been received. -/
def forceOld (nestedId : String) (ds : List Descriptor) : List Descriptor :=
  ds.map fun d => if forcesOld caseIds nestedId d then d.forceNestedResultMaps else d

theorem map_id_forceOld (nestedId : String) (ds : List Descriptor) :
    (forceOld caseIds nestedId ds).map (·.id) = ds.map (·.id) := by
  rw [forceOld, List.map_map]
  refine List.map_congr_left fun d _ => ?_
  simp only [Function.comp_apply]
  split <;> rfl

theorem id_receive (r : Registry) (d : Descriptor) : (r.receive caseIds d).id = d.id := by
  rw [receive]
  split <;> rfl

/-- The descriptors after a new one has been registered. -/
def descriptorsAfter (r : Registry) (d : Descriptor) : List Descriptor :=
  let received := r.receive caseIds d
  (if received.hasNestedResultMaps then forceOld caseIds d.id r.descriptors else r.descriptors)
    ++ [received]

theorem map_id_descriptorsAfter (r : Registry) (d : Descriptor) :
    (r.descriptorsAfter caseIds d).map (·.id) = r.ids ++ [d.id] := by
  simp only [descriptorsAfter, List.map_append, List.map_cons, List.map_nil, id_receive, ids]
  split
  · rw [map_id_forceOld]
  · rfl

theorem nodup_descriptorsAfter (r : Registry) (d : Descriptor) (h : r.contains d.id = false) :
    ((r.descriptorsAfter caseIds d).map (·.id)).Nodup := by
  rw [map_id_descriptorsAfter]
  refine List.nodup_append.2 ⟨r.distinct, by simp, fun a ha b hb hab => ?_⟩
  obtain ⟨e, he, rfl⟩ := List.mem_map.1 ha
  have := List.any_eq_false.1 h e he
  simp_all

/-- What registering a descriptor reports: who was forced, and the descriptor at last. -/
def eventsOf (r : Registry) (d : Descriptor) : List Event :=
  let received := r.receive caseIds d
  let own := if r.forcesNew caseIds d then [Event.forcedByCase d.id] else []
  let others :=
    if received.hasNestedResultMaps then
      (r.descriptors.filter (forcesOld caseIds d.id)).map (.forcedByRegistration ·.id d.id)
    else []
  own ++ others ++ [.descriptorRegistered d.id received.hasNestedResultMaps]

/-- Registers a descriptor, unless its id is taken. -/
def addScanning (r : Registry) (d : Descriptor) : Except MappingError (Registry × List Event) :=
  if h : r.contains d.id then .error (.duplicateDescriptor d.id)
  else .ok (⟨r.descriptorsAfter caseIds d, nodup_descriptorsAfter caseIds r d (by simpa using h)⟩,
    r.eventsOf caseIds d)

end Scanning

/-- Registers a descriptor, unless its id is taken. -/
def add (r : Registry) (d : Descriptor) : Except MappingError (Registry × List Event) :=
  r.addScanning Descriptor.caseIds d

end Registry

end ResultMapping

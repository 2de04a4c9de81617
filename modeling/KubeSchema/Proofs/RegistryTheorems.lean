import KubeSchema.Proofs.ChainTheorems
import KubeSchema.Proofs.TableTheorems
import Mathlib.Data.List.Infix

/-!
# The invariant of the registry

A registry keeps four tables: the slots, the slots of the built-in types, the slots of names, and
the slots that names of one model share. `Coherent` says how the tables fit together. The first
registry is coherent (`coherent_initial`). Most operations only add slots and names (`Extends`); for
these it is enough to look at what is new (`Coherent.grow`).
-/

namespace KubeSchema

/-- The name and the definition of a pending reference. -/
def Descriptor.pending? : Descriptor → Option (String × String)
  | .model (.pending name referencedBy) => some (name, referencedBy)
  | _ => none

/-- Whether a name may lead to a type: never to an array or a map, and to a pending reference only
under the name that is pending. -/
def Descriptor.NamedBy (name : String) : Descriptor → Prop
  | .intrinsic _ => True
  | .model (.bound _) => True
  | .model (.pending other _) => other = name
  | _ => False

namespace Registry

variable {registry : Registry} {handle : Handle} {descriptor : Descriptor}

/-! ## Slots -/

lemma lt_size_of_descriptor? (h : registry.descriptor? handle = some descriptor) :
    handle.index < registry.size :=
  (List.getElem?_eq_some_iff.1 h).1

@[simp] lemma push_fst : (registry.push descriptor).1 = ⟨registry.size⟩ := rfl

@[simp] lemma size_push : (registry.push descriptor).2.size = registry.size + 1 := by
  simp [push, size]

@[simp] lemma lookup?_push (name : String) :
    (registry.push descriptor).2.lookup? name = registry.lookup? name := rfl

@[simp] lemma intrinsics_push : (registry.push descriptor).2.intrinsics = registry.intrinsics := rfl

@[simp] lemma models_push : (registry.push descriptor).2.models = registry.models := rfl

@[simp] lemma isSealed_push : (registry.push descriptor).2.isSealed = registry.isSealed := rfl

/-- After an addition a slot is the new one, or one of those before. -/
lemma descriptor?_push_eq_some_iff {other : Descriptor} :
    (registry.push descriptor).2.descriptor? handle = some other ↔
      (handle = ⟨registry.size⟩ ∧ other = descriptor) ∨
        registry.descriptor? handle = some other := by
  obtain ⟨index⟩ := handle
  rw [push, descriptor?, descriptor?, getElem?_concat_eq_some_iff, Handle.mk.injEq, size]

@[simp] lemma descriptor?_push_self :
    (registry.push descriptor).2.descriptor? ⟨registry.size⟩ = some descriptor :=
  descriptor?_push_eq_some_iff.2 (.inl ⟨rfl, rfl⟩)

@[simp] lemma descriptor?_withName (name : String) (other : Handle) :
    (registry.withName name other).descriptor? handle = registry.descriptor? handle := rfl

@[simp] lemma isSealed_withName (name : String) :
    (registry.withName name handle).isSealed = registry.isSealed := rfl

@[simp] lemma models_withName (name : String) :
    (registry.withName name handle).models = registry.models := rfl

@[simp] lemma intrinsics_withName (name : String) :
    (registry.withName name handle).intrinsics = registry.intrinsics := rfl

lemma lookup?_withName_eq_some_iff {name other : String} {found : Handle} :
    (registry.withName name handle).lookup? other = some found ↔
      (other = name ∧ found = handle) ∨ (other ≠ name ∧ registry.lookup? other = some found) :=
  Table.lookup?_insert_eq_some_iff _

@[simp] lemma descriptor?_sharing (id : ModelId) (other : Handle) :
    (registry.sharing id other).descriptor? handle = registry.descriptor? handle := by
  rw [sharing]
  split <;> rfl

@[simp] lemma lookup?_sharing (id : ModelId) (name : String) :
    (registry.sharing id handle).lookup? name = registry.lookup? name := by
  rw [sharing]
  split <;> rfl

@[simp] lemma isSealed_sharing (id : ModelId) :
    (registry.sharing id handle).isSealed = registry.isSealed := by
  rw [sharing]
  split <;> rfl

/-! ## Extension -/

/-- Slots and names are only added. -/
structure Extends (before after : Registry) : Prop where
  slots : before.slots <+: after.slots
  names : ∀ name handle, before.lookup? name = some handle → after.lookup? name = some handle

namespace Extends

variable {before between after : Registry}

theorem refl (registry : Registry) : registry.Extends registry :=
  ⟨List.prefix_refl _, fun _ _ found => found⟩

theorem trans (first : before.Extends between) (second : between.Extends after) :
    before.Extends after :=
  ⟨first.slots.trans second.slots,
    fun name handle found => second.names name handle (first.names name handle found)⟩

/-- A slot in use keeps its type. -/
theorem descriptor? (ext : before.Extends after) (h : before.descriptor? handle = some descriptor) :
    after.descriptor? handle = some descriptor := by
  have hlt := lt_size_of_descriptor? h
  obtain ⟨added, hadded⟩ := ext.slots
  rw [Registry.descriptor?, ← hadded, List.getElem?_append_left hlt]
  exact h

theorem push (registry : Registry) (descriptor : Descriptor) :
    registry.Extends (registry.push descriptor).2 :=
  ⟨List.prefix_append _ _, fun _ _ found => found⟩

theorem withName {name : String} (fresh : registry.lookup? name = none) :
    registry.Extends (registry.withName name handle) := by
  refine ⟨List.prefix_refl _, fun other found h => ?_⟩
  refine lookup?_withName_eq_some_iff.2 (.inr ⟨fun same => ?_, h⟩)
  rw [same, fresh] at h
  cases h

end Extends

/-! ## Coherence -/

/-- How the tables of a registry fit together. -/
structure Coherent (registry : Registry) : Prop where
  /-- The slots of the built-in types are exactly the ones listed, one for each type. -/
  intrinsic : ∀ type handle, registry.intrinsics.lookup type = some handle ↔
    registry.descriptor? handle = some (.intrinsic type)
  /-- A shared slot holds the model it is shared for. -/
  model : ∀ id handle, registry.models.lookup id = some handle →
    registry.descriptor? handle = some (.model (.bound id))
  /-- A pending slot is the slot of the pending name. -/
  pending : ∀ handle name definition,
    registry.descriptor? handle = some (.model (.pending name definition)) →
      registry.lookup? name = some handle
  named : ∀ name handle, registry.lookup? name = some handle →
    ∃ descriptor, registry.descriptor? handle = some descriptor ∧ descriptor.NamedBy name
  /-- The elements of an array or a map come before it. -/
  element : ∀ handle descriptor element, registry.descriptor? handle = some descriptor →
    descriptor.element? = some element → element.index < handle.index
  /-- A well-known name has its built-in type. -/
  wellKnown : ∀ name type, Registry.wellKnown.lookup name = some type →
    ∃ handle, registry.lookup? name = some handle ∧
      registry.descriptor? handle = some (.intrinsic type)

namespace Coherent

lemma lt_size (coherent : registry.Coherent) {name : String}
    (found : registry.lookup? name = some handle) : handle.index < registry.size := by
  obtain ⟨descriptor, h, -⟩ := coherent.named _ _ found
  exact lt_size_of_descriptor? h

/-- The elements of a type in use are in use. -/
lemma element_lt_size (coherent : registry.Coherent) {element : Handle}
    (h : registry.descriptor? handle = some descriptor) (he : descriptor.element? = some element) :
    element.index < registry.size :=
  (coherent.element _ _ _ h he).trans (lt_size_of_descriptor? h)

/-- What is coherent stays so while it grows, as long as the entries that are new fit in. -/
theorem grow {before after : Registry} (coherent : before.Coherent) (growth : before.Extends after)
    (intrinsic : ∀ type handle, after.intrinsics.lookup type = some handle ↔
      after.descriptor? handle = some (.intrinsic type))
    (models : after.models = before.models)
    (names : ∀ name handle, after.lookup? name = some handle → before.lookup? name = some handle ∨
      ∃ descriptor, after.descriptor? handle = some descriptor ∧ descriptor.NamedBy name)
    (slots : ∀ handle descriptor, after.descriptor? handle = some descriptor →
      before.descriptor? handle = some descriptor ∨
        ((∀ name definition, descriptor = .model (.pending name definition) →
          after.lookup? name = some handle) ∧
        ∀ element, descriptor.element? = some element → element.index < handle.index)) :
    after.Coherent where
  intrinsic := intrinsic
  model id handle h := growth.descriptor? (coherent.model id handle (models ▸ h))
  pending handle name definition h := by
    rcases slots handle _ h with old | ⟨pending, -⟩
    · exact growth.names _ _ (coherent.pending _ _ _ old)
    · exact pending name definition rfl
  named name handle h := by
    rcases names name handle h with old | new
    · obtain ⟨descriptor, holds, named⟩ := coherent.named name handle old
      exact ⟨descriptor, growth.descriptor? holds, named⟩
    · exact new
  element handle descriptor element h he := by
    rcases slots handle descriptor h with old | ⟨-, first⟩
    · exact coherent.element _ _ _ old he
    · exact first element he
  wellKnown name type h := by
    obtain ⟨handle, found, holds⟩ := coherent.wellKnown name type h
    exact ⟨handle, growth.names _ _ found, growth.descriptor? holds⟩

/-- A type that is neither built in nor pending may be added when its elements are in use. -/
theorem push (coherent : registry.Coherent) (notIntrinsic : descriptor.intrinsic? = none)
    (notPending : descriptor.pending? = none)
    (inUse : ∀ element, descriptor.element? = some element → element.index < registry.size) :
    (registry.push descriptor).2.Coherent := by
  refine coherent.grow (.push registry descriptor) (fun type handle => ?_) rfl (fun _ _ => .inl)
    fun handle other h => ?_
  · rw [intrinsics_push, coherent.intrinsic, descriptor?_push_eq_some_iff]
    refine ⟨.inr, fun h => h.resolve_left ?_⟩
    rintro ⟨-, rfl⟩
    cases notIntrinsic
  · rcases descriptor?_push_eq_some_iff.1 h with ⟨rfl, rfl⟩ | old
    · refine .inr ⟨fun name definition same => ?_, inUse⟩
      rw [same] at notPending
      cases notPending
    · exact .inl old

/-- A new name may lead to any type in use that its name allows. -/
theorem withName (coherent : registry.Coherent) {name : String}
    (fresh : registry.lookup? name = none) (holds : registry.descriptor? handle = some descriptor)
    (named : descriptor.NamedBy name) : (registry.withName name handle).Coherent := by
  refine coherent.grow (.withName fresh) coherent.intrinsic rfl (fun other found h => ?_)
    fun _ _ => .inl
  rcases lookup?_withName_eq_some_iff.1 h with ⟨rfl, rfl⟩ | ⟨-, old⟩
  · exact .inr ⟨descriptor, holds, named⟩
  · exact .inl old

/-- A slot that holds a model may be shared for it. -/
theorem sharing (coherent : registry.Coherent) {id : ModelId}
    (holds : registry.descriptor? handle = some (.model (.bound id))) :
    (registry.sharing id handle).Coherent := by
  rw [Registry.sharing]
  cases registry.models.lookup id with
  | some _ => exact coherent
  | none =>
    refine { coherent with model := fun other found h => ?_ }
    rcases lookup_cons_eq_some_iff.1 h with ⟨rfl, rfl⟩ | ⟨-, h⟩
    · exact holds
    · exact coherent.model _ _ h

end Coherent

/-! ## The first registry -/

lemma slots_initial :
    initial.slots = [.intrinsic .dateTime, .intrinsic .intOrString, .intrinsic .string,
      .intrinsic .deleteOptions] := by
  decide +kernel

lemma intrinsics_initial :
    initial.intrinsics = [(.deleteOptions, ⟨3⟩), (.string, ⟨2⟩), (.intOrString, ⟨1⟩),
      (.dateTime, ⟨0⟩)] := by
  decide +kernel

lemma names_initial :
    initial.names.entries = [(WellKnown.quantity, ⟨2⟩), (WellKnown.deleteOptions, ⟨3⟩),
      (WellKnown.microTime, ⟨0⟩), (WellKnown.time, ⟨0⟩), (WellKnown.intOrString, ⟨1⟩)] := by
  decide +kernel

lemma models_initial : initial.models = [] := by
  decide +kernel

lemma isSealed_initial : initial.isSealed = false := by
  decide +kernel

/-- In the first registry all types are built in. -/
lemma descriptor?_initial (h : initial.descriptor? handle = some descriptor) :
    ∃ type, descriptor = .intrinsic type := by
  have mem : descriptor ∈ initial.slots := List.mem_of_getElem? h
  rw [slots_initial] at mem
  simp only [List.mem_cons, List.not_mem_nil, or_false] at mem
  rcases mem with rfl | rfl | rfl | rfl <;> exact ⟨_, rfl⟩

lemma wellKnown_keys_nodup : (wellKnown.map Prod.fst).Nodup := by
  decide +kernel

/-- In the first registry exactly the well-known names have types, their built-in ones. -/
lemma lookup?_initial_eq_some_iff {name : String} :
    initial.lookup? name = some handle ↔
      ∃ type, wellKnown.lookup name = some type ∧
        initial.descriptor? handle = some (.intrinsic type) := by
  obtain ⟨index⟩ := handle
  rw [lookup?, Table.lookup?_eq_some_iff, names_initial, descriptor?, slots_initial]
  simp only [lookup_eq_some_iff_mem wellKnown_keys_nodup]
  simp only [wellKnown, List.mem_cons, Prod.mk.injEq, Handle.mk.injEq, List.not_mem_nil, or_false]
  constructor
  · rintro (⟨rfl, rfl⟩ | ⟨rfl, rfl⟩ | ⟨rfl, rfl⟩ | ⟨rfl, rfl⟩ | ⟨rfl, rfl⟩) <;>
      exact ⟨_, by simp, rfl⟩
  · rintro ⟨type, mem, holds⟩
    rcases index with _ | _ | _ | _ | index <;>
      rcases mem with ⟨rfl, rfl⟩ | ⟨rfl, rfl⟩ | ⟨rfl, rfl⟩ | ⟨rfl, rfl⟩ | ⟨rfl, rfl⟩ <;>
      simp at holds ⊢

theorem coherent_initial : initial.Coherent where
  intrinsic type handle := by
    obtain ⟨index⟩ := handle
    have nodup : (initial.intrinsics.map Prod.fst).Nodup := by
      rw [intrinsics_initial]
      decide
    rw [lookup_eq_some_iff_mem nodup, intrinsics_initial, descriptor?, slots_initial]
    rcases index with _ | _ | _ | _ | index <;> simp [eq_comm]
  model id handle h := by
    rw [models_initial] at h
    cases h
  pending handle name definition h := by
    obtain ⟨type, htype⟩ := descriptor?_initial h
    cases htype
  named name handle h := by
    obtain ⟨type, -, holds⟩ := lookup?_initial_eq_some_iff.1 h
    exact ⟨.intrinsic type, holds, trivial⟩
  element handle descriptor element h he := by
    obtain ⟨type, rfl⟩ := descriptor?_initial h
    cases he
  wellKnown name type h := by
    -- every built-in type of a well-known name has a slot
    have slot : ∃ handle, initial.descriptor? handle = some (.intrinsic type) := by
      rw [lookup_eq_some_iff_mem wellKnown_keys_nodup] at h
      simp only [Registry.wellKnown, List.mem_cons, Prod.mk.injEq, List.not_mem_nil, or_false] at h
      rcases h with ⟨-, rfl⟩ | ⟨-, rfl⟩ | ⟨-, rfl⟩ | ⟨-, rfl⟩ | ⟨-, rfl⟩
      exacts [⟨⟨0⟩, by decide +kernel⟩, ⟨⟨0⟩, by decide +kernel⟩, ⟨⟨1⟩, by decide +kernel⟩,
        ⟨⟨2⟩, by decide +kernel⟩, ⟨⟨3⟩, by decide +kernel⟩]
    obtain ⟨handle, holds⟩ := slot
    exact ⟨handle, lookup?_initial_eq_some_iff.2 ⟨type, h, holds⟩, holds⟩

end Registry

end KubeSchema

import KubeSchema.Proofs.RegistryTheorems

/-!
# Binding and sealing keep the registry coherent

Binding a name to a model has four outcomes (`bindModel_cases`); only one of them changes a slot,
and that slot was pending. Sealing changes no slot.
-/

namespace KubeSchema.Registry

variable {registry : Registry} {handle : Handle} {descriptor : Descriptor}

/-! ## Binding -/

/-- The registry in which a slot holds a model. -/
def fill (registry : Registry) (handle : Handle) (id : ModelId) : Registry :=
  { registry with slots := registry.slots.set handle.index (.model (.bound id)) }

lemma descriptor?_fill_self {id : ModelId} (inUse : handle.index < registry.size) :
    (registry.fill handle id).descriptor? handle = some (.model (.bound id)) := by
  rw [fill, descriptor?]
  exact List.getElem?_set_self inUse

lemma descriptor?_fill_of_ne {other : Handle} (id : ModelId) (h : other ≠ handle) :
    (registry.fill handle id).descriptor? other = registry.descriptor? other := by
  have hindex : handle.index ≠ other.index := fun same => h (by cases other; cases handle; simp_all)
  rw [fill, descriptor?, descriptor?]
  exact List.getElem?_set_ne hindex

/-- What binding a name can do: keep its type, fill its pending slot, share the slot of the model,
or add a slot. -/
lemma bindModel_cases (registry : Registry) (name : String) (id : ModelId) :
    (∃ handle, registry.lookup? name = some handle ∧
      (∀ other definition,
        registry.descriptor? handle ≠ some (.model (.pending other definition))) ∧
      registry.bindModel name id = (handle, registry)) ∨
    (∃ handle other definition, registry.lookup? name = some handle ∧
      registry.descriptor? handle = some (.model (.pending other definition)) ∧
      registry.bindModel name id = (handle, (registry.fill handle id).sharing id handle)) ∨
    (∃ handle, registry.lookup? name = none ∧ registry.models.lookup id = some handle ∧
      registry.bindModel name id = (handle, registry.withName name handle)) ∨
    (registry.lookup? name = none ∧ registry.models.lookup id = none ∧
      registry.bindModel name id = (⟨registry.size⟩,
        ((registry.push (.model (.bound id))).2.sharing id ⟨registry.size⟩).withName name
          ⟨registry.size⟩)) := by
  cases found : registry.lookup? name with
  | some handle =>
    by_cases h : ∃ other definition,
        registry.descriptor? handle = some (.model (.pending other definition))
    · obtain ⟨other, definition, holds⟩ := h
      refine .inr (.inl ⟨handle, other, definition, rfl, holds, ?_⟩)
      rw [bindModel, found]
      simp only [holds]
      rfl
    · refine .inl ⟨handle, rfl, fun other definition holds => h ⟨other, definition, holds⟩, ?_⟩
      rw [bindModel, found]
      simp only
      split
      · next other definition holds => exact absurd ⟨other, definition, holds⟩ h
      · rfl
  | none =>
    refine .inr (.inr ?_)
    cases shared : registry.models.lookup id with
    | some handle => exact .inl ⟨handle, rfl, rfl, by rw [bindModel, found]; simp only [shared]⟩
    | none =>
      refine .inr ⟨rfl, rfl, ?_⟩
      rw [bindModel, found]
      simp only [shared]
      rfl

/-- A pending slot may be filled. -/
lemma Coherent.fill (coherent : registry.Coherent) {other definition : String}
    (holds : registry.descriptor? handle = some (.model (.pending other definition)))
    (id : ModelId) : (registry.fill handle id).Coherent := by
  have inUse := lt_size_of_descriptor? holds
  -- slots that hold anything but a pending reference stay
  have old : ∀ {found descriptor}, registry.descriptor? found = some descriptor →
      descriptor.pending? = none →
      (registry.fill handle id).descriptor? found = some descriptor := by
    intro found descriptor h hp
    rw [descriptor?_fill_of_ne id, h]
    rintro rfl
    rw [holds] at h
    cases h
    cases hp
  -- and slots that hold anything but a model are such slots
  have new : ∀ {found descriptor}, (registry.fill handle id).descriptor? found = some descriptor →
      descriptor ≠ .model (.bound id) → registry.descriptor? found = some descriptor ∧
        found ≠ handle := by
    intro found descriptor h hne
    have hfound : found ≠ handle := by
      rintro rfl
      rw [descriptor?_fill_self inUse] at h
      cases h
      exact hne rfl
    exact ⟨by rw [← h, descriptor?_fill_of_ne id hfound], hfound⟩
  refine ⟨fun type found => ?_, fun model found h => old (coherent.model model found h) rfl,
    fun found name origin h => ?_, fun name found h => ?_,
    fun found descriptor element h he => ?_, fun name type h => ?_⟩
  · rw [show (registry.fill handle id).intrinsics = registry.intrinsics from rfl,
      coherent.intrinsic]
    exact ⟨fun h => old h rfl, fun h => (new h (by simp)).1⟩
  · exact coherent.pending _ _ _ (new h (by simp)).1
  · obtain ⟨descriptor, hdescriptor, named⟩ := coherent.named name found h
    by_cases hfound : found = handle
    · subst hfound
      exact ⟨_, descriptor?_fill_self inUse, trivial⟩
    · exact ⟨descriptor, by rw [descriptor?_fill_of_ne id hfound, hdescriptor], named⟩
  · refine coherent.element _ _ _ (new h ?_).1 he
    rintro rfl
    cases he
  · obtain ⟨found, hfound, htype⟩ := coherent.wellKnown name type h
    exact ⟨found, hfound, old htype rfl⟩

theorem coherent_bindModel (coherent : registry.Coherent) (name : String) (id : ModelId) :
    (registry.bindModel name id).2.Coherent := by
  obtain ⟨handle, -, -, heq⟩ | ⟨handle, other, definition, -, holds, heq⟩ |
    ⟨handle, fresh, shared, heq⟩ | ⟨fresh, unshared, heq⟩ := bindModel_cases registry name id
  · rw [heq]
    exact coherent
  · -- the pending slot of the name is filled, and may be the first of its model
    rw [heq]
    exact (coherent.fill holds id).sharing (descriptor?_fill_self (lt_size_of_descriptor? holds))
  · rw [heq]
    exact coherent.withName fresh (coherent.model id handle shared) trivial
  · -- a slot is added, shared and named: three steps, each of which keeps the registry coherent
    rw [heq]
    have added : (registry.push (.model (.bound id))).2.Coherent :=
      coherent.push rfl rfl (fun element h => by cases h)
    have holds : (registry.push (.model (.bound id))).2.descriptor? ⟨registry.size⟩
        = some (.model (.bound id)) := descriptor?_push_self
    have shared := (descriptor?_sharing id ⟨registry.size⟩).trans holds
    exact (added.sharing holds).withName ((lookup?_sharing id name).trans fresh) shared trivial

/-! ## Sealing -/

/-- The registry that refuses unknown names. -/
def closed (registry : Registry) : Registry := { registry with isSealed := true }

/-- Sealing reports the first pending name, or closes the registry. -/
lemma sealUp_cases (registry : Registry) :
    (∃ name definition, registry.firstPending? = some (name, definition) ∧
      registry.sealUp = (.error (.unresolvableReference definition name), registry)) ∨
    (registry.firstPending? = none ∧ registry.sealUp = (.ok (), registry.closed)) := by
  rw [sealUp]
  cases registry.firstPending? with
  | some pending => exact .inl ⟨pending.1, pending.2, rfl, rfl⟩
  | none => exact .inr ⟨rfl, rfl⟩

lemma Coherent.closed (coherent : registry.Coherent) : registry.closed.Coherent :=
  { coherent with }

lemma extends_closed (registry : Registry) : registry.Extends registry.closed :=
  ⟨List.prefix_refl _, fun _ _ found => found⟩

end KubeSchema.Registry

import KubeSchema.Proofs.BindTheorems
import KubeSchema.Proofs.ServeTheorems

/-!
# What a call of a registry can do

A registry takes any calls in any order: a name may be bound before or after it is referred to, and
sealing may come early, repeatedly or never. `Change` is all that one call can do to a coherent
registry, and `change_after` shows that no call does more. It says where each slot comes from, which
names are new, and what stays.
-/

namespace KubeSchema

/-- The name at which a chain stops. -/
def ChainStop.name? : ChainStop → Option String
  | reference name => some name
  | _ => none

lemma ChainStop.name?_eq_some_iff {stop : ChainStop} {name : String} :
    stop.name? = some name ↔ stop = .reference name := by
  cases stop <;> simp [name?]

namespace Descriptor

variable {descriptor : Descriptor}

lemma pending?_eq_some_iff {name definition : String} :
    descriptor.pending? = some (name, definition) ↔
      descriptor = .model (.pending name definition) := by
  rcases descriptor with - | - | - | (- | ⟨other, origin⟩) <;> simp [pending?]

lemma pending?_eq_none_iff :
    descriptor.pending? = none ↔
      ∀ name definition, descriptor ≠ .model (.pending name definition) := by
  rcases descriptor with - | - | - | (- | ⟨other, origin⟩) <;> simp [pending?]

end Descriptor

namespace Registry

/-! ## Calls -/

/-- A call of a registry. -/
inductive Call
  | intrinsic (type : Intrinsic)
  | resolve (context : Context) (schema : PropertySchema)
  | reference (context : Context) (name : String)
  | bind (name : String) (model : ModelId)
  | sealUp

namespace Call

/-- The name that a call refers to, and the definition that refers to it. -/
def reference? : Call → Option (String × String)
  | resolve context schema => schema.stop.name?.map fun name => (name, context.definition)
  | reference context name => some (name, context.definition)
  | _ => none

/-- The name that a call binds, and the model. -/
def binding? : Call → Option (String × ModelId)
  | bind name model => some (name, model)
  | _ => none

end Call

/-- The registry after a call. A call that fails leaves the registry that its outcome holds. -/
def after (registry : Registry) : Call → Registry
  | .intrinsic type => (registry.intrinsic type).2
  | .resolve context schema => (registry.resolve context schema).2
  | .reference context name => (registry.resolveReference context name).2
  | .bind name model => (registry.bindModel name model).2
  | .sealUp => registry.sealUp.2

variable {registry : Registry} {call : Call} {handle : Handle} {descriptor : Descriptor}

/-! ## What a call can do -/

/-- Where the type of a slot can come from in a call. -/
inductive Origin (before : Registry) (call : Call) (handle : Handle) : Descriptor → Prop
  /-- The slot had the type before. -/
  | kept {descriptor : Descriptor} (holds : before.descriptor? handle = some descriptor) :
    Origin before call handle descriptor
  /-- The slot is new and does not refer to a model. -/
  | added {descriptor : Descriptor} (new : before.size ≤ handle.index)
    (plain : ∀ link, descriptor ≠ .model link) : Origin before call handle descriptor
  /-- The slot is new, for a name without a type that the call refers to. -/
  | pending {name definition : String} (new : before.size ≤ handle.index)
    (unknown : before.lookup? name = none) (isOpen : before.isSealed = false)
    (refers : call.reference? = some (name, definition)) :
    Origin before call handle (.model (.pending name definition))
  /-- The slot was pending for the name that the call binds. -/
  | filled {name definition : String} {id : ModelId}
    (holds : before.descriptor? handle = some (.model (.pending name definition)))
    (binds : call = .bind name id) : Origin before call handle (.model (.bound id))
  /-- The slot is new, for the first name of a model. -/
  | bound {name : String} {id : ModelId} (new : handle = ⟨before.size⟩)
    (binds : call = .bind name id) (unknown : before.lookup? name = none)
    (unshared : before.models.lookup id = none) : Origin before call handle (.model (.bound id))

/-- What a call can do to a coherent registry. -/
structure Change (before : Registry) (call : Call) (after : Registry) : Prop where
  coherent : after.Coherent
  /-- A name keeps its handle. -/
  names : ∀ name handle, before.lookup? name = some handle → after.lookup? name = some handle
  /-- A slot keeps its type, unless it is pending and the call binds its name. -/
  slots : ∀ handle descriptor, before.descriptor? handle = some descriptor →
    after.descriptor? handle = some descriptor ∨
      ∃ name definition id, descriptor = .model (.pending name definition) ∧
        call = .bind name id ∧ after.descriptor? handle = some (.model (.bound id))
  origin : ∀ handle descriptor, after.descriptor? handle = some descriptor →
    Origin before call handle descriptor
  /-- A name that is new is pending if the call refers to it, and bound if the call binds it. -/
  named : ∀ name handle, after.lookup? name = some handle → before.lookup? name = some handle ∨
    before.lookup? name = none ∧
      ((∃ definition, call.reference? = some (name, definition) ∧ before.isSealed = false ∧
          after.descriptor? handle = some (.model (.pending name definition))) ∨
        ∃ id, call = .bind name id ∧ after.descriptor? handle = some (.model (.bound id)))
  /-- A name that the call refers to has a type from then on, unless unknown names are refused. -/
  refers : ∀ name definition, call.reference? = some (name, definition) →
    before.isSealed = false → ∃ handle, after.lookup? name = some handle
  /-- A name that the call binds has a type from then on, and is not pending. -/
  binds : ∀ name id, call = .bind name id → ∃ handle descriptor,
    after.lookup? name = some handle ∧ after.descriptor? handle = some descriptor ∧
      descriptor.pending? = none
  isSealed : before.isSealed = true → after.isSealed = true
  isOpen : before.isSealed = false → call ≠ .sealUp → after.isSealed = false

lemma Extends.size_le {before after : Registry} (ext : before.Extends after) :
    before.size ≤ after.size :=
  ext.slots.length_le

/-! ## Asking for a type -/

section Chain

variable {context : Context} {stop : ChainStop}

/-- The stop of a chain adds its built-in type, or makes its name pending. -/
lemma origin_resolveStop
    (hcall : call.reference? = stop.name?.map fun name => (name, context.definition))
    (h : (registry.resolveStop context stop).2.descriptor? handle = some descriptor) :
    Origin registry call handle descriptor := by
  cases stop with
  | reference name =>
    rw [resolveStop] at h
    obtain ⟨found, -, heq⟩ | ⟨-, -, heq⟩ | ⟨unknown, isOpen, heq⟩ :=
      resolveReference_cases registry context name
    · rw [heq] at h
      exact .kept h
    · rw [heq] at h
      exact .kept h
    · rw [heq] at h
      rcases descriptor?_push_eq_some_iff.1 h with ⟨rfl, rfl⟩ | old
      · exact .pending (Nat.le_refl _) unknown isOpen hcall
      · exact .kept old
  | intrinsic type =>
    obtain ⟨found, -, heq⟩ | ⟨-, heq⟩ := intrinsic_cases registry type
    · rw [resolveStop, heq] at h
      exact .kept h
    · rw [resolveStop, heq] at h
      rcases descriptor?_push_eq_some_iff.1 h with ⟨rfl, rfl⟩ | old
      · exact .added (Nat.le_refl _) fun link same => (by cases same)
      · exact .kept old
  | arrayWithoutItems => exact .kept h
  | unsupportedType typeName => exact .kept h

/-- Wrappers add arrays and maps only. -/
lemma origin_wrapAll {outcome : Outcome Handle} (resolving : registry.Resolving outcome)
    (inner : ∀ handle descriptor, outcome.2.descriptor? handle = some descriptor →
      Origin registry call handle descriptor) (wrappers : List Wrapper) :
    ∀ handle descriptor, (wrapAll wrappers outcome).2.descriptor? handle = some descriptor →
      Origin registry call handle descriptor := by
  induction wrappers with
  | nil => exact inner
  | cons wrapper rest ih =>
    have hsize := (resolving.wrapAll rest).growth.size_le
    rw [wrapAll_cons]
    revert ih hsize
    rcases wrapAll rest outcome with ⟨error | element, last⟩
    · exact fun ih _ => ih
    · intro ih hsize handle descriptor h
      rcases descriptor?_push_eq_some_iff.1 h with ⟨rfl, rfl⟩ | old
      · exact .added hsize fun link same => (by cases wrapper <;> cases same)
      · exact ih handle descriptor old

/-- A name at which a chain stops has a type afterwards, unless unknown names are refused. -/
lemma lookup?_resolveStop_reference {name : String} (isOpen : registry.isSealed = false) :
    ∃ handle, (registry.resolveStop context (.reference name)).2.lookup? name = some handle := by
  rw [resolveStop]
  obtain ⟨handle, found, heq⟩ | ⟨-, isSealed, -⟩ | ⟨-, -, heq⟩ :=
    resolveReference_cases registry context name
  · rw [heq]
    exact ⟨handle, found⟩
  · rw [isOpen] at isSealed
    cases isSealed
  · rw [heq]
    exact ⟨_, lookup?_withName_eq_some_iff.2 (.inl ⟨rfl, rfl⟩)⟩

@[simp] lemma lookup?_wrapAll (wrappers : List Wrapper) (outcome : Outcome Handle)
    (name : String) : (wrapAll wrappers outcome).2.lookup? name = outcome.2.lookup? name := by
  induction wrappers with
  | nil => rfl
  | cons wrapper rest ih =>
    rw [wrapAll_cons, ← ih]
    rcases wrapAll rest outcome with ⟨error | element, last⟩ <;> rfl

/-- What following a chain can do. -/
lemma change_chain (coherent : registry.Coherent) (context : Context) (stop : ChainStop)
    (wrappers : List Wrapper)
    (hcall : call.reference? = stop.name?.map fun name => (name, context.definition))
    (notBinding : call.binding? = none) :
    registry.Change call (wrapAll wrappers (registry.resolveStop context stop)).2 := by
  have resolving := resolving_resolveStop coherent context stop
  have whole := resolving.wrapAll wrappers
  have origin := origin_wrapAll resolving (fun _ _ => origin_resolveStop hcall) wrappers
  refine ⟨whole.coherent, whole.growth.names, fun handle descriptor h => .inl ?_, origin,
    fun name handle h => ?_, fun name definition hname isOpen => ?_, fun name id same => ?_,
    fun isSealed => whole.isSealed.trans isSealed, fun isOpen _ => whole.isSealed.trans isOpen⟩
  · exact whole.growth.descriptor? h
  · -- a name that is new has a new slot, which is pending for the name referred to
    rcases whole.names name handle h with old | ⟨definition, holds⟩
    · exact .inl old
    · rcases origin handle _ holds with old | ⟨-, plain⟩ | ⟨-, unknown, isOpen, refers⟩ | - | -
      · exact .inl (coherent.pending _ _ _ old)
      · exact absurd rfl (plain _)
      · exact .inr ⟨unknown, .inl ⟨definition, refers, isOpen, holds⟩⟩
  · rw [hcall] at hname
    cases stop with
    | reference other =>
      cases hname
      rw [lookup?_wrapAll]
      exact lookup?_resolveStop_reference isOpen
    | intrinsic type => cases hname
    | arrayWithoutItems => cases hname
    | unsupportedType typeName => cases hname
  · rw [same] at notBinding
    cases notBinding

end Chain

/-! ## Binding and sealing -/

@[simp] lemma lookup?_fill (id : ModelId) (name : String) :
    (registry.fill handle id).lookup? name = registry.lookup? name := rfl

@[simp] lemma isSealed_fill (id : ModelId) :
    (registry.fill handle id).isSealed = registry.isSealed := rfl

/-- A name leads to a pending slot only if it is the name that is pending there. -/
lemma Coherent.eq_of_pending (coherent : registry.Coherent) {name other definition : String}
    (found : registry.lookup? name = some handle)
    (holds : registry.descriptor? handle = some (.model (.pending other definition))) :
    other = name := by
  obtain ⟨descriptor, hdescriptor, named⟩ := coherent.named name handle found
  rw [holds] at hdescriptor
  cases hdescriptor
  exact named

/-- A well-known name is never pending. -/
lemma Coherent.lookup_wellKnown_of_pending (coherent : registry.Coherent)
    {name definition : String}
    (holds : registry.descriptor? handle = some (.model (.pending name definition))) :
    Registry.wellKnown.lookup name = none := by
  refine Option.eq_none_iff_forall_ne_some.2 fun type known => ?_
  obtain ⟨other, found, htype⟩ := coherent.wellKnown name type known
  rw [coherent.pending _ _ _ holds] at found
  cases found
  rw [holds] at htype
  cases htype

/-- A name that is not pending keeps its type when it is bound. -/
lemma change_bind_settled (coherent : registry.Coherent) {name : String} {id : ModelId}
    (found : registry.lookup? name = some handle)
    (settled : ∀ other definition,
      registry.descriptor? handle ≠ some (.model (.pending other definition))) :
    registry.Change (.bind name id) registry := by
  refine ⟨coherent, fun _ _ found => found, fun _ _ => .inl, fun _ _ => .kept, fun _ _ => .inl,
    fun _ _ hname => (by cases hname), fun other model same => ?_, fun isSealed => isSealed,
    fun isOpen _ => isOpen⟩
  cases same
  obtain ⟨descriptor, holds, -⟩ := coherent.named name handle found
  refine ⟨handle, descriptor, found, holds, Descriptor.pending?_eq_none_iff.2 ?_⟩
  rintro other definition rfl
  exact settled other definition holds

/-- The pending slot of a name is filled when the name is bound. -/
lemma change_bind_pending {name definition : String} {id : ModelId}
    (found : registry.lookup? name = some handle)
    (holds : registry.descriptor? handle = some (.model (.pending name definition)))
    (whole : ((registry.fill handle id).sharing id handle).Coherent) :
    registry.Change (.bind name id) ((registry.fill handle id).sharing id handle) := by
  have hself : ((registry.fill handle id).sharing id handle).descriptor? handle
      = some (.model (.bound id)) := by
    rw [descriptor?_sharing]
    exact descriptor?_fill_self (lt_size_of_descriptor? holds)
  have hrest : ∀ found, found ≠ handle →
      ((registry.fill handle id).sharing id handle).descriptor? found
        = registry.descriptor? found := by
    intro found hne
    rw [descriptor?_sharing, descriptor?_fill_of_ne id hne]
  have hnames : ∀ other, ((registry.fill handle id).sharing id handle).lookup? other
      = registry.lookup? other := by
    intro other
    rw [lookup?_sharing, lookup?_fill]
  have hsealed : ((registry.fill handle id).sharing id handle).isSealed = registry.isSealed := by
    rw [isSealed_sharing, isSealed_fill]
  refine ⟨whole, fun other found h => (hnames other).trans h, fun found descriptor h => ?_,
    fun found descriptor h => ?_, fun other found h => .inl ((hnames other).symm.trans h),
    fun _ _ hname => (by cases hname), fun other model same => ?_,
    fun isSealed => hsealed.trans isSealed, fun isOpen _ => hsealed.trans isOpen⟩
  · by_cases hfound : found = handle
    · subst hfound
      rw [holds] at h
      cases h
      exact .inr ⟨name, definition, id, rfl, rfl, hself⟩
    · exact .inl ((hrest found hfound).trans h)
  · by_cases hfound : found = handle
    · subst hfound
      rw [hself] at h
      cases h
      exact .filled holds rfl
    · exact .kept ((hrest found hfound).symm.trans h)
  · cases same
    exact ⟨handle, _, (hnames name).trans found, hself, rfl⟩

/-- An unknown name shares the slot of its model when it is bound. -/
lemma change_bind_shared (coherent : registry.Coherent) {name : String} {id : ModelId}
    (unknown : registry.lookup? name = none) (shared : registry.models.lookup id = some handle)
    (whole : (registry.withName name handle).Coherent) :
    registry.Change (.bind name id) (registry.withName name handle) := by
  have holds : (registry.withName name handle).descriptor? handle = some (.model (.bound id)) := by
    rw [descriptor?_withName]
    exact coherent.model id handle shared
  refine ⟨whole, (Extends.withName unknown).names, fun found descriptor h => .inl ?_,
    fun found descriptor h => .kept ?_, fun other found h => ?_, fun _ _ hname => (by cases hname),
    fun other model same => ?_, fun isSealed => isSealed, fun isOpen _ => isOpen⟩
  · rwa [descriptor?_withName]
  · rwa [descriptor?_withName] at h
  · rcases lookup?_withName_eq_some_iff.1 h with ⟨rfl, rfl⟩ | ⟨-, old⟩
    · exact .inr ⟨unknown, .inr ⟨id, rfl, holds⟩⟩
    · exact .inl old
  · cases same
    exact ⟨handle, _, lookup?_withName_eq_some_iff.2 (.inl ⟨rfl, rfl⟩), holds, rfl⟩

/-- The registry with a slot for a model and its first name. -/
def withModel (registry : Registry) (name : String) (id : ModelId) : Registry :=
  ((registry.push (.model (.bound id))).2.sharing id ⟨registry.size⟩).withName name ⟨registry.size⟩

lemma descriptor?_withModel_eq_some_iff {name : String} {id : ModelId} :
    (registry.withModel name id).descriptor? handle = some descriptor ↔
      (handle = ⟨registry.size⟩ ∧ descriptor = .model (.bound id)) ∨
        registry.descriptor? handle = some descriptor := by
  rw [withModel, descriptor?_withName, descriptor?_sharing, descriptor?_push_eq_some_iff]

lemma lookup?_withModel_eq_some_iff {name other : String} {id : ModelId} :
    (registry.withModel name id).lookup? other = some handle ↔
      (other = name ∧ handle = ⟨registry.size⟩) ∨
        other ≠ name ∧ registry.lookup? other = some handle := by
  rw [withModel, lookup?_withName_eq_some_iff, lookup?_sharing, lookup?_push]

@[simp] lemma isSealed_withModel (name : String) (id : ModelId) :
    (registry.withModel name id).isSealed = registry.isSealed := by
  rw [withModel, isSealed_withName, isSealed_sharing, isSealed_push]

/-- An unknown name gets a slot when it is the first name of its model to be bound. -/
lemma change_bind_first {name : String} {id : ModelId} (unknown : registry.lookup? name = none)
    (unshared : registry.models.lookup id = none)
    (whole : (registry.withModel name id).Coherent) :
    registry.Change (.bind name id) (registry.withModel name id) := by
  have holds : (registry.withModel name id).descriptor? ⟨registry.size⟩
      = some (.model (.bound id)) :=
    descriptor?_withModel_eq_some_iff.2 (.inl ⟨rfl, rfl⟩)
  refine ⟨whole, fun other found h => ?_,
    fun found descriptor h => .inl (descriptor?_withModel_eq_some_iff.2 (.inr h)),
    fun found descriptor h => ?_, fun other found h => ?_, fun _ _ hname => (by cases hname),
    fun other model same => ?_, fun isSealed => (isSealed_withModel name id).trans isSealed,
    fun isOpen _ => (isSealed_withModel name id).trans isOpen⟩
  · refine lookup?_withModel_eq_some_iff.2 (.inr ⟨?_, h⟩)
    rintro rfl
    rw [unknown] at h
    cases h
  · rcases descriptor?_withModel_eq_some_iff.1 h with ⟨rfl, rfl⟩ | old
    · exact .bound rfl rfl unknown unshared
    · exact .kept old
  · rcases lookup?_withModel_eq_some_iff.1 h with ⟨rfl, rfl⟩ | ⟨-, old⟩
    · exact .inr ⟨unknown, .inr ⟨id, rfl, holds⟩⟩
    · exact .inl old
  · cases same
    exact ⟨_, _, lookup?_withModel_eq_some_iff.2 (.inl ⟨rfl, rfl⟩), holds, rfl⟩

/-- What binding can do. -/
lemma change_bindModel (coherent : registry.Coherent) (name : String) (id : ModelId) :
    registry.Change (.bind name id) (registry.bindModel name id).2 := by
  have whole := coherent_bindModel coherent name id
  obtain ⟨handle, found, settled, heq⟩ | ⟨handle, other, definition, found, holds, heq⟩ |
    ⟨handle, unknown, shared, heq⟩ | ⟨unknown, unshared, heq⟩ := bindModel_cases registry name id
  · rw [heq]
    exact change_bind_settled coherent found settled
  · have hother : other = name := coherent.eq_of_pending found holds
    subst hother
    rw [heq] at whole ⊢
    exact change_bind_pending found holds whole
  · rw [heq] at whole ⊢
    exact change_bind_shared coherent unknown shared whole
  · rw [heq] at whole ⊢
    exact change_bind_first unknown unshared whole

/-- What sealing can do. -/
lemma change_sealUp (coherent : registry.Coherent) :
    registry.Change .sealUp registry.sealUp.2 := by
  have same : registry.Change .sealUp registry :=
    ⟨coherent, fun _ _ found => found, fun _ _ => .inl, fun _ _ => .kept, fun _ _ => .inl,
      fun _ _ hname => (by cases hname), fun _ _ hbind => (by cases hbind),
      fun isSealed => isSealed, fun isOpen _ => isOpen⟩
  obtain ⟨name, definition, -, heq⟩ | ⟨-, heq⟩ := sealUp_cases registry
  · rw [heq]
    exact same
  · rw [heq]
    exact { same with
      coherent := coherent.closed
      isSealed := fun _ => rfl
      isOpen := fun _ notSealing => absurd rfl notSealing }

/-! ## All calls -/

/-- No call does more than a `Change`. -/
theorem change_after (coherent : registry.Coherent) (call : Call) :
    registry.Change call (registry.after call) := by
  cases call with
  | intrinsic type => exact change_chain coherent ⟨"", ""⟩ (.intrinsic type) [] rfl rfl
  | resolve context schema =>
    rw [after, resolve_eq]
    exact change_chain coherent context schema.stop schema.wrappers rfl rfl
  | reference context name => exact change_chain coherent context (.reference name) [] rfl rfl
  | bind name id => exact change_bindModel coherent name id
  | sealUp => exact change_sealUp coherent

namespace Change

variable {after : Registry} {name : String} {id : ModelId}

/-- A name that a call binds is not pending afterwards. -/
lemma pending?_eq_none (change : registry.Change (.bind name id) after)
    (found : after.lookup? name = some handle)
    (holds : after.descriptor? handle = some descriptor) : descriptor.pending? = none := by
  obtain ⟨other, settled, hother, hsettled, none⟩ := change.binds name id rfl
  rw [found] at hother
  cases hother
  rw [holds] at hsettled
  cases hsettled
  exact none

/-- Binding a name fills its pending slot. -/
lemma fills {definition : String} (change : registry.Change (.bind name id) after)
    (found : registry.lookup? name = some handle)
    (holds : registry.descriptor? handle = some (.model (.pending name definition))) :
    after.descriptor? handle = some (.model (.bound id)) := by
  rcases change.slots _ _ holds with kept | ⟨other, origin, model, -, binds, filled⟩
  · cases change.pending?_eq_none (change.names _ _ found) kept
  · cases binds
    exact filled

end Change

end Registry

end KubeSchema

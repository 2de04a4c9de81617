import KubeSchema.Proofs.RegistryTheorems

/-!
# Resolving keeps the registry coherent

Each operation that resolving is made of comes with an inversion lemma that says all it can do
(`intrinsic_cases`, `resolveReference_cases`). `Resolving` collects what holds of every step, and
goes through all wrappers of a chain: slots and names are only added, the shared slots and the seal
are left alone, and a failure changes nothing at all.
-/

namespace KubeSchema.Registry

variable {registry : Registry} {handle : Handle} {descriptor : Descriptor}

/-! ## Built-in types -/

/-- What asking for a built-in type can do. -/
lemma intrinsic_cases (registry : Registry) (type : Intrinsic) :
    (∃ handle, registry.intrinsics.lookup type = some handle ∧
      registry.intrinsic type = (handle, registry)) ∨
    (registry.intrinsics.lookup type = none ∧
      registry.intrinsic type = (⟨registry.size⟩,
        { (registry.push (.intrinsic type)).2 with
          intrinsics := (type, ⟨registry.size⟩) :: registry.intrinsics })) := by
  cases h : registry.intrinsics.lookup type with
  | some handle => exact .inl ⟨handle, rfl, by rw [intrinsic, h]⟩
  | none => exact .inr ⟨rfl, by rw [intrinsic, h]; rfl⟩

/-- The handle of a built-in type leads to it. -/
lemma descriptor?_intrinsic (coherent : registry.Coherent) (type : Intrinsic) :
    (registry.intrinsic type).2.descriptor? (registry.intrinsic type).1
      = some (.intrinsic type) := by
  obtain ⟨handle, found, heq⟩ | ⟨-, heq⟩ := intrinsic_cases registry type
  · rw [heq]
    exact (coherent.intrinsic _ _).1 found
  · rw [heq]
    exact descriptor?_push_self

lemma extends_intrinsic (registry : Registry) (type : Intrinsic) :
    registry.Extends (registry.intrinsic type).2 := by
  obtain ⟨handle, -, heq⟩ | ⟨-, heq⟩ := intrinsic_cases registry type
  · rw [heq]
    exact .refl registry
  · rw [heq]
    exact ⟨List.prefix_append _ _, fun _ _ found => found⟩

theorem coherent_intrinsic (coherent : registry.Coherent) (type : Intrinsic) :
    (registry.intrinsic type).2.Coherent := by
  have growth := extends_intrinsic registry type
  obtain ⟨handle, -, heq⟩ | ⟨fresh, heq⟩ := intrinsic_cases registry type
  · rw [heq]
    exact coherent
  · rw [heq] at growth ⊢
    refine coherent.grow growth (fun other handle => ?_) rfl (fun _ _ => .inl)
      fun handle descriptor h => ?_
    · show ((type, _) :: registry.intrinsics).lookup other = some handle ↔
        (registry.push (.intrinsic type)).2.descriptor? handle = some (.intrinsic other)
      rw [lookup_cons_eq_some_iff, descriptor?_push_eq_some_iff, coherent.intrinsic]
      constructor
      · rintro (⟨rfl, rfl⟩ | ⟨-, h⟩)
        · exact .inl ⟨rfl, rfl⟩
        · exact .inr h
      · rintro (⟨rfl, h⟩ | h)
        · cases h
          exact .inl ⟨rfl, rfl⟩
        · -- the new type had no slot before
          refine .inr ⟨fun same => ?_, h⟩
          rw [same, ← coherent.intrinsic, fresh] at h
          cases h
    · rcases descriptor?_push_eq_some_iff.1 h with ⟨-, rfl⟩ | old
      · exact .inr ⟨fun name definition same => (by cases same), fun element he => (by cases he)⟩
      · exact .inl old

@[simp] lemma models_intrinsic (registry : Registry) (type : Intrinsic) :
    (registry.intrinsic type).2.models = registry.models := by
  obtain ⟨handle, -, heq⟩ | ⟨-, heq⟩ := intrinsic_cases registry type
  · rw [heq]
  · rw [heq]; rfl

@[simp] lemma isSealed_intrinsic (registry : Registry) (type : Intrinsic) :
    (registry.intrinsic type).2.isSealed = registry.isSealed := by
  obtain ⟨handle, -, heq⟩ | ⟨-, heq⟩ := intrinsic_cases registry type
  · rw [heq]
  · rw [heq]; rfl

@[simp] lemma lookup?_intrinsic (registry : Registry) (type : Intrinsic) (name : String) :
    (registry.intrinsic type).2.lookup? name = registry.lookup? name := by
  obtain ⟨handle, -, heq⟩ | ⟨-, heq⟩ := intrinsic_cases registry type
  · rw [heq]
  · rw [heq]; rfl

/-! ## References -/

/-- What a reference can do: find its name, be refused, or leave the name pending. -/
lemma resolveReference_cases (registry : Registry) (context : Context) (name : String) :
    (∃ handle, registry.lookup? name = some handle ∧
      registry.resolveReference context name = (.ok handle, registry)) ∨
    (registry.lookup? name = none ∧ registry.isSealed = true ∧
      registry.resolveReference context name
        = (.error (.unresolvableReference context.definition name), registry)) ∨
    (registry.lookup? name = none ∧ registry.isSealed = false ∧
      registry.resolveReference context name
        = (.ok ⟨registry.size⟩,
          (registry.push (.model (.pending name context.definition))).2.withName name
            ⟨registry.size⟩)) := by
  cases found : registry.lookup? name with
  | some handle => exact .inl ⟨handle, rfl, by rw [resolveReference, found]⟩
  | none =>
    refine .inr ?_
    cases sealed : registry.isSealed with
    | true => exact .inl ⟨rfl, rfl, by simp [resolveReference, found, sealed]⟩
    | false => exact .inr ⟨rfl, rfl, by simp [resolveReference, found, sealed]⟩

/-- A name that is new may become pending in a slot of its own. -/
theorem coherent_pending (coherent : registry.Coherent) {name : String}
    (fresh : registry.lookup? name = none) (definition : String) :
    ((registry.push (.model (.pending name definition))).2.withName name
      ⟨registry.size⟩).Coherent := by
  have growth : registry.Extends ((registry.push (.model (.pending name definition))).2.withName
      name ⟨registry.size⟩) :=
    (Extends.push registry _).trans (.withName fresh)
  refine coherent.grow growth (fun type handle => ?_) rfl (fun other handle h => ?_)
    fun handle descriptor h => ?_
  · rw [intrinsics_withName, intrinsics_push, descriptor?_withName, coherent.intrinsic,
      descriptor?_push_eq_some_iff]
    refine ⟨.inr, fun h => h.resolve_left ?_⟩
    rintro ⟨-, h⟩
    cases h
  · rcases lookup?_withName_eq_some_iff.1 h with ⟨rfl, rfl⟩ | ⟨-, old⟩
    · exact .inr ⟨_, descriptor?_push_self, rfl⟩
    · exact .inl old
  · rcases descriptor?_push_eq_some_iff.1 h with ⟨rfl, rfl⟩ | old
    · -- the slot that is new is the slot of the name that is new
      refine .inr ⟨fun other origin same => ?_, fun element he => (by cases he)⟩
      cases same
      exact lookup?_withName_eq_some_iff.2 (.inl ⟨rfl, rfl⟩)
    · exact .inl old

/-! ## Schemas -/

/-- What a step of resolving does to a coherent registry. -/
structure Resolving (before : Registry) (outcome : Outcome Handle) : Prop where
  coherent : outcome.2.Coherent
  growth : before.Extends outcome.2
  /-- A name that is new is pending. -/
  names : ∀ name handle, outcome.2.lookup? name = some handle →
    before.lookup? name = some handle ∨
      ∃ definition, outcome.2.descriptor? handle = some (.model (.pending name definition))
  models : outcome.2.models = before.models
  isSealed : outcome.2.isSealed = before.isSealed
  /-- The handle given is in use. -/
  inUse : ∀ handle, outcome.1 = .ok handle → handle.index < outcome.2.size
  /-- A failure leaves everything as it was. -/
  atomic : ∀ error, outcome.1 = .error error → outcome.2 = before

/-- Failing without a change. -/
lemma Resolving.failed (coherent : registry.Coherent) (error : CompileError) :
    registry.Resolving (.error error, registry) :=
  ⟨coherent, .refl registry, fun _ _ => .inl, rfl, rfl, fun _ h => (by cases h), fun _ _ => rfl⟩

lemma resolving_intrinsic (coherent : registry.Coherent) (type : Intrinsic) :
    registry.Resolving (succeed (registry.intrinsic type)) := by
  refine ⟨coherent_intrinsic coherent type, extends_intrinsic registry type,
    fun name handle h => ?_, models_intrinsic registry type, isSealed_intrinsic registry type,
    fun handle h => ?_, fun error h => by cases h⟩
  · exact .inl (lookup?_intrinsic registry type name ▸ h)
  · cases h
    exact lt_size_of_descriptor? (descriptor?_intrinsic coherent type)

lemma resolving_resolveReference (coherent : registry.Coherent) (context : Context)
    (name : String) : registry.Resolving (registry.resolveReference context name) := by
  obtain ⟨handle, found, heq⟩ | ⟨-, -, heq⟩ | ⟨fresh, -, heq⟩ :=
    resolveReference_cases registry context name
  · rw [heq]
    refine ⟨coherent, .refl registry, fun _ _ => .inl, rfl, rfl, fun other h => ?_,
      fun error h => by cases h⟩
    cases h
    exact coherent.lt_size found
  · rw [heq]
    exact .failed coherent _
  · rw [heq]
    refine ⟨coherent_pending coherent fresh context.definition,
      (Extends.push registry _).trans (Extends.withName fresh), fun other handle h => ?_, rfl, rfl,
      fun handle h => ?_, fun error h => by cases h⟩
    · rcases lookup?_withName_eq_some_iff.1 h with ⟨rfl, rfl⟩ | ⟨-, h⟩
      · exact .inr ⟨_, descriptor?_push_self⟩
      · exact .inl h
    · cases h
      exact lt_size_of_descriptor? descriptor?_push_self

lemma resolving_resolveStop (coherent : registry.Coherent) (context : Context)
    (stop : ChainStop) : registry.Resolving (registry.resolveStop context stop) := by
  cases stop with
  | reference name => exact resolving_resolveReference coherent context name
  | intrinsic type => exact resolving_intrinsic coherent type
  | arrayWithoutItems => exact .failed coherent _
  | unsupportedType typeName => exact .failed coherent _

lemma Resolving.wrap {before : Registry} {outcome : Outcome Handle}
    (resolving : before.Resolving outcome) (wrapper : Wrapper) :
    before.Resolving (Registry.wrap outcome wrapper.descriptor) := by
  obtain ⟨result, registry⟩ := outcome
  cases result with
  | error error => exact resolving
  | ok inner =>
    have inUse := resolving.inUse inner rfl
    have coherent : (registry.push (wrapper.descriptor inner)).2.Coherent := by
      refine resolving.coherent.push ?_ ?_ fun element h => ?_
      · cases wrapper <;> rfl
      · cases wrapper <;> rfl
      · cases wrapper <;> · cases h; exact inUse
    refine ⟨coherent, resolving.growth.trans (Extends.push registry _), fun name handle h => ?_,
      resolving.models, resolving.isSealed, fun handle h => ?_, fun error h => by cases h⟩
    · rcases resolving.names name handle h with h | ⟨definition, h⟩
      · exact .inl h
      · exact .inr ⟨definition, (Extends.push registry _).descriptor? h⟩
    · cases h
      exact lt_size_of_descriptor? descriptor?_push_self

lemma Resolving.wrapAll {before : Registry} {outcome : Outcome Handle}
    (resolving : before.Resolving outcome) (wrappers : List Wrapper) :
    before.Resolving (Registry.wrapAll wrappers outcome) := by
  induction wrappers with
  | nil => exact resolving
  | cons wrapper rest ih => exact ih.wrap wrapper

theorem resolving_resolve (coherent : registry.Coherent) (context : Context)
    (schema : PropertySchema) : registry.Resolving (registry.resolve context schema) := by
  rw [resolve_eq]
  exact (resolving_resolveStop coherent context schema.stop).wrapAll schema.wrappers

end KubeSchema.Registry

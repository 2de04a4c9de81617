import KubeSchema.Proofs.RunTheorems

/-!
# What a handle stands for

The handle that resolving gives leads through the wrappers of the schema to the handle of its stop
(`Represents`). Neither wrappers nor names ever change, so this lasts through all calls
(`Represents.kept`), and at any time the tree of the handle is the type that the schema stands
for by the names as they are then (`Represents.tree?_eq_denote`), also where a name has been bound
since. While unknown names are allowed, resolving fails only at faults (`exists_resolve_ok_iff`).
-/

namespace KubeSchema.Registry

variable {registry before after : Registry} {handle outer inner : Handle} {wrappers : List Wrapper}
  {context : Context} {schema : PropertySchema} {stop : ChainStop}

/-- Wrappers lead from one handle to another. -/
def Unwraps (registry : Registry) : List Wrapper → Handle → Handle → Prop
  | [], outer, inner => outer = inner
  | wrapper :: rest, outer, inner =>
    ∃ element, registry.descriptor? outer = some (wrapper.descriptor element) ∧
      registry.Unwraps rest element inner

/-- The handle is that of the name or the built-in type at which a chain stops. -/
def HoldsStop (registry : Registry) (handle : Handle) : ChainStop → Prop
  | .reference name => registry.lookup? name = some handle
  | .intrinsic type => registry.descriptor? handle = some (.intrinsic type)
  | _ => False

/-- The handle leads through the wrappers of the schema to its stop. -/
def Represents (registry : Registry) (schema : PropertySchema) (handle : Handle) : Prop :=
  ∃ inner, registry.Unwraps schema.wrappers handle inner ∧ registry.HoldsStop inner schema.stop

/-- The type of a name. -/
def typeOf? (registry : Registry) (name : String) : Option TypeTree :=
  (registry.lookup? name).bind registry.tree?

/-! ## Handles keep standing for their schemas -/

/-- Slots of wrappers are not pending, so that they stay. -/
lemma Unwraps.kept (unwraps : before.Unwraps wrappers outer inner) (keeps : before.Keeps after) :
    after.Unwraps wrappers outer inner := by
  induction wrappers generalizing outer with
  | nil => exact unwraps
  | cons wrapper rest ih =>
    obtain ⟨element, holds, unwraps⟩ := unwraps
    have settled : (wrapper.descriptor element).pending? = none := by cases wrapper <;> rfl
    exact ⟨element, keeps.settled _ _ holds settled, ih unwraps⟩

lemma HoldsStop.kept (holdsStop : before.HoldsStop handle stop) (keeps : before.Keeps after) :
    after.HoldsStop handle stop := by
  cases stop with
  | reference name => exact keeps.names _ _ holdsStop
  | intrinsic type => exact keeps.settled _ _ holdsStop rfl
  | arrayWithoutItems => exact holdsStop
  | unsupportedType typeName => exact holdsStop

lemma Represents.kept (represents : before.Represents schema handle) (keeps : before.Keeps after) :
    after.Represents schema handle := by
  obtain ⟨inner, unwraps, holdsStop⟩ := represents
  exact ⟨inner, unwraps.kept keeps, holdsStop.kept keeps⟩

/-! ## Resolving gives handles that stand for schemas -/

/-- Wrapping a handle gives one from which the wrappers lead back. -/
lemma exists_wrapAll_ok (wrappers : List Wrapper) (handle : Handle) (registry : Registry) :
    ∃ outer last, wrapAll wrappers (.ok handle, registry) = (.ok outer, last) ∧
      registry.Extends last ∧ last.Unwraps wrappers outer handle := by
  induction wrappers with
  | nil => exact ⟨handle, registry, rfl, .refl _, rfl⟩
  | cons wrapper rest ih =>
    obtain ⟨outer, last, heq, growth, unwraps⟩ := ih
    have added := Extends.push last (wrapper.descriptor outer)
    refine ⟨⟨last.size⟩, (last.push (wrapper.descriptor outer)).2, by rw [wrapAll_cons, heq]; rfl,
      growth.trans added, outer, descriptor?_push_self, ?_⟩
    exact unwraps.kept added.keeps

/-- A chain's stop is resolved to its handle. -/
lemma holdsStop_resolveStop (coherent : registry.Coherent)
    (h : registry.resolveStop context stop = (.ok handle, after)) :
    after.HoldsStop handle stop := by
  cases stop with
  | reference name => exact lookup?_resolveReference h
  | intrinsic type =>
    cases h
    exact descriptor?_intrinsic coherent type
  | arrayWithoutItems => cases h
  | unsupportedType typeName => cases h

theorem represents_resolve (coherent : registry.Coherent)
    (h : (registry.resolve context schema).1 = .ok handle) :
    (registry.resolve context schema).2.Represents schema handle := by
  rw [resolve_eq] at h ⊢
  rcases hinner : registry.resolveStop context schema.stop with ⟨error | inner, between⟩
  · rw [hinner, wrapAll_error] at h
    cases h
  · have hstop := holdsStop_resolveStop coherent hinner
    obtain ⟨outer, last, heq, growth, unwraps⟩ := exists_wrapAll_ok schema.wrappers inner between
    rw [hinner, heq] at h
    rw [heq]
    cases h
    exact ⟨inner, unwraps, hstop.kept growth.keeps⟩

/-- While unknown names are allowed, a schema is resolved unless its chain stops at a fault. -/
theorem exists_resolve_ok_iff (isOpen : registry.isSealed = false) :
    (∃ handle, (registry.resolve context schema).1 = .ok handle) ↔
      schema.stop.fault? context.property = none := by
  have gives : ∀ inner between, registry.resolveStop context schema.stop = (.ok inner, between) →
      ∃ handle, (wrapAll schema.wrappers (registry.resolveStop context schema.stop)).1
        = .ok handle := by
    intro inner between heq
    obtain ⟨outer, last, hwrap, -, -⟩ := exists_wrapAll_ok schema.wrappers inner between
    exact ⟨outer, by rw [heq, hwrap]⟩
  rw [resolve_eq]
  cases hstop : schema.stop with
  | reference name =>
    rw [hstop] at gives
    refine iff_of_true ?_ rfl
    obtain ⟨found, -, heq⟩ | ⟨-, isSealed, -⟩ | ⟨-, -, heq⟩ :=
      resolveReference_cases registry context name
    · exact gives _ _ heq
    · rw [isOpen] at isSealed
      cases isSealed
    · exact gives _ _ heq
  | intrinsic type =>
    rw [hstop] at gives
    exact iff_of_true (gives _ _ rfl) rfl
  | arrayWithoutItems => simp [resolveStop, refuse, ChainStop.fault?]
  | unsupportedType typeName => simp [resolveStop, refuse, ChainStop.fault?]

/-! ## The trees of handles -/

lemma Represents.lt_size (represents : registry.Represents schema handle)
    (coherent : registry.Coherent) : handle.index < registry.size := by
  obtain ⟨inner, unwraps, hstop⟩ := represents
  cases hwrappers : schema.wrappers with
  | cons wrapper rest =>
    rw [hwrappers] at unwraps
    obtain ⟨element, holds, -⟩ := unwraps
    exact lt_size_of_descriptor? holds
  | nil =>
    rw [hwrappers] at unwraps
    obtain rfl : handle = inner := unwraps
    cases hs : schema.stop with
    | reference name =>
      rw [hs] at hstop
      exact coherent.lt_size hstop
    | intrinsic type =>
      rw [hs] at hstop
      exact lt_size_of_descriptor? hstop
    | arrayWithoutItems =>
      rw [hs] at hstop
      exact hstop.elim
    | unsupportedType typeName =>
      rw [hs] at hstop
      exact hstop.elim

lemma Unwraps.tree? (unwraps : registry.Unwraps wrappers outer inner)
    (coherent : registry.Coherent) :
    registry.tree? outer = (registry.tree? inner).map (wrappers.foldr Wrapper.tree) := by
  induction wrappers generalizing outer with
  | nil =>
    cases unwraps
    simp
  | cons wrapper rest ih =>
    obtain ⟨element, holds, unwraps⟩ := unwraps
    rw [tree?_of_wrapper coherent holds, ih unwraps, Option.map_map]
    rfl

/-- A handle that stands for a schema has the type of the schema by the names of the registry. -/
theorem Represents.tree?_eq_denote (represents : registry.Represents schema handle)
    (coherent : registry.Coherent) :
    registry.tree? handle = schema.denote registry.typeOf? := by
  obtain ⟨inner, unwraps, hstop⟩ := represents
  rw [unwraps.tree? coherent, PropertySchema.denote_eq]
  congr 1
  cases h : schema.stop with
  | reference name =>
    rw [h] at hstop
    have found : registry.lookup? name = some inner := hstop
    rw [ChainStop.denote, typeOf?, found, Option.bind_some]
  | intrinsic type =>
    rw [h] at hstop
    exact tree?_of_intrinsic hstop
  | arrayWithoutItems =>
    rw [h] at hstop
    exact hstop.elim
  | unsupportedType typeName =>
    rw [h] at hstop
    exact hstop.elim

end KubeSchema.Registry

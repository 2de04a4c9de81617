import KubeSchema.Proofs.ResolveTheorems
import KubeSchema.Proofs.TreeTheorems

/-!
# Registries that serve a graph

`Graph.typeOf?` is the type that a name has by the graph alone: a built-in type for the well-known
names, and otherwise the model that the name leads to. A registry serves a graph when it agrees with
this: names of the graph have their types, and any other name in it is pending. Then

* `serves_resolve`: resolving a schema keeps it so,
* `resolve_cases`: it fails exactly when the chain of the schema stops at a fault, and otherwise the
  handle has the tree that the schema stands for, with dangling names pending,
* `elementAt?_resolve`: the handle of a name referred to is at the end of the chain,
* `firstPending?_resolve`: a dangling name is the first pending one unless there was one before.
-/

namespace KubeSchema

/-! ## Types by the graph alone -/

namespace Graph

/-- The type of a name. -/
def typeOf? (graph : Graph) (name : String) : Option TypeTree :=
  match Registry.wellKnown.lookup name with
  | some type => some (.intrinsic type)
  | none => (graph.idOf? name).map .model

/-- The type of a name, pending if it has none. -/
def typeOrPending (graph : Graph) (name : String) : TypeTree :=
  (graph.typeOf? name).getD (.pending name)

/-- The name without a type at which the chain of a schema stops. -/
def dangling? (graph : Graph) (schema : PropertySchema) : Option String :=
  match schema.stop with
  | .reference name => if (graph.typeOf? name).isNone then some name else none
  | _ => none

end Graph

variable {graph : Graph}

/-- A schema without a dangling name stands for the same type whatever dangling names are taken
for. -/
lemma denote_typeOrPending {schema : PropertySchema} (h : graph.dangling? schema = none) :
    schema.denote (fun name => some (graph.typeOrPending name)) = schema.denote graph.typeOf? := by
  rw [PropertySchema.denote_eq, PropertySchema.denote_eq]
  congr 1
  rw [Graph.dangling?] at h
  cases hstop : schema.stop with
  | reference name =>
    rw [hstop] at h
    cases htype : graph.typeOf? name with
    | none => simp [htype] at h
    | some tree => simp [ChainStop.denote, Graph.typeOrPending, htype]
  | intrinsic type => rfl
  | arrayWithoutItems => rfl
  | unsupportedType typeName => rfl

namespace Registry

variable {registry : Registry} {handle : Handle} {descriptor : Descriptor}

/-! ## Pending slots -/

lemma firstPending?_eq (registry : Registry) :
    registry.firstPending? = registry.slots.findSome? Descriptor.pending? := by
  rw [firstPending?]
  congr 1

@[simp] lemma firstPending?_push (registry : Registry) (descriptor : Descriptor) :
    (registry.push descriptor).2.firstPending?
      = registry.firstPending?.or descriptor.pending? := by
  rw [firstPending?_eq, firstPending?_eq, push, List.findSome?_append]
  simp

@[simp] lemma firstPending?_withName (name : String) :
    (registry.withName name handle).firstPending? = registry.firstPending? := rfl

@[simp] lemma firstPending?_intrinsic (registry : Registry) (type : Intrinsic) :
    (registry.intrinsic type).2.firstPending? = registry.firstPending? := by
  obtain ⟨handle, -, heq⟩ | ⟨-, heq⟩ := intrinsic_cases registry type
  · rw [heq]
  · rw [heq]
    show (registry.push (.intrinsic type)).2.firstPending? = registry.firstPending?
    rw [firstPending?_push]
    exact Option.or_none

/-- A pending slot is found, or an earlier one. -/
lemma firstPending?_ne_none {name definition : String}
    (holds : registry.descriptor? handle = some (.model (.pending name definition))) :
    registry.firstPending? ≠ none := by
  rw [firstPending?_eq, Ne, List.findSome?_eq_none_iff]
  intro none
  have := none _ (List.mem_of_getElem? holds)
  cases this

/-- Without a pending slot no slot is pending. -/
lemma pending?_of_firstPending?_eq_none (h : registry.firstPending? = none)
    (mem : descriptor ∈ registry.slots) : descriptor.pending? = none := by
  rw [firstPending?_eq, List.findSome?_eq_none_iff] at h
  exact h _ mem

/-! ## Serving -/

/-- A registry open to new names, in which the names of a graph have their types and all other names
are pending. -/
structure Serves (registry : Registry) (graph : Graph) : Prop where
  coherent : registry.Coherent
  isOpen : registry.isSealed = false
  /-- The names of a model share the slot of the model. -/
  bound : ∀ name id, graph.idOf? name = some id → Registry.wellKnown.lookup name = none →
    ∃ handle, registry.lookup? name = some handle ∧ registry.models.lookup id = some handle
  unknown : ∀ name handle, graph.typeOf? name = none → registry.lookup? name = some handle →
    ∃ definition, registry.descriptor? handle = some (.model (.pending name definition))

namespace Serves

/-- A name with a type leads to it. -/
lemma known (serves : registry.Serves graph) {name : String} {tree : TypeTree}
    (h : graph.typeOf? name = some tree) :
    ∃ handle, registry.lookup? name = some handle ∧ registry.tree? handle = some tree := by
  rw [Graph.typeOf?] at h
  cases hknown : Registry.wellKnown.lookup name with
  | some type =>
    rw [hknown] at h
    cases h
    obtain ⟨handle, found, holds⟩ := serves.coherent.wellKnown name type hknown
    exact ⟨handle, found, tree?_of_intrinsic holds⟩
  | none =>
    rw [hknown] at h
    obtain ⟨id, hid, rfl⟩ := Option.map_eq_some_iff.1 h
    obtain ⟨handle, found, shared⟩ := serves.bound name id hid hknown
    exact ⟨handle, found, tree?_of_bound (serves.coherent.model id handle shared)⟩

/-- A name in the registry has the type it has by the graph, or is pending. -/
lemma tree?_of_lookup? (serves : registry.Serves graph) {name : String}
    (found : registry.lookup? name = some handle) :
    registry.tree? handle = some (graph.typeOrPending name) := by
  rw [Graph.typeOrPending]
  cases htype : graph.typeOf? name with
  | some tree =>
    obtain ⟨other, hother, htree⟩ := serves.known htype
    rw [found] at hother
    cases hother
    exact htree
  | none =>
    obtain ⟨definition, holds⟩ := serves.unknown name handle htype found
    exact tree?_of_pending holds

end Serves

/-- A step of resolving keeps a registry serving. -/
lemma Resolving.serves {outcome : Outcome Handle} (resolving : registry.Resolving outcome)
    (serves : registry.Serves graph) : outcome.2.Serves graph where
  coherent := resolving.coherent
  isOpen := resolving.isSealed.trans serves.isOpen
  bound name id hid hknown := by
    obtain ⟨handle, found, shared⟩ := serves.bound name id hid hknown
    exact ⟨handle, resolving.growth.names _ _ found, resolving.models ▸ shared⟩
  unknown name handle htype h := by
    rcases resolving.names name handle h with found | new
    · obtain ⟨definition, holds⟩ := serves.unknown name handle htype found
      exact ⟨definition, resolving.growth.descriptor? holds⟩
    · exact new

theorem serves_resolve (serves : registry.Serves graph) (context : Context)
    (schema : PropertySchema) : (registry.resolve context schema).2.Serves graph :=
  (resolving_resolve serves.coherent context schema).serves serves

/-! ## What resolving gives -/

/-- The stop of a chain is resolved unless it is a fault. -/
lemma resolveStop_cases (serves : registry.Serves graph) (context : Context) (stop : ChainStop) :
    (∃ fault, stop.fault? context.property = some fault ∧
      registry.resolveStop context stop
        = (.error (.invalidDefinition context.definition fault), registry)) ∨
    (stop.fault? context.property = none ∧
      ∃ handle after, registry.resolveStop context stop = (.ok handle, after) ∧
        after.tree? handle = stop.denote (fun name => some (graph.typeOrPending name))) := by
  have keeps := (resolving_resolveStop serves.coherent context stop).serves serves
  cases stop with
  | reference name =>
    refine .inr ⟨rfl, ?_⟩
    rw [resolveStop] at keeps ⊢
    -- the name has a type by the graph, or was pending before, or is pending from now on; the
    -- registry serves the graph in each case
    obtain ⟨handle, found, heq⟩ | ⟨-, sealed, -⟩ | ⟨-, -, heq⟩ :=
      resolveReference_cases registry context name
    · exact ⟨handle, registry, heq, serves.tree?_of_lookup? found⟩
    · rw [serves.isOpen] at sealed
      cases sealed
    · rw [heq] at keeps
      exact ⟨_, _, heq, keeps.tree?_of_lookup? (lookup?_withName_eq_some_iff.2 (.inl ⟨rfl, rfl⟩))⟩
  | intrinsic type =>
    exact .inr ⟨rfl, _, _, rfl, tree?_of_intrinsic (descriptor?_intrinsic serves.coherent type)⟩
  | arrayWithoutItems => exact .inl ⟨_, rfl, rfl⟩
  | unsupportedType typeName => exact .inl ⟨_, rfl, rfl⟩

/-- Wrappers around a handle give a handle, from which as many elements lead back, and whose tree
has the same wrappers. -/
lemma wrapAll_ok {before after : Registry} (resolving : before.Resolving (.ok handle, after))
    (wrappers : List Wrapper) :
    ∃ outer last, wrapAll wrappers (.ok handle, after) = (.ok outer, last) ∧
      after.Extends last ∧ last.elementAt? wrappers.length outer = some handle ∧
      last.tree? outer = (after.tree? handle).map (wrappers.foldr Wrapper.tree) := by
  -- wrapping goes from the inside out, so the induction gives the type inside the first wrapper
  induction wrappers with
  | nil => exact ⟨handle, after, rfl, .refl _, rfl, by simp⟩
  | cons wrapper rest ih =>
    obtain ⟨outer, last, heq, growth, hinner, htree⟩ := ih
    have inner := resolving.wrapAll rest
    have whole := (resolving.wrapAll rest).wrap wrapper
    rw [heq] at inner whole
    have coherent : (last.push (wrapper.descriptor outer)).2.Coherent := whole.coherent
    have added := Extends.push last (wrapper.descriptor outer)
    refine ⟨⟨last.size⟩, (last.push (wrapper.descriptor outer)).2, by rw [wrapAll_cons, heq]; rfl,
      growth.trans added, ?_, ?_⟩
    · have helement : (wrapper.descriptor outer).element? = some outer := by cases wrapper <;> rfl
      rw [List.length_cons, elementAt?, descriptor?_push_self, Option.bind_some, helement,
        Option.bind_some]
      exact added.elementAt? hinner
    · obtain ⟨tree, houter⟩ := tree?_isSome inner.coherent (inner.inUse outer rfl)
      rw [tree?_of_wrapper coherent descriptor?_push_self, added.tree? houter, ← houter, htree,
        Option.map_map]
      rfl

/-- A schema is resolved unless its chain stops at a fault, to the type it stands for. -/
theorem resolve_cases (serves : registry.Serves graph) (context : Context)
    (schema : PropertySchema) :
    (∃ fault, schema.stop.fault? context.property = some fault ∧
      registry.resolve context schema
        = (.error (.invalidDefinition context.definition fault), registry)) ∨
    (schema.stop.fault? context.property = none ∧
      ∃ handle after, registry.resolve context schema = (.ok handle, after) ∧
        after.tree? handle = schema.denote (fun name => some (graph.typeOrPending name))) := by
  rw [resolve_eq]
  obtain ⟨fault, hfault, heq⟩ | ⟨hfault, handle, after, heq, htree⟩ :=
    resolveStop_cases serves context schema.stop
  · exact .inl ⟨fault, hfault, by rw [heq, wrapAll_error]⟩
  · refine .inr ⟨hfault, ?_⟩
    have resolving := resolving_resolveStop serves.coherent context schema.stop
    rw [heq] at resolving ⊢
    obtain ⟨outer, last, hwrap, -, -, hlast⟩ := wrapAll_ok resolving schema.wrappers
    exact ⟨outer, last, hwrap, by rw [hlast, htree, PropertySchema.denote_eq]⟩

/-- A name that is resolved leads to the handle given. -/
lemma lookup?_resolveReference {after : Registry} {context : Context} {name : String}
    (h : registry.resolveReference context name = (.ok handle, after)) :
    after.lookup? name = some handle := by
  obtain ⟨found, hfound, heq⟩ | ⟨-, -, heq⟩ | ⟨-, -, heq⟩ :=
    resolveReference_cases registry context name
  all_goals
    rw [heq] at h
    cases h
  · exact hfound
  · exact lookup?_withName_eq_some_iff.2 (.inl ⟨rfl, rfl⟩)

/-- At the end of the chain of a resolved schema is the handle of the name that the chain refers
to. -/
lemma elementAt?_resolve {after : Registry} (coherent : registry.Coherent) {context : Context}
    {schema : PropertySchema} {name : String} (hstop : schema.stop = .reference name)
    (h : registry.resolve context schema = (.ok handle, after)) :
    ∃ found, after.lookup? name = some found ∧
      after.elementAt? schema.wrappers.length handle = some found := by
  have resolving := resolving_resolveReference coherent context name
  rw [resolve_eq, hstop, resolveStop] at h
  rcases hreference : registry.resolveReference context name with ⟨error | found, between⟩
  · rw [hreference, wrapAll_error] at h
    cases h
  · rw [hreference] at h resolving
    obtain ⟨outer, last, hwrap, growth, hinner, -⟩ := wrapAll_ok resolving schema.wrappers
    rw [hwrap] at h
    cases h
    exact ⟨found, growth.names _ _ (lookup?_resolveReference hreference), hinner⟩

/-! ## Which name is pending first -/

lemma firstPending?_wrapAll (wrappers : List Wrapper) (outcome : Outcome Handle) :
    (wrapAll wrappers outcome).2.firstPending? = outcome.2.firstPending? := by
  induction wrappers with
  | nil => rfl
  | cons wrapper rest ih =>
    rw [wrapAll_cons, ← ih]
    obtain ⟨result, last⟩ := wrapAll rest outcome
    cases result with
    | error error => rfl
    | ok handle =>
      show (last.push (wrapper.descriptor handle)).2.firstPending? = last.firstPending?
      rw [firstPending?_push]
      cases wrapper <;> exact Option.or_none

/-- A dangling name becomes the first pending one, unless there is one. -/
theorem firstPending?_resolve (serves : registry.Serves graph) (context : Context)
    (schema : PropertySchema) :
    (registry.resolve context schema).2.firstPending?
      = registry.firstPending?.or
        ((graph.dangling? schema).map fun name => (name, context.definition)) := by
  rw [resolve_eq, firstPending?_wrapAll, Graph.dangling?]
  cases schema.stop with
  | reference name =>
    rw [resolveStop]
    obtain ⟨handle, found, heq⟩ | ⟨-, sealed, -⟩ | ⟨fresh, -, heq⟩ :=
      resolveReference_cases registry context name
    · rw [heq]
      cases htype : graph.typeOf? name with
      | some tree => simp [htype]
      | none =>
        -- the name is pending already, so something is
        obtain ⟨definition, holds⟩ := serves.unknown name handle htype found
        obtain ⟨first, hfirst⟩ := Option.ne_none_iff_exists'.1 (firstPending?_ne_none holds)
        rw [hfirst]
        rfl
    · rw [serves.isOpen] at sealed
      cases sealed
    · rw [heq]
      -- a name with a type is in the registry, so this one has none
      have htype : graph.typeOf? name = none := by
        by_contra h
        obtain ⟨tree, htree⟩ := Option.ne_none_iff_exists'.1 h
        obtain ⟨handle, found, -⟩ := serves.known htree
        rw [fresh] at found
        cases found
      simp [htype, Descriptor.pending?]
  | intrinsic type => simp [resolveStop, succeed]
  | arrayWithoutItems => simp [resolveStop, refuse]
  | unsupportedType typeName => simp [resolveStop, refuse]

end Registry

end KubeSchema

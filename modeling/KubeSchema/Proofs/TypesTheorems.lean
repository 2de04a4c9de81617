import KubeSchema.Proofs.CompileTheorems

/-!
# Types in a compiled schema

In the registry of a compilation nothing is pending, and every property has the type that its
schema stands for by the names of the graph (`HasTypeOf`). A property that refers to a name holds
the handle of that name (`HasHandleOf`). Names of one model lead to one handle, except that
well-known names lead to the handles of their built-in types.
-/

namespace KubeSchema

open Compile

variable {document : Document} {options : Options} {compiled : CompiledSchema}

/-! ## The types of properties -/

/-- A property has exactly the type that a schema stands for by the names of the graph. -/
def HasTypeOf (compiled : CompiledSchema) (entry : String × PropertySchema)
    (property : String × Property) : Prop :=
  property.1 = entry.1 ∧ ∃ tree, compiled.registry.tree? property.2.type = some tree ∧
    entry.2.denote compiled.graph.typeOf? = some tree

/-- **Types of properties.** After a compilation, each property of each model has the type that its
schema stands for, and no reference is pending. -/
theorem compile_types_sound (h : compile document options = .ok compiled) :
    (∀ model ∈ compiled.graph.models, ∃ definition,
      document.definitions.lookup? model.definitionName = some definition ∧
      List.Forall₂ (HasTypeOf compiled) (Properties.inEmissionOrder definition)
        model.properties) ∧
    ∀ name definition, Descriptor.model (.pending name definition) ∉ compiled.registry.slots := by
  obtain ⟨graph, compilation⟩ := compilation_of_compile h
  refine ⟨fun model mem => ?_, fun name definition mem => ?_⟩
  · obtain ⟨definition, found, noDangling, -, properties⟩ := compilation.exists_definition mem
    refine ⟨definition, found, List.forall₂_iff_zip.2 ⟨properties.length_eq, ?_⟩⟩
    intro entry property hzip
    have typed := List.forall₂_zip properties hzip
    obtain ⟨tree, htree, hdenote⟩ := typed.type
    -- the name at the end of the chain does not dangle, so it counts with its type by the graph
    have noneHere := List.findSome?_eq_none_iff.1 noDangling entry (List.of_mem_zip hzip).1
    rw [denote_typeOrPending noneHere, ← compilation.typeOf?_eq] at hdenote
    exact ⟨typed.wireName, tree, htree, hdenote⟩
  · have := Registry.pending?_of_firstPending?_eq_none compilation.noPending mem
    cases this

theorem compile_types_sound_of_sample : ∃ compiled,
    compile sampleDocument .standard = .ok compiled ∧
    (∀ model ∈ compiled.graph.models, ∃ definition,
      sampleDocument.definitions.lookup? model.definitionName = some definition ∧
      List.Forall₂ (HasTypeOf compiled) (Properties.inEmissionOrder definition)
        model.properties) ∧
    ∀ name definition, Descriptor.model (.pending name definition) ∉ compiled.registry.slots := by
  obtain ⟨compiled, h⟩ := exists_compile_sampleDocument
  exact ⟨compiled, h, compile_types_sound h⟩

/-! ## The handles of names -/

namespace Registry

/-- The type of a model's name, which may be well known for a built-in type. -/
def descriptorFor (id : ModelId) : Option Intrinsic → Descriptor
  | some type => .intrinsic type
  | none => .model (.bound id)

/-- The handle that is kept for the type of a model's name. -/
def handleFor? (registry : Registry) (id : ModelId) : Option Intrinsic → Option Handle
  | some type => registry.intrinsics.lookup type
  | none => registry.models.lookup id

lemma descriptor?_of_handleFor? {registry : Registry} (coherent : registry.Coherent) {id : ModelId}
    {known? : Option Intrinsic} {handle : Handle}
    (h : registry.handleFor? id known? = some handle) :
    registry.descriptor? handle = some (descriptorFor id known?) := by
  cases known? with
  | some type => exact (coherent.intrinsic type handle).1 h
  | none => exact coherent.model id handle h

lemma descriptorFor_injective (id : ModelId) : Function.Injective (descriptorFor id) := by
  intro first second same
  cases first <;> cases second <;> cases same <;> rfl

end Registry

/-- A name of the graph leads to the handle of its built-in type, or else to that of its model. -/
lemma lookup?_of_idOf? {graph : Graph} (compilation : Compilation document options graph compiled)
    {name : String} {id : ModelId} (hid : compiled.graph.idOf? name = some id) :
    ∃ handle, compiled.registry.lookup? name = some handle ∧
      compiled.registry.handleFor? id (Registry.wellKnown.lookup name) = some handle := by
  cases hknown : Registry.wellKnown.lookup name with
  | some type =>
    obtain ⟨handle, found, holds⟩ := compilation.coherent.wellKnown name type hknown
    exact ⟨handle, found, (compilation.coherent.intrinsic type handle).2 holds⟩
  | none =>
    rw [Graph.idOf?, compilation.names] at hid
    exact compilation.bound name id hid hknown

/-- A chain that ends in a name has the handle of the name at its end. -/
def HasHandleOf (compiled : CompiledSchema) (entry : String × PropertySchema)
    (property : String × Property) : Prop :=
  ∀ name, entry.2.stop = .reference name →
    compiled.registry.elementAt? entry.2.wrappers.length property.2.type
      = compiled.registry.lookup? name

/-- **Handles of names.** After a compilation, each name of the graph has a handle, and each
property that refers to a name refers to it by that handle. Two names of one model have the same
handle exactly when they are well known for the same built-in type or both not well known. -/
theorem lookup?_eq_iff_wellKnown_eq (h : compile document options = .ok compiled) :
    (∀ first second id, compiled.graph.idOf? first = some id →
      compiled.graph.idOf? second = some id →
      (compiled.registry.lookup? first = compiled.registry.lookup? second ↔
        Registry.wellKnown.lookup first = Registry.wellKnown.lookup second)) ∧
    (∀ name id, compiled.graph.idOf? name = some id →
      (compiled.registry.lookup? name).isSome = true) ∧
    ∀ model ∈ compiled.graph.models, ∃ definition,
      document.definitions.lookup? model.definitionName = some definition ∧
      List.Forall₂ (HasHandleOf compiled) (Properties.inEmissionOrder definition)
        model.properties := by
  obtain ⟨graph, compilation⟩ := compilation_of_compile h
  refine ⟨fun first second id hfirst hsecond => ?_, fun name id hid => ?_, fun model mem => ?_⟩
  · obtain ⟨left, foundLeft, hleft⟩ := lookup?_of_idOf? compilation hfirst
    obtain ⟨right, foundRight, hright⟩ := lookup?_of_idOf? compilation hsecond
    constructor
    · -- one handle has one type, which tells the built-in types apart from each other and the model
      intro same
      rw [foundLeft, foundRight, Option.some.injEq] at same
      have holds := Registry.descriptor?_of_handleFor? compilation.coherent hleft
      rw [same, Registry.descriptor?_of_handleFor? compilation.coherent hright,
        Option.some.injEq] at holds
      exact (Registry.descriptorFor_injective id holds).symm
    · intro same
      rw [foundLeft, foundRight, ← hleft, ← hright, same]
  · obtain ⟨handle, found, -⟩ := lookup?_of_idOf? compilation hid
    rw [found]
    rfl
  · obtain ⟨definition, found, -, -, properties⟩ := compilation.exists_definition mem
    refine ⟨definition, found, properties.imp fun entry property typed name hstop => ?_⟩
    obtain ⟨handle, hhandle, hinner⟩ := typed.reference name hstop
    rw [hhandle, hinner]

theorem lookup?_eq_iff_wellKnown_eq_of_sample : ∃ compiled id,
    compile sampleDocument .standard = .ok compiled ∧
    compiled.graph.idOf? "b.Node" = some id ∧ compiled.graph.idOf? "c.Older" = some id ∧
    compiled.registry.lookup? "b.Node" = compiled.registry.lookup? "c.Older" := by
  obtain ⟨compiled, h⟩ := exists_compile_sampleDocument
  have ids : ((compile sampleDocument .standard).toOption.map fun compiled =>
      (compiled.graph.idOf? "b.Node", compiled.graph.idOf? "c.Older"))
        = some (some ⟨1⟩, some ⟨1⟩) := by
    decide +kernel
  rw [h] at ids
  obtain ⟨hfirst, hsecond⟩ := Prod.mk.inj (Option.some.inj ids)
  refine ⟨compiled, ⟨1⟩, h, hfirst, hsecond, ?_⟩
  exact ((lookup?_eq_iff_wellKnown_eq h).1 "b.Node" "c.Older" ⟨1⟩ hfirst hsecond).2 (by decide)

/-- A document that defines a well-known name and an alias of it. -/
def timeAliasDocument : Document where
  definitions := .ofList [
    (WellKnown.time, {}),
    ("a.Alias", { reference := some (definitionsLead ++ WellKnown.time) }),
    ("b.Direct", { properties := .ofList [("at", referTo WellKnown.time)] }),
    ("c.Indirect", { properties := .ofList [("at", referTo "a.Alias")] })]

/-- With no definition passed over, a well-known name and its alias are names of one model, and lead
to different handles. -/
theorem wellKnown_and_alias_lookup?_ne : ∃ compiled id,
    compile timeAliasDocument Options.standard.ignoringNothing = .ok compiled ∧
    compiled.graph.idOf? WellKnown.time = some id ∧ compiled.graph.idOf? "a.Alias" = some id ∧
    compiled.registry.lookup? WellKnown.time ≠ compiled.registry.lookup? "a.Alias" := by
  have found : ((compile timeAliasDocument Options.standard.ignoringNothing).toOption.map
      fun compiled => (compiled.graph.idOf? WellKnown.time, compiled.graph.idOf? "a.Alias",
        compiled.registry.lookup? WellKnown.time, compiled.registry.lookup? "a.Alias"))
      = some (some ⟨2⟩, some ⟨2⟩, some ⟨0⟩, some ⟨4⟩) := by
    decide +kernel
  cases h : compile timeAliasDocument Options.standard.ignoringNothing with
  | error error =>
    rw [h] at found
    cases found
  | ok compiled =>
    rw [h] at found
    have found := Option.some.inj found
    simp only [Prod.mk.injEq] at found
    obtain ⟨hname, halias, hfirst, hsecond⟩ := found
    refine ⟨compiled, ⟨2⟩, rfl, hname, halias, ?_⟩
    rw [hfirst, hsecond]
    decide

end KubeSchema

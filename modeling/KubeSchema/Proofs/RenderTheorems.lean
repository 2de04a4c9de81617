import KubeSchema.Proofs.ArenaTheorems
import KubeSchema.Proofs.GraphTheorems

/-!
# Types as texts

A type is shown as a text: arrays and maps around what is left when all of them are taken off, its
leaf. In a compilation a leaf is a built-in type or a model of the graph (`Grounded`). The texts of
built-in types, arrays and maps are told apart by their spelling, and those of models since no two
models share a generated name. What is left is a model whose generated name is spelled like the text
of another type: two texts are the same exactly when the types are, or are confused in this way
(`render_eq_iff`).
-/

namespace KubeSchema

/-! ## The spelling of texts -/

namespace Intrinsic

theorem name_injective : Function.Injective name := by
  intro first second same
  cases first <;> cases second <;> first | rfl | exact absurd same (by decide)

/-- The name of a built-in type has no bracket. -/
lemma bracket_not_mem_name (type : Intrinsic) : '<' ∉ type.name.toList := by
  cases type <;> decide

end Intrinsic

namespace Wrapper

variable {wrapper other : Wrapper} {first second : String}

lemma bracket_mem_text (wrapper : Wrapper) (inner : String) :
    '<' ∈ (wrapper.text inner).toList := by
  cases wrapper <;> simp [text]

lemma text_array_ne_text_map : array.text first ≠ map.text second := by
  intro same
  have := congrArg String.toList same
  simp [text] at this

/-- What a wrapper puts around a text tells the wrapper and the text. -/
lemma text_eq_iff : wrapper.text first = other.text second ↔ wrapper = other ∧ first = second := by
  cases wrapper <;> cases other
  case array.array | map.map =>
    simp only [text, String.append_left_inj, String.append_right_inj, true_and]
  case array.map => simp [text_array_ne_text_map]
  case map.array => simp [text_array_ne_text_map.symm]

end Wrapper

namespace TypeTree

/-- What is inside all arrays and maps of a type. -/
def leaf : TypeTree → TypeTree
  | array element => element.leaf
  | map element => element.leaf
  | intrinsic type => intrinsic type
  | model id => model id
  | pending name => pending name

/-- The leaf of a type is a built-in type or a model of a graph. -/
structure Grounded (graph : Graph) (tree : TypeTree) : Prop where
  settled : ∀ name, tree.leaf ≠ .pending name
  named : ∀ id, tree.leaf = .model id → ∃ model, graph.model? id = some model

/-- Two types have the same arrays and maps around a model on one side and something else on the
other, whose text is spelled like the name of the model. -/
inductive Confused (modelName : ModelId → String) : TypeTree → TypeTree → Prop
  | left {id : ModelId} {other : TypeTree} (noModel : ∀ model, other ≠ .model model)
    (same : modelName id = other.render modelName) : Confused modelName (.model id) other
  | right {id : ModelId} {other : TypeTree} (noModel : ∀ model, other ≠ .model model)
    (same : other.render modelName = modelName id) : Confused modelName other (.model id)
  | array {first second : TypeTree} (inner : Confused modelName first second) :
    Confused modelName (.array first) (.array second)
  | map {first second : TypeTree} (inner : Confused modelName first second) :
    Confused modelName (.map first) (.map second)

/-- Induction on types in which arrays and maps are one case. -/
theorem wrapperInduction {motive : TypeTree → Prop}
    (intrinsic : ∀ type, motive (.intrinsic type))
    (wrapped : ∀ (wrapper : Wrapper) element, motive element → motive (wrapper.tree element))
    (model : ∀ id, motive (.model id)) (pending : ∀ name, motive (.pending name))
    (tree : TypeTree) : motive tree := by
  induction tree with
  | intrinsic type => exact intrinsic type
  | array element ih => exact wrapped .array element ih
  | map element ih => exact wrapped .map element ih
  | model id => exact model id
  | pending name => exact pending name

variable {modelName : ModelId → String} {first second : TypeTree} {wrapper other : Wrapper}

lemma grounded_wrapper {graph : Graph} :
    (wrapper.tree first).Grounded graph ↔ first.Grounded graph := by
  have leaf : (wrapper.tree first).leaf = first.leaf := by
    cases wrapper <;> rfl
  constructor
  · exact fun ⟨settled, named⟩ => ⟨leaf ▸ settled, leaf ▸ named⟩
  · exact fun ⟨settled, named⟩ => ⟨leaf.symm ▸ settled, leaf.symm ▸ named⟩

lemma Confused.wrapped (wrapper : Wrapper) (inner : first.Confused modelName second) :
    (wrapper.tree first).Confused modelName (wrapper.tree second) := by
  cases wrapper with
  | array => exact .array inner
  | map => exact .map inner

lemma wrapper_ne_model (model : ModelId) : wrapper.tree first ≠ .model model := by
  cases wrapper <;> exact fun same => by cases same

lemma render_wrapper_eq_iff :
    (wrapper.tree first).render modelName = (other.tree second).render modelName ↔
      wrapper = other ∧ first.render modelName = second.render modelName := by
  rw [render_wrapper, render_wrapper, Wrapper.text_eq_iff]

lemma render_intrinsic_ne_wrapper {type : Intrinsic} :
    (intrinsic type).render modelName ≠ (wrapper.tree first).render modelName := by
  intro same
  have bracket := wrapper.bracket_mem_text (first.render modelName)
  rw [← render_wrapper, ← same] at bracket
  exact type.bracket_not_mem_name bracket

lemma Confused.render_eq (confused : first.Confused modelName second) :
    first.render modelName = second.render modelName := by
  induction confused with
  | left _ same => exact same
  | right _ same => exact same
  | array _ ih => exact congrArg (Wrapper.text .array) ih
  | map _ ih => exact congrArg (Wrapper.text .map) ih

/-- Types with the same text are the same or confused. -/
lemma eq_or_confused_of_render_eq {graph : Graph} (wellNamed : graph.WellNamed)
    (groundedFirst : first.Grounded graph) (groundedSecond : second.Grounded graph)
    (same : first.render graph.generatedName = second.render graph.generatedName) :
    first = second ∨ first.Confused graph.generatedName second := by
  induction first using wrapperInduction generalizing second with
  | intrinsic type =>
    cases second using wrapperInduction with
    | intrinsic other =>
      have : type = other := Intrinsic.name_injective same
      exact .inl (congrArg _ this)
    | wrapped wrapper element => exact absurd same render_intrinsic_ne_wrapper
    | model id => exact .inr (.right (fun _ h => by cases h) same)
    | pending name => exact absurd rfl (groundedSecond.settled name)
  | wrapped wrapper element ih =>
    cases second using wrapperInduction with
    | intrinsic other => exact absurd same.symm render_intrinsic_ne_wrapper
    | wrapped other part =>
      obtain ⟨rfl, texts⟩ := render_wrapper_eq_iff.1 same
      have inner := ih (grounded_wrapper.1 groundedFirst) (grounded_wrapper.1 groundedSecond) texts
      exact inner.imp (congrArg _) (.wrapped _)
    | model id => exact .inr (.right wrapper_ne_model same)
    | pending name => exact absurd rfl (groundedSecond.settled name)
  | model id =>
    cases second using wrapperInduction with
    | intrinsic other => exact .inr (.left (fun _ h => by cases h) same)
    | wrapped wrapper element => exact .inr (.left wrapper_ne_model same)
    | model other =>
      -- models are told apart by their names
      obtain ⟨left, hleft⟩ := groundedFirst.named id rfl
      obtain ⟨right, hright⟩ := groundedSecond.named other rfl
      exact .inl (congrArg _ (wellNamed.eq_of_generatedName_eq hleft hright same))
    | pending name => exact absurd rfl (groundedSecond.settled name)
  | pending name => exact absurd rfl (groundedFirst.settled name)

theorem render_eq_iff {graph : Graph} (wellNamed : graph.WellNamed)
    (groundedFirst : first.Grounded graph) (groundedSecond : second.Grounded graph) :
    first.render graph.generatedName = second.render graph.generatedName ↔
      first = second ∨ first.Confused graph.generatedName second := by
  refine ⟨eq_or_confused_of_render_eq wellNamed groundedFirst groundedSecond, ?_⟩
  rintro (rfl | confused)
  · rfl
  · exact confused.render_eq

end TypeTree

/-! ## The types of a compilation -/

variable {document : Document} {options : Options} {compiled : CompiledSchema}

namespace Registry

variable {registry : Registry} {handle : Handle} {tree : TypeTree}

lemma lt_size_of_tree? (h : registry.tree? handle = some tree) : handle.index < registry.size := by
  cases holds : registry.descriptor? handle with
  | none =>
    rw [tree?, treeWithin, holds] at h
    cases h
  | some descriptor => exact lt_size_of_descriptor? holds

/-- The parts of an array or a map have a handle. -/
lemma exists_element_of_tree? (coherent : registry.Coherent) (wrapper : Wrapper)
    (h : registry.tree? handle = some (wrapper.tree tree)) :
    ∃ element, registry.tree? element = some tree := by
  obtain ⟨descriptor, -, shows⟩ := shows_of_tree? coherent h
  cases wrapper with
  | array =>
    cases shows with
    | array inner => exact ⟨_, inner⟩
  | map =>
    cases shows with
    | map inner => exact ⟨_, inner⟩

end Registry

/-- The types of a compilation are grounded in its graph. -/
theorem grounded_of_tree? (h : compile document options = .ok compiled) {handle : Handle}
    {tree : TypeTree} (htree : compiled.registry.tree? handle = some tree) :
    tree.Grounded compiled.graph := by
  obtain ⟨graph, compilation⟩ := compilation_of_compile h
  have coherent := compilation.coherent
  induction tree using TypeTree.wrapperInduction generalizing handle with
  | intrinsic type => exact ⟨fun _ same => (by cases same), fun _ same => (by cases same)⟩
  | wrapped wrapper element ih =>
    obtain ⟨inner, hinner⟩ := Registry.exists_element_of_tree? coherent wrapper htree
    exact TypeTree.grounded_wrapper.2 (ih hinner)
  | model id =>
    obtain ⟨descriptor, holds, shows⟩ := Registry.shows_of_tree? coherent htree
    cases shows
    obtain ⟨name, hname⟩ := Compile.exists_name_of_bound_compile h holds
    refine ⟨fun _ same => (by cases same), fun other same => ?_⟩
    cases same
    exact compilation.wellNamed.named name id hname
  | pending name =>
    -- nothing is pending after a compilation
    obtain ⟨descriptor, holds, shows⟩ := Registry.shows_of_tree? coherent htree
    cases shows
    exact absurd compilation.noPending (Registry.firstPending?_ne_none holds)

lemma describe_of_tree? {handle : Handle} {tree : TypeTree}
    (h : compiled.registry.tree? handle = some tree) :
    compiled.describe handle = tree.render compiled.graph.generatedName := by
  rw [CompiledSchema.describe, Registry.describe, h]
  rfl

/-- Handles of two types that are confused lead to a model and to another type with its name. -/
lemma exists_handles_of_confused (coherent : compiled.registry.Coherent) {left right : TypeTree}
    (confused : left.Confused compiled.graph.generatedName right) :
    ∀ {first second : Handle}, compiled.registry.tree? first = some left →
      compiled.registry.tree? second = some right →
      ∃ model other id, compiled.registry.tree? model = some (.model id) ∧
        other.index < compiled.registry.size ∧
        (∀ id, compiled.registry.tree? other ≠ some (.model id)) ∧
        compiled.describe model = compiled.describe other := by
  induction confused with
  | left noModel same =>
    intro first second hfirst hsecond
    refine ⟨first, second, _, hfirst, Registry.lt_size_of_tree? hsecond, fun id h => ?_, ?_⟩
    · rw [hsecond] at h
      exact noModel id (Option.some.inj h)
    · rw [describe_of_tree? hfirst, describe_of_tree? hsecond]
      exact same
  | right noModel same =>
    intro first second hfirst hsecond
    refine ⟨second, first, _, hsecond, Registry.lt_size_of_tree? hfirst, fun id h => ?_, ?_⟩
    · rw [hfirst] at h
      exact noModel id (Option.some.inj h)
    · rw [describe_of_tree? hfirst, describe_of_tree? hsecond]
      exact same.symm
  | array _ ih =>
    intro first second hfirst hsecond
    obtain ⟨left, hleft⟩ := Registry.exists_element_of_tree? coherent .array hfirst
    obtain ⟨right, hright⟩ := Registry.exists_element_of_tree? coherent .array hsecond
    exact ih hleft hright
  | map _ ih =>
    intro first second hfirst hsecond
    obtain ⟨left, hleft⟩ := Registry.exists_element_of_tree? coherent .map hfirst
    obtain ⟨right, hright⟩ := Registry.exists_element_of_tree? coherent .map hsecond
    exact ih hleft hright

/-- **Texts of types.** After a compilation, two handles have the same text exactly when they have
the same type, or types that differ in a model whose generated name is spelled like the text of the
other type there. So the texts tell all types apart exactly when no model in the registry has the
text of a type that is no model. -/
theorem describe_eq_iff_tree?_eq_or_confused (h : compile document options = .ok compiled) :
    (∀ first second : Handle, first.index < compiled.registry.size →
      second.index < compiled.registry.size →
      (compiled.describe first = compiled.describe second ↔
        compiled.registry.tree? first = compiled.registry.tree? second ∨
        ∃ left right, compiled.registry.tree? first = some left ∧
          compiled.registry.tree? second = some right ∧
          left.Confused compiled.graph.generatedName right)) ∧
    ((∀ first second : Handle, first.index < compiled.registry.size →
      second.index < compiled.registry.size →
      (compiled.describe first = compiled.describe second ↔
        compiled.registry.tree? first = compiled.registry.tree? second)) ↔
      ∀ model other id, compiled.registry.tree? model = some (.model id) →
        other.index < compiled.registry.size →
        (∀ id, compiled.registry.tree? other ≠ some (.model id)) →
        compiled.describe model ≠ compiled.describe other) := by
  obtain ⟨graph, compilation⟩ := compilation_of_compile h
  have coherent := compilation.coherent
  have texts : ∀ first second : Handle, first.index < compiled.registry.size →
      second.index < compiled.registry.size →
      (compiled.describe first = compiled.describe second ↔
        compiled.registry.tree? first = compiled.registry.tree? second ∨
        ∃ left right, compiled.registry.tree? first = some left ∧
          compiled.registry.tree? second = some right ∧
          left.Confused compiled.graph.generatedName right) := by
    intro first second inUseFirst inUseSecond
    obtain ⟨left, hleft⟩ := Registry.tree?_isSome coherent inUseFirst
    obtain ⟨right, hright⟩ := Registry.tree?_isSome coherent inUseSecond
    rw [describe_of_tree? hleft, describe_of_tree? hright,
      TypeTree.render_eq_iff compilation.wellNamed (grounded_of_tree? h hleft)
        (grounded_of_tree? h hright), hleft, hright]
    simp
  refine ⟨texts, fun faithful model other id hmodel inUse noModel same => ?_,
    fun distinct first second inUseFirst inUseSecond => ⟨fun same => ?_, fun same => ?_⟩⟩
  · have trees := (faithful model other (Registry.lt_size_of_tree? hmodel) inUse).1 same
    exact noModel id (trees ▸ hmodel)
  · rcases (texts first second inUseFirst inUseSecond).1 same with
      trees | ⟨left, right, hleft, hright, confused⟩
    · exact trees
    · obtain ⟨model, other, id, hmodel, inUse, noModel, describes⟩ :=
        exists_handles_of_confused coherent confused hleft hright
      exact absurd describes (distinct model other id hmodel inUse noModel)
  · exact (texts first second inUseFirst inUseSecond).2 (.inl same)

/-- A document with a model of the kind `string`, which has no version, a model that uses it, and a
model that uses a string. -/
def shadowDocument : Document where
  definitions := .ofList [
    ("a.Shadow", { gvks := [⟨"", "", "string"⟩] }),
    ("b.Caster", { properties := .ofList [("shadow", referTo "a.Shadow")] }),
    ("c.Named", { properties := .ofList [("name", { typeName := some "string" })] })]

lemma exists_compile_shadowDocument : ∃ compiled, compile shadowDocument .standard = .ok compiled ∧
    compiled.registry.size = 7 ∧ compiled.registry.tree? ⟨2⟩ = some (.intrinsic .string) ∧
    compiled.registry.tree? ⟨4⟩ = some (.model ⟨0⟩) ∧ compiled.describe ⟨2⟩ = "string" ∧
    compiled.describe ⟨4⟩ = "string" := by
  have found : ((compile shadowDocument .standard).toOption.map fun compiled =>
      (compiled.registry.size, compiled.registry.tree? ⟨2⟩, compiled.registry.tree? ⟨4⟩,
        compiled.describe ⟨2⟩, compiled.describe ⟨4⟩))
      = some (7, some (.intrinsic .string), some (.model ⟨0⟩), "string", "string") := by
    decide +kernel
  cases h : compile shadowDocument .standard with
  | error error =>
    rw [h] at found
    cases found
  | ok compiled =>
    rw [h] at found
    have found := Option.some.inj found
    simp only [Prod.mk.injEq] at found
    exact ⟨compiled, rfl, found⟩

/-- A model can have the text of a built-in type. -/
theorem describe_string_eq_describe_model : ∃ compiled : CompiledSchema, ∃ string model : Handle,
    compile shadowDocument .standard = .ok compiled ∧
    string.index < compiled.registry.size ∧ model.index < compiled.registry.size ∧
    compiled.registry.tree? string ≠ compiled.registry.tree? model ∧
    compiled.describe string = compiled.describe model := by
  obtain ⟨compiled, h, hsize, hstring, hmodel, hfirst, hsecond⟩ := exists_compile_shadowDocument
  refine ⟨compiled, ⟨2⟩, ⟨4⟩, h, ?_, ?_, ?_, hfirst.trans hsecond.symm⟩
  · rw [hsize]
    decide
  · rw [hsize]
    decide
  · rw [hstring, hmodel]
    decide

theorem describe_eq_iff_tree?_eq_or_confused_of_shadow : ∃ compiled,
    compile shadowDocument .standard = .ok compiled ∧
    TypeTree.Confused compiled.graph.generatedName (.intrinsic .string) (.model ⟨0⟩) := by
  obtain ⟨compiled, h, hsize, hstring, hmodel, hfirst, hsecond⟩ := exists_compile_shadowDocument
  have texts := (describe_eq_iff_tree?_eq_or_confused h).1 ⟨2⟩ ⟨4⟩ (by rw [hsize]; decide)
    (by rw [hsize]; decide)
  rcases texts.1 (hfirst.trans hsecond.symm) with trees | ⟨left, right, hleft, hright, confused⟩
  · rw [hstring, hmodel] at trees
    cases trees
  · rw [hstring] at hleft
    rw [hmodel] at hright
    cases hleft
    cases hright
    exact ⟨compiled, h, confused⟩

end KubeSchema

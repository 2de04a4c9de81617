import KubeSchema.Manifest
import KubeSchema.Proofs.RenderTheorems

/-!
# What a manifest lists

A manifest has an entry for each model of a compilation, in order of generated name. Two facts about
the graph carry over to it: generated names tell models apart, so the order is strict, and each name
of the graph leads to one model, so it stands in one entry, as its definition or among its aliases.
What an entry says of other models, it says by the generated names of their entries (`Lists`,
`Presents`); `Covers` puts together what holds of the manifest as a whole.
-/

namespace KubeSchema

open Resolution (keptModels)

/-! ## Models with their positions -/

namespace Graph

variable {graph : Graph} {id : ModelId} {model : Model} {name : String}

lemma mem_indexed_iff : (id, model) ∈ graph.indexed ↔ graph.model? id = some model := by
  rw [indexed, List.mem_map, Graph.model?]
  constructor
  · rintro ⟨⟨found, index⟩, mem, same⟩
    cases same
    exact List.mem_zipIdx_iff_getElem?.1 mem
  · intro found
    exact ⟨(model, id.index), List.mem_zipIdx_iff_getElem?.2 found, rfl⟩

lemma indexed_map_snd (graph : Graph) : graph.indexed.map Prod.snd = graph.models := by
  rw [indexed, List.map_map]
  exact List.zipIdx_map_fst 0 graph.models

lemma indexed_map_fst_nodup (graph : Graph) : (graph.indexed.map Prod.fst).Nodup := by
  have positions : graph.indexed.map Prod.fst
      = (List.range' 0 graph.models.length).map ModelId.mk := by
    rw [indexed, List.map_map, ← List.zipIdx_map_snd 0 graph.models, List.map_map]
    rfl
  rw [positions]
  have injective : Function.Injective ModelId.mk := fun first second same => by
    cases same
    rfl
  exact List.Nodup.map injective List.nodup_range'

/-! ## The names of a model -/

lemma aliasesOf_sorted (graph : Graph) (id : ModelId) :
    (graph.aliasesOf id).Pairwise fun a b => compare a b = .lt := by
  rw [aliasesOf, List.pairwise_map]
  exact graph.names.sorted.filter _

lemma mem_aliasesOf_iff (found : graph.model? id = some model) :
    name ∈ graph.aliasesOf id ↔ graph.idOf? name = some id ∧ model.definitionName ≠ name := by
  rw [aliasesOf, List.mem_map, Graph.idOf?, graph.names.lookup?_eq_some_iff, found]
  constructor
  · rintro ⟨⟨other, bound⟩, mem, rfl⟩
    obtain ⟨listed, leads⟩ := List.mem_filter.1 mem
    rw [Bool.and_eq_true, beq_iff_eq] at leads
    obtain ⟨rfl, differs⟩ := leads
    exact ⟨listed, by simpa using differs⟩
  · rintro ⟨listed, differs⟩
    refine ⟨(name, id), List.mem_filter.2 ⟨listed, ?_⟩, rfl⟩
    simpa using differs

/-- The definition name of a model and its aliases are the names that lead to it. -/
lemma WellNamed.mem_names_iff (wellNamed : graph.WellNamed) (found : graph.model? id = some model) :
    name ∈ model.definitionName :: graph.aliasesOf id ↔ graph.idOf? name = some id := by
  rw [List.mem_cons, mem_aliasesOf_iff found]
  constructor
  · rintro (rfl | ⟨leads, -⟩)
    · exact wellNamed.own id model found
    · exact leads
  · intro leads
    by_cases same : name = model.definitionName
    · exact .inl same
    · exact .inr ⟨leads, fun eq => same eq.symm⟩

/-- No name of a model is listed twice. -/
lemma names_nodup (found : graph.model? id = some model) :
    (model.definitionName :: graph.aliasesOf id).Nodup := by
  refine List.nodup_cons.2 ⟨fun mem => ?_, nodup_of_sorted (graph.aliasesOf_sorted id)⟩
  exact ((mem_aliasesOf_iff found).1 mem).2 rfl

end Graph

/-! ## Models in order of generated name -/

namespace CompiledSchema

variable {compiled : CompiledSchema} {id : ModelId} {model : Model}

lemma models_perm (compiled : CompiledSchema) : compiled.models.Perm compiled.graph.indexed :=
  List.mergeSort_perm _ _

lemma mem_models_iff : (id, model) ∈ compiled.models ↔ compiled.graph.model? id = some model := by
  rw [compiled.models_perm.mem_iff, Graph.mem_indexed_iff]

/-- What a field says of the models in order, it says of the models of the graph. -/
lemma models_map_perm (compiled : CompiledSchema) {α : Type} (field : Model → α) :
    (compiled.models.map fun entry => field entry.2).Perm (compiled.graph.models.map field) := by
  have perm := compiled.models_perm.map fun entry => field entry.2
  rw [← compiled.graph.indexed_map_snd, List.map_map]
  exact perm

lemma models_sorted (wellNamed : compiled.graph.WellNamed) :
    (compiled.models.map fun entry => entry.2.generatedName).Pairwise
      fun a b => compare a b = .lt := by
  have nodup := (compiled.models_map_perm Model.generatedName).nodup_iff.2 wellNamed.distinct
  rw [(compiled.models_perm.map fun entry => entry.2.generatedName).nodup_iff] at nodup
  rw [List.pairwise_map]
  exact pairwise_lt_mergeSort (fun entry : ModelId × Model => entry.2.generatedName) nodup

/-- The names of all models are the names of the graph. -/
lemma models_names_perm (wellNamed : compiled.graph.WellNamed) :
    (compiled.models.flatMap fun entry =>
      entry.2.definitionName :: compiled.graph.aliasesOf entry.1).Perm
        compiled.graph.names.keys := by
  have distinct : compiled.models.Pairwise fun a b => a.1 ≠ b.1 := by
    have nodup := (compiled.models_perm.map Prod.fst).nodup_iff.2
      compiled.graph.indexed_map_fst_nodup
    rw [List.Nodup, List.pairwise_map] at nodup
    exact nodup
  have nodup : (compiled.models.flatMap fun entry =>
      entry.2.definitionName :: compiled.graph.aliasesOf entry.1).Nodup := by
    rw [List.nodup_flatMap]
    refine ⟨fun entry mem => Graph.names_nodup (mem_models_iff.1 mem), ?_⟩
    refine distinct.imp_of_mem fun {a b} left right ne name => ?_
    -- a name leads to one model only
    rw [wellNamed.mem_names_iff (mem_models_iff.1 left),
      wellNamed.mem_names_iff (mem_models_iff.1 right)]
    intro first second
    rw [first] at second
    exact ne (Option.some.inj second)
  refine (List.perm_ext_iff_of_nodup nodup compiled.graph.names.keys_nodup).2 fun name => ?_
  rw [List.mem_flatMap, Table.mem_keys_iff]
  constructor
  · rintro ⟨⟨id, model⟩, mem, named⟩
    exact ⟨id, (wellNamed.mem_names_iff (mem_models_iff.1 mem)).1 named⟩
  · rintro ⟨id, leads⟩
    obtain ⟨model, found⟩ := wellNamed.named name id leads
    exact ⟨(id, model), mem_models_iff.2 found, (wellNamed.mem_names_iff found).2 leads⟩

end CompiledSchema

/-! ## What entries say of other models -/

variable {document : Document} {options : Options} {compiled : CompiledSchema} {ext : String}

/-- A definition with a model for its items has an array of that model under `items`. -/
lemma Definition.typeOf?_of_listItemModel? {definition : Definition} {graph : Graph} {id : ModelId}
    (h : definition.listItemModel? graph = some id) :
    definition.typeOf? graph "items" = some (.array (.model id)) := by
  rw [listItemModel?] at h
  split at h
  · next item hitems =>
    cases h
    rw [listItems?] at hitems
    split at hitems
    · next element htype =>
      cases hitems
      exact htype
    · cases hitems
  · cases h

/-- The model of the list items of a model is in the graph. -/
lemma exists_model_of_listItemType (h : compile document options = .ok compiled) {model : Model}
    (mem : model ∈ compiled.graph.models) {id : ModelId}
    (isItem : model.classification.listItemType = some id) :
    ∃ item, compiled.graph.model? id = some item := by
  obtain ⟨graph, compilation⟩ := compilation_of_compile h
  obtain ⟨definition, -, noDangling, from_definition, roles⟩ := compilation.exists_kept mem
  have itemModel : definition.listItemModel? graph = some id := by
    rw [roles] at isItem
    exact isItem
  -- the items are an array of the model, so a handle has the model as its type
  have items : definition.typeOf? graph "items" = some (.array (.model id)) :=
    Definition.typeOf?_of_listItemModel? itemModel
  have shows := shows_property from_definition compilation.coherent noDangling "items"
  rw [items] at shows
  generalize model.descriptor? compiled.registry "items" = descriptor at shows
  obtain ⟨shown⟩ := shows
  cases shown with
  | array inner => exact (grounded_of_tree? h inner).named id rfl

namespace Manifest

/-- A manifest has an entry for a model, under a generated name. -/
def Lists (manifest : Manifest) (graph : Graph) (id : ModelId) (generatedName : String) : Prop :=
  ∃ model, graph.model? id = some model ∧ ∃ entry ∈ manifest.models,
    entry.definition = model.definitionName ∧ entry.generatedName = generatedName

/-- An entry shows the type of a property, and a model in it by the generated name of its entry. -/
def PropertyEntry.Presents (compiled : CompiledSchema) (manifest : Manifest) (entry : PropertyEntry)
    (property : String × Property) : Prop :=
  ∃ tree, compiled.registry.tree? property.2.type = some tree ∧
    entry.typeName = tree.render compiled.graph.generatedName ∧
    (∀ name, tree.leaf ≠ .pending name) ∧
    ∀ id, tree.leaf = .model id →
      manifest.Lists compiled.graph id (compiled.graph.generatedName id)

/-- What an entry says of its model. -/
structure ModelEntry.Presents (compiled : CompiledSchema) (manifest : Manifest) (id : ModelId)
    (model : Model) (entry : ModelEntry) : Prop where
  definition : entry.definition = model.definitionName
  generatedName : entry.generatedName = model.generatedName
  names : ∀ name, name ∈ entry.definition :: entry.aliases ↔ compiled.graph.idOf? name = some id
  sorted : entry.aliases.Pairwise fun a b => compare a b = .lt
  /-- The model of the list items is named as its own entry names it. -/
  listItemType : Option.Rel (fun name item => manifest.Lists compiled.graph item name)
    entry.listItemType model.classification.listItemType
  properties : List.Forall₂ (PropertyEntry.Presents compiled manifest) entry.properties
    model.properties
  operations : entry.operations =
    (compiled.bindings.actionsOf? ⟨model.group, model.apiVersion, model.kind⟩).getD Table.empty

lemma lists_of_model? {id : ModelId} {model : Model}
    (found : compiled.graph.model? id = some model) :
    (ofCompiled compiled ext).Lists compiled.graph id (compiled.graph.generatedName id) := by
  refine ⟨model, found, .ofModel compiled ext id model, ?_, rfl, ?_⟩
  · exact List.mem_map.2 ⟨(id, model), CompiledSchema.mem_models_iff.2 found, rfl⟩
  · exact (Graph.generatedName_of_model? found).symm

/-- The entry of a property shows its type. -/
lemma presents_ofProperty (h : compile document options = .ok compiled)
    (property : String × Property) {tree : TypeTree}
    (htree : compiled.registry.tree? property.2.type = some tree) :
    (PropertyEntry.ofProperty compiled property.2).Presents compiled (ofCompiled compiled ext)
      property := by
  have grounded := grounded_of_tree? h htree
  refine ⟨tree, htree, describe_of_tree? htree, grounded.settled, fun id isLeaf => ?_⟩
  obtain ⟨model, found⟩ := grounded.named id isLeaf
  exact lists_of_model? found

/-- The entry of a model says what holds of it. -/
lemma presents_ofModel (h : compile document options = .ok compiled) {id : ModelId} {model : Model}
    (found : compiled.graph.model? id = some model) :
    (ModelEntry.ofModel compiled ext id model).Presents compiled (ofCompiled compiled ext) id
      model := by
  obtain ⟨graph, compilation⟩ := compilation_of_compile h
  have mem : model ∈ compiled.graph.models := List.mem_of_getElem? found
  refine ⟨rfl, rfl, fun name => compilation.wellNamed.mem_names_iff found,
    compiled.graph.aliasesOf_sorted id, ?_, ?_, rfl⟩
  · show Option.Rel _ (model.classification.listItemType.map compiled.graph.generatedName) _
    cases isItem : model.classification.listItemType with
    | none => exact .none
    | some item =>
      obtain ⟨itemModel, hitem⟩ := exists_model_of_listItemType h mem isItem
      exact .some (lists_of_model? hitem)
  · show List.Forall₂ _
      (model.properties.map fun property => PropertyEntry.ofProperty compiled property.2)
      model.properties
    rw [List.forall₂_map_left_iff, List.forall₂_same]
    intro property listed
    obtain ⟨definition, -, -, from_definition⟩ := compilation.exists_definition mem
    obtain ⟨schema, -, typed⟩ := Compile.exists_of_forall₂ from_definition.properties listed
    obtain ⟨tree, htree, -⟩ := typed.type
    exact presents_ofProperty h property htree

/-! ## The whole manifest -/

/-- A manifest lists what a document defines, each definition in one place. -/
structure Covers (document : Document) (options : Options) (compiled : CompiledSchema)
    (manifest : Manifest) : Prop where
  /-- The entries are those of the definitions kept that are no aliases; no name is listed twice. -/
  definitions : (manifest.models.map (·.definition)).Perm
    ((keptModels options document.definitions.entries).map Prod.fst)
  increasing : (manifest.models.map (·.generatedName)).Pairwise fun a b => compare a b = .lt
  fileNames : (manifest.models.map (·.fileName)).Nodup
  /-- The definitions and aliases of all entries are the names of the definitions kept, none of them
  listed twice. -/
  names : (manifest.models.flatMap fun entry => entry.definition :: entry.aliases).Perm
    (document.definitions.keys.filter fun name => !options.isIgnored name)
  entries : ∀ entry ∈ manifest.models, ∃ id model, compiled.graph.model? id = some model ∧
    entry.Presents compiled manifest id model
  bindings : compiled.bindings = .ofPaths document.paths

/-- Different generated names give different file names. -/
lemma fileName_nodup {models : List Model} (nodup : (models.map Model.generatedName).Nodup) :
    (models.map (Model.fileName · ext)).Nodup := by
  rw [List.Nodup, List.pairwise_map] at nodup ⊢
  refine nodup.imp fun {a b} ne same => ne ?_
  rw [Model.fileName, Model.fileName, String.append_left_inj, String.append_left_inj] at same
  exact same

/-- **Manifests.** The manifest of a compilation has one entry for each model, in strict order of
generated name, in which every name of the document that is kept stands once; entries refer to each
other by generated name, and carry the operations bound to the type of their model. -/
theorem ofCompiled_covers (h : compile document options = .ok compiled) (ext : String) :
    (ofCompiled compiled ext).Covers document options compiled := by
  obtain ⟨graph, compilation⟩ := compilation_of_compile h
  have wellNamed := compilation.wellNamed
  have keys : compiled.graph.names.keys
      = document.definitions.keys.filter fun name => !options.isIgnored name := by
    rw [compilation.names, (Resolution.resolved_of_resolveAll compilation.resolved).keys]
  refine ⟨?_, ?_, ?_, ?_, fun entry mem => ?_, ?_⟩
  · have stand := compilation.models.imp fun _ _ from_definition => from_definition.stands
    show (List.map _ (List.map _ _)).Perm _
    rw [List.map_map, ← Resolution.definitionNames_eq stand]
    exact compiled.models_map_perm Model.definitionName
  · show (List.map _ (List.map _ _)).Pairwise _
    rw [List.map_map]
    exact CompiledSchema.models_sorted wellNamed
  · show (List.map _ (List.map _ _)).Nodup
    rw [List.map_map]
    exact (compiled.models_map_perm (Model.fileName · ext)).nodup_iff.2
      (fileName_nodup wellNamed.distinct)
  · show (List.flatMap _ (List.map _ _)).Perm _
    rw [List.flatMap_map, ← keys]
    exact CompiledSchema.models_names_perm wellNamed
  · obtain ⟨⟨id, model⟩, listed, rfl⟩ := List.mem_map.1 mem
    have found := CompiledSchema.mem_models_iff.1 listed
    exact ⟨id, model, found, presents_ofModel h found⟩
  · obtain ⟨-, -, -, -, -, -, -, bindings⟩ := Compile.exists_steps_of_compile h
    exact bindings

theorem ofCompiled_covers_of_sample : ∃ compiled,
    compile sampleDocument .standard = .ok compiled ∧
    (ofCompiled compiled "..rs").Covers sampleDocument .standard compiled := by
  obtain ⟨compiled, h⟩ := exists_compile_sampleDocument
  exact ⟨compiled, h, ofCompiled_covers h "..rs"⟩

end Manifest

end KubeSchema

import KubeSchema.Proofs.PropertiesTheorems

/-!
# Classification by the document

The roles of a compiled model are read off the registry. Since each property shows the type that its
schema stands for, they can be read off the definition and the graph as well: `conflict?` and
`roles` do so, and `classify_eq` shows that this is what classifying a model gives.
-/

namespace KubeSchema

variable {graph : Graph} {registry : Registry} {metadata : MetadataModels}

/-! ## Roles of a definition -/

namespace Definition

variable (definition : Definition) (graph : Graph)

/-- The type that a property of a definition stands for. -/
def typeOf? (wireName : String) : Option TypeTree :=
  (definition.properties.lookup? wireName).bind fun schema => schema.denote graph.typeOf?

/-- Whether `kind` and `apiVersion` are strings. -/
def isObject : Bool :=
  definition.typeOf? graph "kind" == some (.intrinsic .string) &&
    definition.typeOf? graph "apiVersion" == some (.intrinsic .string)

/-- Whether `metadata` is a given model. -/
def hasMetadata : Option ModelId → Bool
  | some mark => definition.typeOf? graph "metadata" == some (.model mark)
  | none => false

/-- The type of the elements of `items`, if they are an array. -/
def listItems? : Option TypeTree :=
  match definition.typeOf? graph "items" with
  | some (.array element) => some element
  | _ => none

/-- The model of the elements of `items`. -/
def listItemModel? : Option ModelId :=
  match definition.listItems? graph with
  | some (.model id) => some id
  | _ => none

/-- The roles of a definition's model. -/
def roles (metadata : MetadataModels) : Classification where
  isKubeObject := definition.isObject graph
  isKubeResource := definition.isObject graph && definition.hasMetadata graph metadata.objectMeta
  isKubeResourceList := definition.isObject graph && definition.hasMetadata graph metadata.listMeta
  hasListItems := (definition.listItems? graph).isSome
  listItemType := definition.listItemModel? graph

/-- Why a definition's model cannot be classified: it would be a resource and a resource list, or it
would be a resource list whose items are an array of something other than a model. -/
def conflict? (metadata : MetadataModels) : Option ClassificationFault :=
  let roles := definition.roles graph metadata
  if roles.isKubeResource && roles.isKubeResourceList then some .bothMetadata
  else if roles.hasListItems && roles.listItemType.isNone && roles.isKubeResourceList then
    some .itemsNotModels
  else none

end Definition

/-! ## Properties show their types -/

/-- Lists whose entries correspond under equal keys are looked up alike. -/
lemma lookup_rel {κ α β : Type} [BEq κ] {r : κ × α → κ × β → Prop} {left : List (κ × α)}
    {right : List (κ × β)} (h : List.Forall₂ r left right) (keys : ∀ a b, r a b → b.1 = a.1)
    (key : κ) :
    Option.Rel (fun a b => ∃ k, (k, a) ∈ left ∧ r (k, a) (k, b)) (left.lookup key)
      (right.lookup key) := by
  induction h with
  | nil => exact .none
  | @cons a b left right related _ ih =>
    obtain ⟨k, value⟩ := a
    obtain ⟨k', other⟩ := b
    obtain rfl : k' = k := keys _ _ related
    rw [List.lookup_cons, List.lookup_cons]
    cases key == k' with
    | true => exact .some ⟨k', List.mem_cons_self, related⟩
    | false =>
      generalize left.lookup key = a, right.lookup key = b at ih
      cases ih with
      | none => exact .none
      | some found =>
        obtain ⟨k, mem, related⟩ := found
        exact .some ⟨k, List.mem_cons_of_mem _ mem, related⟩

/-- A property of a compiled model shows as the type that its schema stands for. -/
theorem shows_property {entry : String × Definition} {model : Model}
    (compiled : Compile.CompiledFrom graph registry entry model) (coherent : registry.Coherent)
    (noneDangling : entry.2.dangling? graph = none) (wireName : String) :
    Option.Rel registry.Shows (model.descriptor? registry wireName)
      (entry.2.typeOf? graph wireName) := by
  have perm := Properties.inEmissionOrder_perm entry.2
  have found := lookup_rel compiled.properties (fun _ _ typed => typed.wireName) wireName
  rw [Table.lookup_of_perm _ perm] at found
  rw [Model.descriptor?, Model.property?, Definition.typeOf?]
  cases hschema : entry.2.properties.lookup? wireName with
  | none =>
    rw [hschema] at found
    cases hproperty : model.properties.lookup wireName with
    | none => exact .none
    | some property =>
      rw [hproperty] at found
      cases found
  | some schema =>
    rw [hschema] at found
    cases hproperty : model.properties.lookup wireName with
    | none =>
      rw [hproperty] at found
      cases found
    | some property =>
      rw [hproperty] at found
      cases found with
      | some found =>
        obtain ⟨key, mem, typed⟩ := found
        -- nothing dangles, so pending names play no part
        obtain ⟨tree, htree, hdenote⟩ :=
          typed.exists_tree (List.findSome?_eq_none_iff.1 noneDangling _ mem)
        obtain ⟨descriptor, holds, shows⟩ := Registry.shows_of_tree? coherent htree
        rw [Option.bind_some, Option.bind_some, holds, hdenote]
        exact .some shows

/-! ## Classifying a model -/

section Classify

variable {descriptor? : Option Descriptor} {tree? : Option TypeTree}

lemma intrinsic?_of_rel (h : Option.Rel registry.Shows descriptor? tree?) (type : Intrinsic) :
    (descriptor?.bind Descriptor.intrinsic? == some type) = (tree? == some (.intrinsic type)) := by
  cases h with
  | none => rfl
  | some shows => cases shows <;> simp [Descriptor.intrinsic?]

lemma model?_of_rel (h : Option.Rel registry.Shows descriptor? tree?) (id : ModelId) :
    (descriptor?.bind Descriptor.model? == some id) = (tree? == some (.model id)) := by
  cases h with
  | none => rfl
  | some shows => cases shows <;> simp [Descriptor.model?]

variable {definition : Definition} {model : Model}

/-- Items that show as a type are an array when the type is one, and then of the same model. -/
lemma listItems?_of_rel (coherent : registry.Coherent)
    (h : Option.Rel registry.Shows (model.descriptor? registry "items")
      (definition.typeOf? graph "items")) :
    (model.listItems? registry).isSome = (definition.listItems? graph).isSome ∧
      ((model.listItems? registry).bind registry.descriptor?).bind Descriptor.model?
        = definition.listItemModel? graph := by
  rw [Definition.listItemModel?, Model.listItems?, Definition.listItems?]
  generalize model.descriptor? registry "items" = found, definition.typeOf? graph "items" = type
    at h
  cases h with
  | none => exact ⟨rfl, rfl⟩
  | some shows =>
    cases shows with
    | array helement =>
      -- the elements have a slot of their own, which shows their type
      obtain ⟨descriptor, holds, shows⟩ := Registry.shows_of_tree? coherent helement
      refine ⟨rfl, ?_⟩
      rw [Option.bind_some, holds]
      cases shows <;> rfl
    | _ => exact ⟨rfl, rfl⟩

/-- A model whose properties show the types of a definition has the roles of the definition. -/
lemma classify_of_rel (coherent : registry.Coherent)
    (shows : ∀ wireName, Option.Rel registry.Shows (model.descriptor? registry wireName)
      (definition.typeOf? graph wireName)) :
    model.classify registry metadata =
      match definition.conflict? graph metadata with
      | some fault => .error (.classificationConflict model.definitionName fault)
      | none => .ok (definition.roles graph metadata) := by
  -- each role on the model's side is the role on the definition's side
  have isObject : model.isKubeObject registry = definition.isObject graph := by
    rw [Model.isKubeObject, Definition.isObject, Model.hasString, Model.hasString,
      intrinsic?_of_rel (shows "kind"), intrinsic?_of_rel (shows "apiVersion")]
  have hasMetadata : ∀ mark,
      model.hasMetadata registry mark = definition.hasMetadata graph mark := by
    intro mark
    cases mark with
    | none => rfl
    | some id =>
      rw [Model.hasMetadata, Model.metadataModel?, model?_of_rel (shows "metadata")]
      rfl
  obtain ⟨items, itemModel⟩ := listItems?_of_rel coherent (shows "items")
  rw [Model.classify, Definition.conflict?]
  simp only [Model.isKubeResource, Model.isKubeResourceList, Definition.roles, isObject,
    hasMetadata, items, itemModel]
  split
  · next both => simp only [both, if_true]
  · next notBoth =>
    split
    · next loose => simp only [notBoth, loose, if_true, if_false, Bool.false_eq_true]
    · next fine => simp only [notBoth, fine, if_false, Bool.false_eq_true]

end Classify

/-! ## Classifying all models -/

namespace Compile

/-- The first conflict among definitions, and the definition that has it. -/
def firstConflict? (graph : Graph) (metadata : MetadataModels)
    (entries : List (String × Definition)) : Option (String × ClassificationFault) :=
  entries.findSome? fun entry =>
    (entry.2.conflict? graph metadata).map fun fault => (entry.1, fault)

/-- A compiled model gets the roles of its definition, or has its conflict. -/
theorem classified_eq (metadata : MetadataModels) {entry : String × Definition} {model : Model}
    (compiled : CompiledFrom graph registry entry model) (coherent : registry.Coherent)
    (noneDangling : entry.2.dangling? graph = none) :
    classified registry metadata model =
      match entry.2.conflict? graph metadata with
      | some fault => .error (.classificationConflict entry.1 fault)
      | none => .ok { model with classification := entry.2.roles graph metadata } := by
  rw [classified, classify_of_rel coherent (shows_property compiled coherent noneDangling),
    compiled.stands.definitionName]
  cases entry.2.conflict? graph metadata <;> rfl

/-- Models have been classified. -/
structure Classified (graph : Graph) (registry : Registry) (metadata : MetadataModels)
    (entries : List (String × Definition)) (models results : List Model) : Prop where
  compiled : List.Forall₂ (CompiledFrom graph registry) entries results
  roles : List.Forall₂ (fun entry result => result.classification = entry.2.roles graph metadata)
    entries results
  frame : List.Forall₂
    (fun model result => result = { model with classification := result.classification })
    models results

/-- Classifying all models fails at the first conflict of their definitions, and otherwise gives
each of them the roles of its definition. -/
theorem classified_cases {entries : List (String × Definition)} {models : List Model}
    (compiled : List.Forall₂ (CompiledFrom graph registry) entries models)
    (coherent : registry.Coherent)
    (noneDangling : ∀ entry ∈ entries, entry.2.dangling? graph = none) :
    (∃ name fault, firstConflict? graph metadata entries = some (name, fault) ∧
      models.mapM (classified registry metadata)
        = .error (.classificationConflict name fault)) ∨
    (firstConflict? graph metadata entries = none ∧ ∃ results,
      models.mapM (classified registry metadata) = .ok results ∧
      Classified graph registry metadata entries models results) := by
  induction compiled with
  | nil => exact .inr ⟨rfl, [], rfl, .nil, .nil, .nil⟩
  | @cons entry model entries models first _ ih =>
    rw [List.mapM_cons, firstConflict?, List.findSome?_cons,
      classified_eq metadata first coherent (noneDangling entry List.mem_cons_self)]
    cases entry.2.conflict? graph metadata with
    | some fault => exact .inl ⟨entry.1, fault, rfl, rfl⟩
    | none =>
      obtain ⟨name, fault, hrest, herror⟩ | ⟨hrest, results, hok, rest⟩ :=
        ih fun entry mem => noneDangling entry (List.mem_cons_of_mem _ mem)
      · exact .inl ⟨name, fault, hrest, by rw [herror]; rfl⟩
      · have whole : CompiledFrom graph registry entry
            { model with classification := entry.2.roles graph metadata } :=
          ⟨{ first.stands with }, first.properties⟩
        exact .inr ⟨hrest, { model with classification := entry.2.roles graph metadata } :: results,
          by rw [hok]; rfl, .cons whole rest.compiled, .cons rfl rest.roles, .cons rfl rest.frame⟩

end Compile

end KubeSchema

import KubeSchema.Proofs.CompileTheorems

/-!
# Roles said by the document

What the roles of a model say of its definition: `HasRoles` reads each flag as a statement on the
types that the properties `kind`, `apiVersion`, `metadata` and `items` stand for. The roles that a
compilation gives are those (`hasRoles_roles`), and there are no roles to give exactly where
`Conflicts` holds (`conflict?_isSome_iff`). Names enter by the model they lead to, so a metadata
model may be referred to by its own name or by an alias.
-/

namespace KubeSchema

open Compile
open Resolution (keptModels)

namespace Definition

variable {definition : Definition} {graph : Graph} {options : Options} {name : String}

/-! ## Roles as statements on types -/

/-- `kind` and `apiVersion` are strings. -/
def IsObject (definition : Definition) (graph : Graph) : Prop :=
  definition.typeOf? graph "kind" = some (.intrinsic .string) ∧
    definition.typeOf? graph "apiVersion" = some (.intrinsic .string)

/-- `metadata` is the model that a name leads to. -/
def HasMetadataOf (definition : Definition) (graph : Graph) (name : String) : Prop :=
  ∃ id, graph.idOf? name = some id ∧ definition.typeOf? graph "metadata" = some (.model id)

/-- The roles are what the definition says. -/
structure HasRoles (definition : Definition) (graph : Graph) (options : Options)
    (roles : Classification) : Prop where
  object : roles.isKubeObject = true ↔ definition.IsObject graph
  resource : roles.isKubeResource = true ↔
    definition.IsObject graph ∧ definition.HasMetadataOf graph options.objectMeta
  list : roles.isKubeResourceList = true ↔
    definition.IsObject graph ∧ definition.HasMetadataOf graph options.listMeta
  items : roles.hasListItems = true ↔
    ∃ element, definition.typeOf? graph "items" = some (.array element)
  itemType : ∀ id, roles.listItemType = some id ↔
    definition.typeOf? graph "items" = some (.array (.model id))

/-- The definition would be that of a resource and of a resource list, or of a resource list with an
array of something else than models. -/
def Conflicts (definition : Definition) (graph : Graph) (options : Options) : Prop :=
  definition.IsObject graph ∧ definition.HasMetadataOf graph options.listMeta ∧
    (definition.HasMetadataOf graph options.objectMeta ∨
      ∃ element, definition.typeOf? graph "items" = some (.array element) ∧
        ∀ id, element ≠ .model id)

lemma isObject_iff : definition.isObject graph = true ↔ definition.IsObject graph := by
  unfold isObject IsObject
  rw [Bool.and_eq_true, beq_iff_eq, beq_iff_eq]

lemma hasMetadata_iff :
    definition.hasMetadata graph (graph.idOf? name) = true ↔
      definition.HasMetadataOf graph name := by
  unfold HasMetadataOf
  cases graph.idOf? name with
  | none => simp [hasMetadata]
  | some id => simp [hasMetadata]

lemma listItems?_eq_some_iff {element : TypeTree} :
    definition.listItems? graph = some element ↔
      definition.typeOf? graph "items" = some (.array element) := by
  unfold listItems?
  split
  · next found h => simp [h]
  · next notArray =>
    constructor
    · intro h
      cases h
    · intro h
      exact absurd h (notArray element)

lemma listItemModel?_eq_some_iff {id : ModelId} :
    definition.listItemModel? graph = some id ↔
      definition.typeOf? graph "items" = some (.array (.model id)) := by
  rw [← listItems?_eq_some_iff]
  unfold listItemModel?
  split
  · next found h => simp [h]
  · next notModel =>
    constructor
    · intro h
      cases h
    · intro h
      exact absurd h (notModel id)

/-- The roles of a definition say what it says. -/
theorem hasRoles_roles (definition : Definition) (graph : Graph) (options : Options) :
    definition.HasRoles graph options (definition.roles graph (.ofGraph graph options)) where
  object := isObject_iff
  resource := by
    show (definition.isObject graph && definition.hasMetadata graph (graph.idOf? _)) = true ↔ _
    rw [Bool.and_eq_true, isObject_iff, hasMetadata_iff]
  list := by
    show (definition.isObject graph && definition.hasMetadata graph (graph.idOf? _)) = true ↔ _
    rw [Bool.and_eq_true, isObject_iff, hasMetadata_iff]
  items := by
    show (definition.listItems? graph).isSome = true ↔ _
    rw [Option.isSome_iff_exists]
    simp only [listItems?_eq_some_iff]
  itemType id := listItemModel?_eq_some_iff

/-- Items that are an array of something else than models. -/
lemma looseItems_iff {roles : Classification} (spoken : definition.HasRoles graph options roles) :
    (roles.hasListItems && roles.listItemType.isNone) = true ↔
      ∃ element, definition.typeOf? graph "items" = some (.array element) ∧
        ∀ id, element ≠ .model id := by
  rw [Bool.and_eq_true, spoken.items, Option.isNone_iff_eq_none, Option.eq_none_iff_forall_ne_some]
  constructor
  · intro ⟨⟨element, isArray⟩, noModel⟩
    refine ⟨element, isArray, ?_⟩
    rintro id rfl
    exact noModel id ((spoken.itemType id).2 isArray)
  · intro ⟨element, isArray, noModel⟩
    refine ⟨⟨element, isArray⟩, fun id isItem => ?_⟩
    have isModel := (spoken.itemType id).1 isItem
    rw [isArray] at isModel
    cases isModel
    exact noModel id rfl

/-- A model cannot be classified exactly when its definition conflicts. -/
theorem conflict?_isSome_iff : (definition.conflict? graph (.ofGraph graph options)).isSome = true ↔
    definition.Conflicts graph options := by
  have spoken := definition.hasRoles_roles graph options
  have loose := looseItems_iff spoken
  unfold conflict? Conflicts
  generalize definition.roles graph (.ofGraph graph options) = roles at spoken loose
  rw [← loose]
  have resource := spoken.resource
  have list := spoken.list
  dsimp only
  split
  · next both =>
    rw [Bool.and_eq_true, resource, list] at both
    simp [both]
  · next notBoth =>
    rw [Bool.and_eq_true, resource, list] at notBoth
    split
    · next isLoose =>
      rw [Bool.and_eq_true, list] at isLoose
      simp [isLoose]
    · next notLoose =>
      rw [Bool.and_eq_true, list] at notLoose
      refine ⟨fun h => (by cases h), fun ⟨isObject, isList, reason⟩ => ?_⟩
      rcases reason with isResource | isLoose
      · exact absurd ⟨⟨isObject, isResource⟩, isObject, isList⟩ notBoth
      · exact absurd ⟨isLoose, isObject, isList⟩ notLoose

/-- Roles depend on the names of a graph only. -/
lemma roles_eq_of_names {left right : Graph} (names : left.names = right.names) :
    definition.roles left (.ofGraph left options) =
      definition.roles right (.ofGraph right options) := by
  obtain ⟨models, table⟩ := left
  obtain ⟨others, table⟩ := right
  cases names
  rfl

lemma conflicts_iff_of_names {left right : Graph} (names : left.names = right.names) :
    definition.Conflicts left options ↔ definition.Conflicts right options := by
  obtain ⟨models, table⟩ := left
  obtain ⟨others, table⟩ := right
  cases names
  rfl

/-- A `metadata` that refers to a definition is the model of any name that leads where the name
referred to leads. -/
lemma hasMetadataOf_iff_of_reference {schema : PropertySchema} {reference : String}
    (found : definition.properties.lookup? "metadata" = some schema)
    (refers : schema.reference = some reference)
    (notWellKnown : Registry.wellKnown.lookup (referenceName reference) = none) :
    definition.HasMetadataOf graph name ↔
      ∃ id, graph.idOf? name = some id ∧ graph.idOf? (referenceName reference) = some id := by
  have type : definition.typeOf? graph "metadata" =
      (graph.idOf? (referenceName reference)).map .model := by
    unfold typeOf?
    rw [found, Option.bind_some, PropertySchema.denote_eq,
      PropertySchema.stop_of_reference refers, PropertySchema.wrappers_of_reference refers]
    show (graph.typeOf? (referenceName reference)).map id = _
    unfold Graph.typeOf?
    rw [notWellKnown, Option.map_id_fun, id]
  unfold HasMetadataOf
  rw [type]
  simp

end Definition

/-! ## Roles of a compilation -/

/-- Roles that exclude or imply each other do so. -/
structure Classification.IsConsistent (roles : Classification) : Prop where
  exclusive : ¬ (roles.isKubeResource = true ∧ roles.isKubeResourceList = true)
  resource : roles.isKubeResource = true → roles.isKubeObject = true
  list : roles.isKubeResourceList = true → roles.isKubeObject = true
  items : roles.isKubeResourceList = true → roles.hasListItems = true →
    ∃ id, roles.listItemType = some id

/-- Where a definition does not conflict, its roles are consistent. -/
lemma Definition.HasRoles.isConsistent {definition : Definition} {graph : Graph}
    {options : Options} {roles : Classification} (spoken : definition.HasRoles graph options roles)
    (noConflict : ¬ definition.Conflicts graph options) : roles.IsConsistent where
  exclusive := by
    rw [spoken.resource, spoken.list]
    rintro ⟨⟨isObject, isResource⟩, -, isList⟩
    exact noConflict ⟨isObject, isList, .inl isResource⟩
  resource isResource := spoken.object.2 (spoken.resource.1 isResource).1
  list isList := spoken.object.2 (spoken.list.1 isList).1
  items isList hasItems := by
    by_contra noItem
    have isNone : roles.listItemType.isNone = true := by
      rw [Option.isNone_iff_eq_none, Option.eq_none_iff_forall_ne_some]
      exact fun id isItem => noItem ⟨id, isItem⟩
    have isLoose := (Definition.looseItems_iff spoken).1 (by rw [hasItems, isNone]; rfl)
    obtain ⟨isObject, hasMetadata⟩ := spoken.list.1 isList
    exact noConflict ⟨isObject, hasMetadata, .inr isLoose⟩

namespace Compile

variable {document : Document} {options : Options} {graph : Graph}

lemma firstConflict?_eq_none_iff {entries : List (String × Definition)} :
    firstConflict? graph (.ofGraph graph options) entries = none ↔
      ∀ entry ∈ entries, ¬ entry.2.Conflicts graph options := by
  unfold firstConflict?
  rw [List.findSome?_eq_none_iff]
  refine forall₂_congr fun entry _ => ?_
  rw [Option.map_eq_none_iff, ← Definition.conflict?_isSome_iff]
  simp

/-- After a compilation nothing conflicts. -/
lemma not_conflicts_of_compile {compiled : CompiledSchema}
    (h : compile document options = .ok compiled)
    (resolved : resolveAll document.definitions options = .ok graph) :
    ∀ entry ∈ keptModels options document.definitions.entries,
      ¬ entry.2.Conflicts graph options := by
  obtain ⟨error, -, heq⟩ | ⟨none, -⟩ := compile_cases document options
  · rw [h] at heq
    cases heq
  · unfold firstError? at none
    rw [resolved] at none
    unfold errorAmong? at none
    simp only [Option.or_eq_none_iff, Option.map_eq_none_iff] at none
    exact firstConflict?_eq_none_iff.1 none.2.2

/-- The properties of all models compile, and the registry can then be sealed, exactly when nothing
is at fault and nothing dangles. -/
lemma exists_sealUp_iff (resolved : resolveAll document.definitions options = .ok graph) :
    (∃ models registry, modelProperties document.definitions (bindNames graph) graph.models =
        .ok (models, registry) ∧ registry.sealUp.1 = .ok ()) ↔
      firstFault? (keptModels options document.definitions.entries) = none ∧
        firstDangling? graph (keptModels options document.definitions.entries) = none := by
  have stand := (Resolution.resolved_of_resolveAll resolved).models
  have listed : ∀ entry ∈ keptModels options document.definitions.entries,
      entry ∈ document.definitions.entries :=
    fun entry mem => (Resolution.mem_keptModels.1 mem).1
  obtain ⟨name, fault, hfault, herror⟩ | ⟨noFault, results, last, hok, second⟩ :=
    modelProperties_cases stand listed (serves_bindNames graph)
  · simp [herror, hfault]
  · -- nothing was pending at first, so a name that dangles is one that is pending
    have pending : last.firstPending? = firstDangling? graph
        (keptModels options document.definitions.entries) := by
      rw [second.pending, (binds_bindNames graph).noPending, Option.none_or]
    obtain ⟨target, name, hpending, hseal⟩ | ⟨noPending, hseal⟩ := last.sealUp_cases
    · simp [hok, hseal, ← pending, hpending]
    · simp [hok, hseal, noFault, ← pending, noPending]

/-- Where nothing is at fault and nothing dangles, conflicts are all that can stop a compilation. -/
lemma firstError?_of_clear (resolved : resolveAll document.definitions options = .ok graph)
    (faultless : firstFault? (keptModels options document.definitions.entries) = none)
    (noDangling : firstDangling? graph (keptModels options document.definitions.entries) = none) :
    firstError? document options = (firstConflict? graph (.ofGraph graph options)
      (keptModels options document.definitions.entries)).map fun (name, fault) =>
        .classificationConflict name fault := by
  unfold firstError?
  rw [resolved]
  simp only [errorAmong?]
  rw [faultless, noDangling]
  rfl

/-- The definitions kept are those of the models. -/
lemma exists_mem_keptModels_iff (resolved : resolveAll document.definitions options = .ok graph)
    (property : Definition → Prop) :
    (∃ entry ∈ keptModels options document.definitions.entries, property entry.2) ↔
      ∃ model ∈ graph.models, ∃ definition,
        document.definitions.lookup? model.definitionName = some definition ∧
          property definition := by
  have stand := (Resolution.resolved_of_resolveAll resolved).models
  constructor
  · rintro ⟨⟨name, definition⟩, mem, holds⟩
    have listed := (Resolution.mem_keptModels.1 mem).1
    have named : name ∈ graph.models.map Model.definitionName := by
      rw [Resolution.definitionNames_eq stand]
      exact List.mem_map.2 ⟨_, mem, rfl⟩
    obtain ⟨model, hmodel, rfl⟩ := List.mem_map.1 named
    exact ⟨model, hmodel, definition, document.definitions.lookup?_eq_some_iff.2 listed, holds⟩
  · rintro ⟨model, hmodel, definition, found, holds⟩
    obtain ⟨⟨name, other⟩, mem, stands⟩ := exists_of_forall₂ stand hmodel
    have listed := (Resolution.mem_keptModels.1 mem).1
    rw [stands.definitionName, document.definitions.lookup?_eq_some_iff.2 listed] at found
    cases found
    exact ⟨_, mem, holds⟩

end Compile

/-- **Roles.** After a compilation, the roles of each model are what its definition says by the
types of its properties, where a metadata model may go by any of its names, and they are consistent.
Once the registry could be sealed, a compilation stops at a conflict of roles exactly when some
definition conflicts. -/
theorem classification_says_document (document : Document) (options : Options) :
    (∀ compiled, compile document options = .ok compiled → ∀ model ∈ compiled.graph.models,
      model.classification.IsConsistent ∧
      ∃ definition, document.definitions.lookup? model.definitionName = some definition ∧
        definition.HasRoles compiled.graph options model.classification ∧
        ∀ schema reference, definition.properties.lookup? "metadata" = some schema →
          schema.reference = some reference →
          Registry.wellKnown.lookup (referenceName reference) = none →
          ∀ name, definition.HasMetadataOf compiled.graph name ↔
            ∃ id, compiled.graph.idOf? name = some id ∧
              compiled.graph.idOf? (referenceName reference) = some id) ∧
    ∀ graph models registry, resolveAll document.definitions options = .ok graph →
      modelProperties document.definitions (bindNames graph) graph.models = .ok (models, registry) →
      registry.sealUp.1 = .ok () →
      ((∃ name fault, compile document options = .error (.classificationConflict name fault)) ↔
        ∃ model ∈ graph.models, ∃ definition,
          document.definitions.lookup? model.definitionName = some definition ∧
            definition.Conflicts graph options) := by
  constructor
  · intro compiled h model mem
    obtain ⟨graph, compilation⟩ := compilation_of_compile h
    obtain ⟨definition, hentry, -, -, roles⟩ := compilation.exists_kept mem
    have listed := (Resolution.mem_keptModels.1 hentry).1
    have spoken : definition.HasRoles compiled.graph options model.classification := by
      rw [roles, ← Definition.roles_eq_of_names compilation.names]
      exact definition.hasRoles_roles compiled.graph options
    have noConflict : ¬ definition.Conflicts compiled.graph options := by
      rw [Definition.conflicts_iff_of_names compilation.names]
      exact not_conflicts_of_compile h compilation.resolved _ hentry
    refine ⟨spoken.isConsistent noConflict, definition,
      document.definitions.lookup?_eq_some_iff.2 listed, spoken, ?_⟩
    intro schema reference found refers notWellKnown name
    exact Definition.hasMetadataOf_iff_of_reference found refers notWellKnown
  · intro graph models registry resolved compiled closed
    obtain ⟨faultless, noDangling⟩ := (exists_sealUp_iff resolved).1 ⟨_, _, compiled, closed⟩
    have first := firstError?_of_clear resolved faultless noDangling
    rw [← exists_mem_keptModels_iff resolved (·.Conflicts graph options)]
    obtain ⟨error, herror, heq⟩ | ⟨hnone, -, result, heq, -⟩ := compile_cases document options
    · rw [first] at herror
      obtain ⟨⟨name, fault⟩, hconflict, rfl⟩ := Option.map_eq_some_iff.1 herror
      refine ⟨fun _ => ?_, fun _ => ⟨name, fault, heq⟩⟩
      by_contra noConflict
      have none := firstConflict?_eq_none_iff.2 fun entry mem conflicts =>
        noConflict ⟨entry, mem, conflicts⟩
      rw [none] at hconflict
      cases hconflict
    · rw [first, Option.map_eq_none_iff] at hnone
      constructor
      · rintro ⟨name, fault, failed⟩
        rw [heq] at failed
        cases failed
      · rintro ⟨entry, mem, conflicts⟩
        exact absurd conflicts (firstConflict?_eq_none_iff.1 hnone entry mem)

/-! ## A fleet of ships and a roster -/

/-- Where properties are listed in emission order, they can be checked as they are listed. -/
lemma Compile.exists_graph_of_inOrder {document : Document} {options : Options}
    {property : Graph → Prop} [DecidablePred property]
    (checked : (resolveAll document.definitions options).toOption.any (fun graph =>
      decide ((∀ entry ∈ keptModels options document.definitions.entries,
        entry.2.properties.entries.Pairwise (fun a b => (Naming.emissionOrder a.1 b.1).isLE) ∧
        Properties.firstFault? [] entry.2.properties.entries = none ∧
        Properties.firstDangling? graph entry.2.properties.entries = none) ∧
      property graph)) = true) :
    ∃ graph, resolveAll document.definitions options = .ok graph ∧
      firstFault? (keptModels options document.definitions.entries) = none ∧
      firstDangling? graph (keptModels options document.definitions.entries) = none ∧
      property graph := by
  obtain ⟨graph, resolved, holds⟩ := exists_ok_of_any checked
  obtain ⟨clear, holds⟩ := of_decide_eq_true holds
  have same : ∀ entry ∈ keptModels options document.definitions.entries,
      Properties.inEmissionOrder entry.2 = entry.2.properties.entries :=
    fun entry mem => List.mergeSort_of_pairwise (clear entry mem).1
  refine ⟨graph, resolved, ?_, ?_, holds⟩
  · unfold firstFault?
    rw [List.findSome?_eq_none_iff]
    intro entry mem
    rw [Definition.fault?, same entry mem, (clear entry mem).2.1]
    rfl
  · rw [firstDangling?_eq_none_iff]
    intro entry mem
    rw [Definition.dangling?, same entry mem, (clear entry mem).2.2]

/-- A definition of objects with metadata of a definition, and with items of a schema. -/
def objectWith (metadata : String) (items : PropertySchema) : Definition where
  properties := .ofList [
    ("kind", { typeName := some "string" }), ("apiVersion", { typeName := some "string" }),
    ("metadata", referTo metadata), ("items", { typeName := some "array", items := some items })]

/-- A document with ships, whose metadata goes by an alias, and a list of ships. -/
def fleetDocument : Document where
  definitions := .ofList [
    (WellKnown.objectMeta, {}), (WellKnown.listMeta, {}),
    ("a.Meta", { reference := some (definitionsLead ++ WellKnown.objectMeta) }),
    ("b.Ship", objectWith "a.Meta" (referTo "b.Ship")),
    ("c.Ships", objectWith WellKnown.listMeta (referTo "b.Ship"))]

/-- A document with a list whose items are names, which are no models. -/
def rosterDocument : Document where
  definitions := .ofList [
    (WellKnown.listMeta, {}),
    ("a.Roster", objectWith WellKnown.listMeta { typeName := some "string" })]

/-- What the fleet's definitions say: no two of them conflict, and ships are resources. -/
lemma exists_graph_fleetDocument : ∃ graph,
    resolveAll fleetDocument.definitions .standard = .ok graph ∧
    firstFault? (keptModels .standard fleetDocument.definitions.entries) = none ∧
    firstDangling? graph (keptModels .standard fleetDocument.definitions.entries) = none ∧
    firstConflict? graph (.ofGraph graph .standard)
      (keptModels .standard fleetDocument.definitions.entries) = none ∧
    ∃ entry ∈ keptModels .standard fleetDocument.definitions.entries,
      (entry.2.roles graph (.ofGraph graph .standard)).isKubeResource = true :=
  exists_graph_of_inOrder (by decide +kernel)

/-- What the roster's definitions say: one of them conflicts. -/
lemma exists_graph_rosterDocument : ∃ graph,
    resolveAll rosterDocument.definitions .standard = .ok graph ∧
    firstFault? (keptModels .standard rosterDocument.definitions.entries) = none ∧
    firstDangling? graph (keptModels .standard rosterDocument.definitions.entries) = none ∧
    ∃ entry ∈ keptModels .standard rosterDocument.definitions.entries,
      (entry.2.conflict? graph (.ofGraph graph .standard)).isSome = true :=
  exists_graph_of_inOrder (by decide +kernel)

theorem classification_says_document_of_fleet :
    (∃ compiled, compile fleetDocument .standard = .ok compiled ∧
      ∃ ship ∈ compiled.graph.models, ship.classification.isKubeResource = true ∧
        ship.classification.IsConsistent) ∧
    ∃ graph models registry, resolveAll rosterDocument.definitions .standard = .ok graph ∧
      modelProperties rosterDocument.definitions (bindNames graph) graph.models =
        .ok (models, registry) ∧
      registry.sealUp.1 = .ok () ∧
      ∃ name fault, compile rosterDocument .standard =
        .error (.classificationConflict name fault) := by
  constructor
  · obtain ⟨graph, resolved, faultless, noDangling, noConflict, entry, kept, isResource⟩ :=
      exists_graph_fleetDocument
    have first := firstError?_of_clear resolved faultless noDangling
    rw [noConflict] at first
    obtain ⟨error, herror, -⟩ | ⟨-, other, compiled, h, compilation⟩ :=
      compile_cases fleetDocument .standard
    · rw [first] at herror
      cases herror
    · have same := compilation.resolved
      rw [resolved] at same
      cases same
      obtain ⟨ship, mem, roles⟩ := exists_of_forall₂ compilation.roles.flip kept
      have consistent := ((classification_says_document _ _).1 compiled h ship mem).1
      refine ⟨compiled, h, ship, mem, ?_, consistent⟩
      rw [roles, isResource]
  · obtain ⟨graph, resolved, faultless, noDangling, entry, kept, isConflict⟩ :=
      exists_graph_rosterDocument
    obtain ⟨models, registry, compiled, closed⟩ :=
      (exists_sealUp_iff resolved).2 ⟨faultless, noDangling⟩
    have conflicts := (exists_mem_keptModels_iff resolved (·.Conflicts graph .standard)).1
      ⟨entry, kept, Definition.conflict?_isSome_iff.1 isConflict⟩
    have stopped := (classification_says_document rosterDocument .standard).2 graph models registry
      resolved compiled closed
    exact ⟨graph, models, registry, resolved, compiled, closed, stopped.2 conflicts⟩

end KubeSchema

import KubeSchema.Proofs.CompileTheorems

/-!
# The property list of a model

Compiling the properties of a definition gives one property for each wire name, in strict emission
order, whatever the model had before. A property says what its schema says; only its type comes from
the registry. The registry decides whether a property is compiled at all, and nothing here depends
on what it holds.
-/

namespace KubeSchema

open Text (capitalize)

/-! ## Emission order -/

namespace Naming

variable {first second : String}

/-- One wire name is emitted before another: its capitalized last segment is smaller, or the
segments are the same and the whole name is smaller. -/
def EmittedBefore (first second : String) : Prop :=
  capitalize (lastSegment first) < capitalize (lastSegment second) ∨
    (capitalize (lastSegment first) = capitalize (lastSegment second) ∧ first < second)

lemma emissionOrder_eq_lt_iff : emissionOrder first second = .lt ↔ EmittedBefore first second := by
  have less : ∀ left right : String, compare left right = .lt ↔ left < right :=
    fun _ _ => compareOfLessAndEq_eq_lt
  rw [emissionOrder, Ordering.then_eq_lt, less, less, Std.compare_eq_iff_eq]
  rfl

instance : Std.TransCmp emissionOrder :=
  inferInstanceAs (Std.TransCmp (compareLex (compareOn fun name => capitalize (lastSegment name))
    compare))

/-- Two wire names with one last segment are still told apart. -/
instance : Std.LawfulEqCmp emissionOrder where
  compare_self := by
    intro name
    unfold emissionOrder
    rw [Std.compare_eq_iff_eq.2 rfl, Std.compare_eq_iff_eq.2 rfl]
    rfl
  eq_of_compare := by
    intro first second same
    exact Std.compare_eq_iff_eq.1 (Ordering.then_eq_eq.1 same).2

end Naming

/-! ## One property -/

/-- A property says what the schema of a wire name says. -/
structure Describes (definition : Definition) (key : String) (schema : PropertySchema)
    (property : Property) : Prop where
  wireName : property.wireName = key
  name : property.name = Naming.sanitize key
  isOptional : property.isOptional = true ↔ key ∉ definition.required.keys
  mergeKey : property.mergeKey = schema.patchMergeKey
  replaced : schema.patchStrategy = none → property.mergeStrategy = .replace
  merged : ∀ text, schema.patchStrategy = some text →
    property.mergeStrategy = (MergeStrategy.parse text).1
  described : ∀ text, schema.description = some text → property.summary = text
  undescribed : schema.description = none → property.summary = noSummary

namespace Properties

variable {definition other : Definition} {claimed : Table String String}
  {model result : Model} {registry before after : Registry}
  {entries : List (String × PropertySchema)}

lemma describes_property (definition : Definition) (wireName : String) (schema : PropertySchema)
    (type : Handle) :
    Describes definition wireName schema (property definition wireName schema type) where
  wireName := rfl
  name := rfl
  isOptional := by
    show (!definition.required.contains wireName) = true ↔ _
    rw [← Table.contains_iff_mem_keys, Bool.not_eq_true', Bool.not_eq_true]
  mergeKey := rfl
  replaced := by
    intro absent
    show ((schema.patchStrategy.map MergeStrategy.parse).map (·.1)).getD .replace = _
    rw [absent]
    rfl
  merged := by
    intro text present
    show ((schema.patchStrategy.map MergeStrategy.parse).map (·.1)).getD .replace = _
    rw [present]
    rfl
  described := by
    intro text present
    show schema.description.getD noSummary = text
    rw [present]
    rfl
  undescribed := by
    intro absent
    show schema.description.getD noSummary = noSummary
    rw [absent]
    rfl

/-! ## Adding the properties of a list -/

/-- A property is listed under the wire name of its schema. -/
def Listed (definition : Definition) (entry : String × PropertySchema)
    (listed : String × Property) : Prop :=
  listed.1 = entry.1 ∧ Describes definition entry.1 entry.2 listed.2

/-- A property is added if its identifier is free and its schema has a type. -/
lemma add_cons_eq_ok {wireName : String} {schema : PropertySchema}
    {rest : List (String × PropertySchema)}
    (h : add definition claimed model before ((wireName, schema) :: rest)
      = (.ok (), result, after)) :
    claimed.lookup? (Naming.sanitize wireName) = none ∧ ∃ type between,
      before.resolve ⟨model.definitionName, wireName⟩ schema = (.ok type, between) ∧
      add definition (claimed.insert (Naming.sanitize wireName) wireName)
        { model with properties :=
            model.properties ++ [(wireName, property definition wireName schema type)] }
        between rest = (.ok (), result, after) := by
  cases free : claimed.lookup? (Naming.sanitize wireName) with
  | some first =>
    rw [add] at h
    simp only [free] at h
    cases h
  | none =>
    cases resolved : before.resolve ⟨model.definitionName, wireName⟩ schema with
    | mk outcome between =>
      cases outcome with
      | error error =>
        rw [add] at h
        simp only [free, resolved] at h
        cases h
      | ok type =>
        rw [add_cons_of_ok free resolved] at h
        exact ⟨rfl, type, between, rfl, h⟩

/-- What is added are the properties of all entries, each under an identifier of its own. -/
lemma exists_added (h : add definition claimed model before entries = (.ok (), result, after)) :
    ∃ properties, result = { model with properties := model.properties ++ properties } ∧
      List.Forall₂ (Listed definition) entries properties ∧
      (properties.map fun listed => listed.2.name).Nodup ∧
      ∀ listed ∈ properties, claimed.lookup? listed.2.name = none := by
  -- each property starts with the identifiers, model and registry that the ones before it leave
  induction entries generalizing claimed model before with
  | nil =>
    rw [add] at h
    cases h
    refine ⟨[], ?_, .nil, List.nodup_nil, fun listed mem => by cases mem⟩
    rw [List.append_nil]
  | cons entry rest ih =>
    obtain ⟨wireName, schema⟩ := entry
    obtain ⟨free, type, between, -, later⟩ := add_cons_eq_ok h
    obtain ⟨properties, hresult, listed, distinct, unclaimed⟩ := ih later
    have apart : ∀ listed ∈ properties, listed.2.name ≠ Naming.sanitize wireName ∧
        claimed.lookup? listed.2.name = none := by
      intro listed mem
      have unclaimedToo := unclaimed listed mem
      by_cases same : listed.2.name = Naming.sanitize wireName
      · rw [same, Table.lookup?_insert_self] at unclaimedToo
        cases unclaimedToo
      · rw [Table.lookup?_insert_of_ne _ same] at unclaimedToo
        exact ⟨same, unclaimedToo⟩
    refine ⟨(wireName, property definition wireName schema type) :: properties, ?_, ?_, ?_, ?_⟩
    · rw [hresult, List.append_assoc]
      rfl
    · exact .cons ⟨rfl, describes_property definition wireName schema type⟩ listed
    · rw [List.map_cons, List.nodup_cons]
      refine ⟨?_, distinct⟩
      intro mem
      obtain ⟨listed, among, same⟩ := List.mem_map.1 mem
      exact (apart listed among).1 same
    · intro listed mem
      rcases List.mem_cons.1 mem with rfl | mem
      · exact free
      · exact (apart listed mem).2

/-- Two definitions that require the same of some wire names add the same properties for them. -/
lemma add_congr (agree : ∀ entry ∈ entries,
      other.required.contains entry.1 = definition.required.contains entry.1) :
    add other claimed model registry entries = add definition claimed model registry entries := by
  induction entries generalizing claimed model registry with
  | nil => rfl
  | cons entry rest ih =>
    obtain ⟨wireName, schema⟩ := entry
    have agreeHere := agree (wireName, schema) List.mem_cons_self
    have same : property other wireName schema = property definition wireName schema := by
      unfold property
      rw [agreeHere]
    have agreeLater : ∀ entry ∈ rest,
        other.required.contains entry.1 = definition.required.contains entry.1 :=
      fun entry mem => agree entry (List.mem_cons_of_mem _ mem)
    rw [add, add, same]
    simp only [ih agreeLater]

/-! ## Properties in emission order -/

/-- The order is strict, since no wire name is listed twice. -/
lemma inEmissionOrder_pairwise (definition : Definition) :
    (inEmissionOrder definition).Pairwise fun a b => Naming.emissionOrder a.1 b.1 = .lt :=
  pairwise_lt_mergeSort Prod.fst definition.properties.keys_nodup

/-- There is one strict emission order only. -/
lemma inEmissionOrder_eq (perm : entries.Perm definition.properties.entries)
    (sorted : entries.Pairwise fun a b => Naming.emissionOrder a.1 b.1 = .lt) :
    inEmissionOrder definition = entries := by
  have same := (inEmissionOrder_perm definition).trans perm.symm
  refine same.eq_of_pairwise (fun a b _ _ lt gt => ?_) (inEmissionOrder_pairwise definition) sorted
  rw [Std.OrientedCmp.gt_of_lt gt] at lt
  cases lt

lemma map_fst_of_listed {properties : List (String × Property)}
    (listed : List.Forall₂ (Listed definition) entries properties) :
    properties.map Prod.fst = entries.map Prod.fst := by
  induction listed with
  | nil => rfl
  | cons head _ ih => rw [List.map_cons, List.map_cons, head.1, ih]

end Properties

/-! ## The property list -/

/-- A list of properties says exactly what a definition says about its wire names. -/
structure ListsExactly (definition : Definition) (properties : List (String × Property)) :
    Prop where
  keys : ∀ wireName,
    wireName ∈ properties.map Prod.fst ↔ wireName ∈ definition.properties.keys
  ordered : (properties.map Prod.fst).Pairwise Naming.EmittedBefore
  described : ∀ wireName property, (wireName, property) ∈ properties →
    ∃ schema, definition.properties.lookup? wireName = some schema ∧
      Describes definition wireName schema property
  names : (properties.map fun listed => listed.2.name).Nodup

namespace Properties

variable {definition : Definition} {model result : Model} {registry after : Registry}

lemma listsExactly_of_listed {properties : List (String × Property)}
    (listed : List.Forall₂ (Listed definition) (inEmissionOrder definition) properties)
    (names : (properties.map fun listed => listed.2.name).Nodup) :
    ListsExactly definition properties where
  keys := by
    intro wireName
    rw [map_fst_of_listed listed, ((inEmissionOrder_perm definition).map Prod.fst).mem_iff]
    rfl
  ordered := by
    rw [map_fst_of_listed listed, List.pairwise_map]
    exact (inEmissionOrder_pairwise definition).imp fun lt =>
      Naming.emissionOrder_eq_lt_iff.1 lt
  described := by
    intro wireName property mem
    obtain ⟨⟨key, schema⟩, entry, same, describes⟩ := Compile.exists_of_forall₂ listed mem
    cases same
    exact ⟨schema, mem_inEmissionOrder_iff.1 entry, describes⟩
  names := names

end Properties

variable {model result : Model} {definition : Definition} {registry after : Registry}

/-- Neither the properties that a model has before nor what is required beside the wire names of
its definition make a difference. -/
lemma compileProperties_congr (earlier : List (String × Property)) {required : NameSet}
    (agree : ∀ wireName ∈ definition.properties.keys,
      required.contains wireName = definition.required.contains wireName) :
    compileProperties { model with properties := earlier } { definition with required } registry
      = compileProperties model definition registry := by
  have agreeAll : ∀ entry ∈ Properties.inEmissionOrder definition,
      required.contains entry.1 = definition.required.contains entry.1 := by
    intro entry mem
    apply agree
    rw [(Properties.inEmissionOrder_perm definition).mem_iff] at mem
    exact List.mem_map_of_mem mem
  have sameOrder : Properties.inEmissionOrder { definition with required }
      = Properties.inEmissionOrder definition := rfl
  unfold compileProperties
  rw [sameOrder]
  apply Properties.add_congr
  exact agreeAll

/-- **Property lists.** If the properties of a model are compiled, the model lists exactly the wire
names of the definition, strictly in emission order, each with a property that says what its schema
says under an identifier of its own. Nothing else in the model changes, and neither the properties
it had before nor required names without a property matter. -/
theorem compileProperties_exact
    (h : compileProperties model definition registry = (.ok (), result, after)) :
    ListsExactly definition result.properties ∧
    result = { model with properties := result.properties } ∧
    ∀ (earlier : List (String × Property)) (required : NameSet),
      (∀ wireName ∈ definition.properties.keys,
        required.contains wireName = definition.required.contains wireName) →
      compileProperties { model with properties := earlier } { definition with required } registry
        = (.ok (), result, after) := by
  obtain ⟨properties, hresult, listed, names, -⟩ := Properties.exists_added h
  have new : result.properties = properties := by rw [hresult, List.nil_append]
  rw [new]
  refine ⟨Properties.listsExactly_of_listed listed names, hresult, ?_⟩
  intro earlier required agree
  rw [compileProperties_congr earlier agree]
  exact h

/-- A list of texts that are merged by name. -/
def itemsSchema : PropertySchema where
  typeName := some "array"
  items := some { typeName := some "string" }
  description := some "What stands on the shelf"
  patchStrategy := some "merge, retainKeys"
  patchMergeKey := some "name"

/-- A definition whose emission order is not the order of its wire names, and that requires a name
it has no property for. -/
def shelfDefinition : Definition where
  properties := .ofList [
    ("spec.items", itemsSchema), ("spec", { typeName := some "integer" }),
    ("kind", { typeName := some "string" })]
  required := .ofNames ["kind", "status"]

/-- A model that has a property already. -/
def shelfModel : Model where
  definitionName := "a.v1.Shelf"
  kind := "Shelf"
  group := ""
  apiVersion := "v1"
  versionQualifier := "V1"
  generatedName := "ShelfV1"
  summary := noSummary
  properties := [("old", Properties.property {} "old" {} ⟨0⟩)]

lemma inEmissionOrder_shelfDefinition : Properties.inEmissionOrder shelfDefinition = [
    ("spec.items", itemsSchema), ("kind", { typeName := some "string" }),
    ("spec", { typeName := some "integer" })] := by
  have listed : shelfDefinition.properties.entries = [
      ("kind", { typeName := some "string" }), ("spec", { typeName := some "integer" }),
      ("spec.items", itemsSchema)] := rfl
  apply Properties.inEmissionOrder_eq
  · rw [listed]
    exact (List.perm_append_singleton ("spec.items", itemsSchema) _).symm
  · decide +kernel

theorem compileProperties_exact_of_shelf : ∃ result after,
    compileProperties shelfModel shelfDefinition Registry.initial = (.ok (), result, after) ∧
    (result.properties.map fun listed => (listed.1, listed.2.isOptional, listed.2.mergeStrategy))
      = [("spec.items", true, .mergeRetainKeys), ("kind", false, .replace),
        ("spec", true, .replace)] ∧
    ListsExactly shelfDefinition result.properties ∧
    compileProperties { shelfModel with properties := [] }
      { shelfDefinition with required := .ofNames ["kind"] } Registry.initial
        = (.ok (), result, after) := by
  have checked : (compileProperties shelfModel shelfDefinition Registry.initial).1.isOk = true ∧
      ((compileProperties shelfModel shelfDefinition Registry.initial).2.1.properties.map
        fun listed => (listed.1, listed.2.isOptional, listed.2.mergeStrategy))
      = [("spec.items", true, .mergeRetainKeys), ("kind", false, .replace),
        ("spec", true, .replace)] := by
    unfold compileProperties
    rw [inEmissionOrder_shelfDefinition]
    decide +kernel
  cases h : compileProperties shelfModel shelfDefinition Registry.initial with
  | mk outcome rest =>
    obtain ⟨result, after⟩ := rest
    rw [h] at checked
    cases outcome with
    | error error => cases checked.1
    | ok _ =>
      obtain ⟨listsExactly, -, indifferent⟩ := compileProperties_exact h
      refine ⟨result, after, rfl, checked.2, listsExactly, ?_⟩
      exact indifferent [] (.ofNames ["kind"]) (by decide +kernel)

end KubeSchema

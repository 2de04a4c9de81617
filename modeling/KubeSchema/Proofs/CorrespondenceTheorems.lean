import KubeSchema.Proofs.GraphTheorems

/-!
# Graphs that correspond

The models of two graphs correspond if they stand for definitions of one name (`SameDefinition`);
their positions may differ. If every name of one graph leads to the corresponding model in the other
(`Carries`), a schema has the same type in both, up to the positions in it (`TypeTree.Matches`), and
so a definition has the same roles (`Definition.roles_matches`).
-/

namespace KubeSchema

/-! ## Models of one definition -/

namespace Graph

/-- Two models, one of each graph, stand for definitions of one name. -/
def SameDefinition (left right : Graph) (id other : ModelId) : Prop :=
  ∃ name, left.definitionName? id = some name ∧ right.definitionName? other = some name

/-- Each name of the first graph leads to the corresponding model in the second. -/
def Carries (left right : Graph) : Prop :=
  ∀ name id, left.idOf? name = some id →
    ∃ other, right.idOf? name = some other ∧ SameDefinition left right id other

variable {left right : Graph}

/-- No two models correspond to the same one. -/
lemma SameDefinition.eq_iff (wellLeft : left.WellNamed) (wellRight : right.WellNamed)
    {id other mark image : ModelId} (first : SameDefinition left right id other)
    (second : SameDefinition left right mark image) : id = mark ↔ other = image := by
  obtain ⟨name, hid, hother⟩ := first
  obtain ⟨title, hmark, himage⟩ := second
  constructor
  · rintro rfl
    rw [hid] at hmark
    cases hmark
    have found := wellRight.idOf?_of_definitionName? hother
    rw [wellRight.idOf?_of_definitionName? himage] at found
    exact (Option.some.inj found).symm
  · rintro rfl
    rw [hother] at himage
    cases himage
    have found := wellLeft.idOf?_of_definitionName? hid
    rw [wellLeft.idOf?_of_definitionName? hmark] at found
    exact (Option.some.inj found).symm

end Graph

/-! ## Types -/

namespace TypeTree

/-- Two types are the same up to models that correspond, and nothing in them is pending. -/
inductive Matches (same : ModelId → ModelId → Prop) : TypeTree → TypeTree → Prop
  | intrinsic (type : Intrinsic) : Matches same (.intrinsic type) (.intrinsic type)
  | array {element other : TypeTree} (inner : Matches same element other) :
    Matches same (.array element) (.array other)
  | map {element other : TypeTree} (inner : Matches same element other) :
    Matches same (.map element) (.map other)
  | model {id other : ModelId} (h : same id other) : Matches same (.model id) (.model other)

variable {same : ModelId → ModelId → Prop}

lemma Matches.wrap {tree other : TypeTree} (inner : tree.Matches same other)
    (wrappers : List Wrapper) :
    (wrappers.foldr Wrapper.tree tree).Matches same (wrappers.foldr Wrapper.tree other) := by
  induction wrappers with
  | nil => exact inner
  | cons wrapper rest ih =>
    cases wrapper with
    | array => exact .array ih
    | map => exact .map ih

end TypeTree

section Types

variable {left right : Graph} {same : ModelId → ModelId → Prop} {tree : TypeTree}

/-- Where the names of one side have types that match on the other side, schemas have too. -/
lemma PropertySchema.denote_matches {first second : String → Option TypeTree}
    (names : ∀ name tree, first name = some tree →
      ∃ other, second name = some other ∧ tree.Matches same other)
    {schema : PropertySchema} (h : schema.denote first = some tree) :
    ∃ other, schema.denote second = some other ∧ tree.Matches same other := by
  rw [denote_eq] at h
  obtain ⟨inner, hinner, rfl⟩ := Option.map_eq_some_iff.1 h
  have stops : ∃ other, schema.stop.denote second = some other ∧ inner.Matches same other := by
    cases hstop : schema.stop with
    | reference name =>
      rw [hstop] at hinner
      exact names name inner hinner
    | intrinsic type =>
      rw [hstop] at hinner
      cases hinner
      exact ⟨_, rfl, .intrinsic type⟩
    | arrayWithoutItems =>
      rw [hstop] at hinner
      cases hinner
    | unsupportedType typeName =>
      rw [hstop] at hinner
      cases hinner
  obtain ⟨other, hother, related⟩ := stops
  rw [denote_eq, hother]
  exact ⟨_, rfl, related.wrap schema.wrappers⟩

lemma Graph.Carries.typeOf? (carries : left.Carries right) {name : String}
    (h : left.typeOf? name = some tree) :
    ∃ other, right.typeOf? name = some other ∧ tree.Matches (SameDefinition left right) other := by
  rw [Graph.typeOf?] at h ⊢
  cases hknown : Registry.wellKnown.lookup name with
  | some type =>
    rw [hknown] at h
    cases h
    exact ⟨_, rfl, .intrinsic type⟩
  | none =>
    rw [hknown] at h
    obtain ⟨id, hid, rfl⟩ := Option.map_eq_some_iff.1 h
    obtain ⟨other, hother, sameName⟩ := carries name id hid
    exact ⟨.model other, by rw [hother]; rfl, .model sameName⟩

/-- A schema with a type in the first graph has a matching one in the second. -/
lemma Graph.Carries.denote (carries : left.Carries right) {schema : PropertySchema}
    (h : schema.denote left.typeOf? = some tree) :
    ∃ other, schema.denote right.typeOf? = some other ∧
      tree.Matches (SameDefinition left right) other :=
  PropertySchema.denote_matches (fun _ _ => carries.typeOf?) h

end Types

/-! ## Roles -/

/-- Two models have the same roles, up to the position of the model of their list items. -/
def Classification.Matches (same : ModelId → ModelId → Prop) (first second : Classification) :
    Prop :=
  second = { first with listItemType := second.listItemType } ∧
    Option.Rel same first.listItemType second.listItemType

namespace Definition

variable {left right : Graph} {same : ModelId → ModelId → Prop} {definition : Definition}
  {first second : MetadataModels}

section Types

variable {tree? other? : Option TypeTree}

lemma isIntrinsic_of_matches (h : Option.Rel (TypeTree.Matches same) tree? other?)
    (type : Intrinsic) :
    (tree? == some (.intrinsic type)) = (other? == some (.intrinsic type)) := by
  cases h with
  | none => rfl
  | some related => cases related <;> rfl

/-- A type is a given model exactly when its match is the corresponding one. -/
lemma isModel_of_matches (h : Option.Rel (TypeTree.Matches same) tree? other?)
    {mark image : ModelId} (faithful : ∀ id other, same id other → (id = mark ↔ other = image)) :
    (tree? == some (.model mark)) = (other? == some (.model image)) := by
  cases h with
  | none => rfl
  | some related =>
    cases related with
    | model h => simp [faithful _ _ h]
    | _ => rfl

end Types

/-- A definition whose properties have matching types in two graphs has the same roles in both, if
the metadata models correspond as well. -/
theorem roles_matches
    (types : ∀ wireName, Option.Rel (TypeTree.Matches same) (definition.typeOf? left wireName)
      (definition.typeOf? right wireName))
    (objectMeta : Option.Rel same first.objectMeta second.objectMeta)
    (listMeta : Option.Rel same first.listMeta second.listMeta)
    (faithful : ∀ id other mark image, same id other → same mark image →
      (id = mark ↔ other = image)) :
    (definition.roles left first).Matches same (definition.roles right second) := by
  have isObject : definition.isObject left = definition.isObject right := by
    rw [Definition.isObject, Definition.isObject, isIntrinsic_of_matches (types "kind"),
      isIntrinsic_of_matches (types "apiVersion")]
  have hasMetadata : ∀ {mark? image?}, Option.Rel same mark? image? →
      definition.hasMetadata left mark? = definition.hasMetadata right image? := by
    intro mark? image? marks
    cases marks with
    | none => rfl
    | some hmark =>
      have only := fun id other hid => faithful id other _ _ hid hmark
      exact isModel_of_matches (types "metadata") only
  have items : Option.Rel (TypeTree.Matches same) (definition.listItems? left)
      (definition.listItems? right) := by
    have found := types "items"
    rw [listItems?, listItems?]
    generalize definition.typeOf? left "items" = tree?, definition.typeOf? right "items" = other?
      at found
    cases found with
    | none => exact .none
    | some related =>
      cases related with
      | array inner => exact .some inner
      | _ => exact .none
  have itemModel : Option.Rel same (definition.listItemModel? left)
      (definition.listItemModel? right) := by
    rw [listItemModel?, listItemModel?]
    generalize definition.listItems? left = tree?, definition.listItems? right = other? at items
    cases items with
    | none => exact .none
    | some related =>
      cases related with
      | model h => exact .some h
      | _ => exact .none
  have hasItems : (definition.listItems? left).isSome = (definition.listItems? right).isSome := by
    generalize definition.listItems? left = tree?, definition.listItems? right = other? at items
    cases items <;> rfl
  refine ⟨?_, itemModel⟩
  simp only [Definition.roles, isObject, hasMetadata objectMeta, hasMetadata listMeta, hasItems]

end Definition

end KubeSchema

import KubeSchema.Bindings
import KubeSchema.Proofs.RedirectionTheorems
import KubeSchema.Proofs.ShapeTheorems
import Mathlib.Logic.Relation

/-!
# Documents are read through their fields

Whatever a value holds within a document, its position tells what it is read as, and so which of its
members are passed over. An edit somewhere in a document is followed down to where it happens: what
an edit of one object does to that object alone (`Position.SeesEdit`) is what it does to the
document around it (`Position.alike_of_step`). Members that are no field may come, change and go;
the two keys of a merge field may stand for one another, but not side by side. The main result is
`Document.read_through_fields`.
-/

namespace KubeSchema

/-! ## Positions -/

/-- What a value within a document is read as. -/
inductive Position
  | document | definitions | definition | properties | property | gvks | gvk | operation
  /-- Read as a whole: no part of the value is passed over. -/
  | whole
  deriving DecidableEq, Repr

/-- What the value of a field is read as. -/
def Document.Field.position : Document.Field → Position
  | definitions => .definitions
  | paths => .whole

/-- What the value of a field is read as. -/
def Definition.Field.position : Definition.Field → Position
  | properties => .properties
  | gvks => .gvks
  | description | required | reference => .whole

/-- What the value of a field is read as. -/
def PropertySchema.Field.position : PropertySchema.Field → Position
  | items | additional => .property
  | typeName | format | reference | description | patchStrategy | patchMergeKey | intOrString =>
    .whole

/-- What the value of a field is read as. -/
def Gvk.Field.position : Gvk.Field → Position
  | group | version | kind => .whole

/-- What the value of a field is read as. -/
def Operation.Field.position : Operation.Field → Position
  | gvk => .gvk
  | operationId | action => .whole

namespace Position

/-- What is made of a value. -/
def Outcome : Position → Type
  | document => Document
  | definitions => Table String Definition
  | definition => Definition
  | properties => Table String PropertySchema
  | property => PropertySchema
  | gvks => List Gvk
  | gvk => Gvk
  | operation => Operation
  | whole => Json

/-- Shapes a value in its position. -/
def shape : (position : Position) → Json → Shaped position.Outcome
  | document => Document.ofJson
  | definitions => Shape.map Definition.ofJson
  | definition => Definition.ofJson
  | properties => Shape.map PropertySchema.ofJson
  | property => PropertySchema.ofJson
  | gvks => Shape.sequence Gvk.ofJson
  | gvk => Gvk.ofJson
  | operation => Operation.ofJson
  | whole => .ok

/-- What the value of a member is read as; nothing if the member is passed over. -/
def member? : Position → String → Option Position
  | document, key => (Document.layout.field? key).map (·.position)
  | definitions, _ => some definition
  | definition, key => (Definition.layout.field? key).map (·.position)
  | properties, _ => some property
  | property, key => (PropertySchema.layout.field? key).map (·.position)
  | gvk, key => (Gvk.layout.field? key).map (·.position)
  | operation, key => (Operation.layout.field? key).map (·.position)
  | gvks, _ | whole, _ => some whole

/-- What an element is read as, as far as something in it may be passed over. A record may be
written as the array of its fields. -/
def element? : Position → Nat → Option Position
  | document, index => Document.layout.fields[index]?.map (·.1.position)
  | definition, index => Definition.layout.fields[index]?.map (·.1.position)
  | property, index => PropertySchema.layout.fields[index]?.map (·.1.position)
  | gvk, index => Gvk.layout.fields[index]?.map (·.1.position)
  | operation, index => Operation.layout.fields[index]?.map (·.1.position)
  | gvks, _ => some gvk
  | definitions, _ | properties, _ | whole, _ => none

end Position

/-! ## Edits -/

/-- The members of an object before and after an edit, by the position of the object. -/
abbrev Edit := Position → List (String × Json) → List (String × Json) → Prop

/-- Members that are no field are added, removed or changed: the fields stay as they are. -/
def Edit.unread : Edit := fun position before after =>
  before.filter (fun member => (position.member? member.1).isSome) =
    after.filter fun member => (position.member? member.1).isSome

/-- The two keys of each merge field. -/
def spellings : List (String × String) :=
  [("x-merge-strategy", "x-kubernetes-patch-strategy"),
    ("x-merge-key", "x-kubernetes-patch-merge-key")]

/-- The two keys of a merge field differ, and both are keys of that field. -/
lemma exists_field_of_spellings : ∀ pair ∈ spellings, pair.1 ≠ pair.2 ∧ ∃ field,
    PropertySchema.Field.ofKey? pair.1 = some field ∧
      PropertySchema.Field.ofKey? pair.2 = some field := by
  intro pair mem
  simp only [spellings, List.mem_cons, List.not_mem_nil, or_false] at mem
  obtain rfl | rfl := mem
  · exact ⟨by decide, .patchStrategy, rfl, rfl⟩
  · exact ⟨by decide, .patchMergeKey, rfl, rfl⟩

/-- A merge field of a property schema gets its other key. Objects keep their members in order of
key, so the member may go to another place. An object that has the other key already is no schema,
before and after. -/
def Edit.respelled : Edit := fun position before after =>
  position = .property ∧ ∃ front back old new value,
    ((old, new) ∈ spellings ∨ (new, old) ∈ spellings) ∧
      before = front ++ (old, value) :: back ∧ (front ++ (new, value) :: back).Perm after

namespace Position

/-- One edit of one object, somewhere within a value. -/
inductive Step (edit : Edit) : Position → Json → Json → Prop
  | here {position : Position} {before after : List (String × Json)}
    (edited : edit position before after) : Step edit position (.object before) (.object after)
  | member {position child : Position} {key : String} {value other : Json}
    (front back : List (String × Json)) (read : position.member? key = some child)
    (within : Step edit child value other) :
    Step edit position (.object (front ++ (key, value) :: back))
      (.object (front ++ (key, other) :: back))
  | element {position child : Position} {value other : Json} (front back : List Json)
    (read : position.element? front.length = some child) (within : Step edit child value other) :
    Step edit position (.array (front ++ value :: back)) (.array (front ++ other :: back))

/-- Two values lead to each other by edits, any number of them and anywhere. -/
def Edited (edit : Edit) (position : Position) : Json → Json → Prop :=
  Relation.EqvGen (Step edit position)

/-! ## From a part to the whole -/

variable {δ : Type} {view : ShapeError → δ} {value other : Json}

lemma eq_of_alike_whole (alike : Alike view whole.shape value other) : value = other :=
  Except.ok.inj alike.same

/-- The fields of a record are read in their positions. -/
def ReadsFields {ρ φ : Type} (view : ShapeError → δ) (layout : Shape.Layout ρ φ)
    (position : φ → Position) : Prop :=
  ∀ field value other, Alike view (position field).shape value other → ∀ target,
    SameUpTo view (layout.set target field value) (layout.set target field other)

lemma document_readsFields : ReadsFields view Document.layout Document.Field.position := by
  intro field value other alike target
  cases field with
  | definitions => exact alike.same.bind fun _ => .refl _
  | paths => rw [eq_of_alike_whole alike]; exact .refl _

lemma definition_readsFields : ReadsFields view Definition.layout Definition.Field.position := by
  intro field value other alike target
  cases field with
  | properties => exact alike.same.bind fun _ => .refl _
  | gvks => exact alike.same.bind fun _ => .refl _
  | _ => rw [eq_of_alike_whole alike]; exact .refl _

lemma gvk_readsFields : ReadsFields view Gvk.layout Gvk.Field.position := by
  intro field value other alike target
  cases field <;> rw [eq_of_alike_whole alike] <;> exact .refl _

lemma operation_readsFields : ReadsFields view Operation.layout Operation.Field.position := by
  intro field value other alike target
  cases field with
  | gvk => exact (Shape.alike_optional alike).bind fun _ => .refl _
  | _ => rw [eq_of_alike_whole alike]; exact .refl _

/-- An object or an array of additional properties has to be a schema, and if it is none, no reason
is given. -/
lemma withField_additional (target : PropertySchema) {found : Json}
    (structured : (∃ members, found = .object members) ∨ ∃ elements, found = .array elements)
    (nested : Shaped PropertySchema) :
    target.withField .additional found nested =
      (nested.mapError fun _ => ShapeError.noAdditionalForm).map fun schema =>
        { target with additional := some (.schema schema) } := by
  obtain ⟨members, rfl⟩ | ⟨elements, rfl⟩ := structured <;> cases nested <;> rfl

lemma property_readsFields :
    ReadsFields view PropertySchema.layout PropertySchema.Field.position := by
  intro field value other alike target
  have form := alike.form
  cases field with
  | items =>
    cases form with
    | same => exact .refl _
    | object => exact alike.same.bind fun _ => .refl _
    | array => exact alike.same.bind fun _ => .refl _
  | additional =>
    show SameUpTo view (target.withField .additional value (PropertySchema.ofJson value))
      (target.withField .additional other (PropertySchema.ofJson other))
    cases form with
    | same => exact .refl _
    | object =>
      rw [withField_additional target (.inl ⟨_, rfl⟩), withField_additional target (.inl ⟨_, rfl⟩)]
      exact (alike.same.mapError_const _ view).map _
    | array =>
      rw [withField_additional target (.inr ⟨_, rfl⟩), withField_additional target (.inr ⟨_, rfl⟩)]
      exact (alike.same.mapError_const _ view).map _
  | _ => rw [eq_of_alike_whole alike]; exact .refl _

/-! ## Edits within records -/

section Records

variable {ρ φ : Type} {layout : Shape.Layout ρ φ} {position : φ → Position} {child : Position}

lemma alike_member (reads : ReadsFields view layout position) {key : String}
    (read : (layout.field? key).map position = some child)
    (alike : Alike view child.shape value other) (start : ρ) (front back : List (String × Json)) :
    Alike view (layout.read start) (.object (front ++ (key, value) :: back))
      (.object (front ++ (key, other) :: back)) := by
  obtain ⟨field, found, rfl⟩ := Option.map_eq_some_iff.1 read
  refine ⟨.object _ _, ?_⟩
  exact Shape.Layout.takeMembers_member found (reads field value other alike) start front back

lemma alike_element (reads : ReadsFields view layout position) {front : List Json}
    (read : layout.fields[front.length]?.map (fun entry => position entry.1) = some child)
    (alike : Alike view child.shape value other) (start : ρ) (back : List Json) :
    Alike view (layout.read start) (.array (front ++ value :: back))
      (.array (front ++ other :: back)) := by
  obtain ⟨entry, listed, rfl⟩ := Option.map_eq_some_iff.1 read
  refine ⟨.array _ _, ?_⟩
  have same : ∀ candidate ∈ layout.fields[front.length]?, ∀ target,
      SameUpTo view (layout.set target candidate.1 value)
        (layout.set target candidate.1 other) := by
    intro candidate mem
    obtain rfl : entry = candidate := Option.some.inj (listed.symm.trans mem)
    exact reads entry.1 value other alike
  have length : (front ++ value :: back).length = (front ++ other :: back).length := by simp
  unfold Shape.Layout.read
  dsimp only
  rw [length]
  exact Shape.Layout.takeElements_element same _ start back

end Records

/-! ## Edits anywhere -/

/-- What an edit of one object does to the outcome of that object. -/
def SeesEdit (view : ShapeError → δ) (edit : Edit) : Prop :=
  ∀ position before after, edit position before after →
    SameUpTo view (shape position (.object before)) (shape position (.object after))

/-- A member is read in its position, so what it makes of a value is what the object makes of it. -/
lemma alike_of_member {position child : Position} {key : String}
    (read : position.member? key = some child) (alike : Alike view child.shape value other)
    (front back : List (String × Json)) :
    Alike view position.shape (.object (front ++ (key, value) :: back))
      (.object (front ++ (key, other) :: back)) := by
  cases position with
  | document => exact alike_member document_readsFields read alike _ front back
  | definition => exact alike_member definition_readsFields read alike _ front back
  | gvk => exact alike_member gvk_readsFields read alike _ front back
  | operation => exact alike_member operation_readsFields read alike _ front back
  | property =>
    obtain ⟨field, found, rfl⟩ := Option.map_eq_some_iff.1 read
    refine ⟨.object _ _, ?_⟩
    show SameUpTo view (PropertySchema.ofJson _) (PropertySchema.ofJson _)
    rw [PropertySchema.ofJson_object, PropertySchema.ofJson_object]
    exact PropertySchema.ofMembers_member found (property_readsFields field value other alike)
      front back
  | definitions =>
    obtain rfl : definition = child := Option.some.inj read
    exact Shape.alike_map alike key front back
  | properties =>
    obtain rfl : property = child := Option.some.inj read
    exact Shape.alike_map alike key front back
  | gvks | whole =>
    obtain rfl : whole = child := Option.some.inj read
    rw [eq_of_alike_whole alike]
    exact .refl _

lemma alike_of_element {position child : Position} {front : List Json}
    (read : position.element? front.length = some child)
    (alike : Alike view child.shape value other) (back : List Json) :
    Alike view position.shape (.array (front ++ value :: back))
      (.array (front ++ other :: back)) := by
  cases position with
  | document => exact alike_element document_readsFields read alike _ back
  | definition => exact alike_element definition_readsFields read alike _ back
  | gvk => exact alike_element gvk_readsFields read alike _ back
  | operation => exact alike_element operation_readsFields read alike _ back
  | property =>
    have schema := alike_element property_readsFields read alike {} back
    refine ⟨schema.form, ?_⟩
    show SameUpTo view (PropertySchema.ofJson _) (PropertySchema.ofJson _)
    rw [PropertySchema.ofJson_array, PropertySchema.ofJson_array]
    exact schema.same
  | gvks =>
    obtain rfl : gvk = child := Option.some.inj read
    exact Shape.alike_sequence alike front back
  | definitions | properties | whole => cases read

/-- One edit within a value does to its outcome what it does to that of the edited object. -/
theorem alike_of_step {edit : Edit} (sees : SeesEdit view edit) {position : Position}
    (step : Step edit position value other) : Alike view position.shape value other := by
  induction step with
  | here edited => exact ⟨.object _ _, sees _ _ _ edited⟩
  | member front back read _ ih => exact alike_of_member read ih front back
  | element front back read _ ih => exact alike_of_element read ih back

/-- Edits do to the outcome of a value what they do to those of the edited objects. -/
theorem alike_of_edited {edit : Edit} (sees : SeesEdit view edit) {position : Position}
    (edited : Edited edit position value other) : Alike view position.shape value other := by
  induction edited with
  | rel value other step => exact alike_of_step sees step
  | refl value => exact .refl value
  | symm value other _ ih => exact ih.symm
  | trans first second third _ _ ih next => exact ih.trans next

/-! ## The two kinds of edits -/

/-- Members that are no field are never looked at. -/
lemma sees_unread : SeesEdit id Edit.unread := by
  intro position before after same
  apply sameUpTo_id_iff.2
  cases position with
  | document | definition | gvk | operation =>
    simp only [Edit.unread, member?, Option.isSome_map] at same
    exact Shape.Layout.read_object_congr same _
  | property =>
    simp only [Edit.unread, member?, Option.isSome_map] at same
    exact PropertySchema.ofJson_object_congr same
  | definitions | properties | gvks | whole =>
    -- every member is read, so none was edited
    obtain rfl : before = after := by simpa [Edit.unread, member?] using same
    rfl

/-- Another key for a merge field makes no difference but for which error is met first. -/
lemma sees_respelled : SeesEdit (fun _ => ()) Edit.respelled := by
  rintro position before after ⟨rfl, front, back, old, new, value, spelled, rfl, perm⟩
  have field : PropertySchema.Field.ofKey? old = PropertySchema.Field.ofKey? new := by
    obtain mem | mem := spelled
    · obtain ⟨-, field, first, second⟩ := exists_field_of_spellings _ mem
      exact first.trans second.symm
    · obtain ⟨-, field, first, second⟩ := exists_field_of_spellings _ mem
      exact second.trans first.symm
  apply sameUpTo_const_iff.2
  show (PropertySchema.ofJson _).toOption = (PropertySchema.ofJson _).toOption
  rw [PropertySchema.ofJson_object, PropertySchema.ofJson_object,
    PropertySchema.ofMembers_respelled field, PropertySchema.ofMembers_perm perm]

end Position

/-! ## Operations -/

/-- Two operations are the same, or they are objects and lead to each other by edits of members that
are no field. -/
def Operation.SameFields (node other : Json) : Prop :=
  node = other ∨ (∃ members, node = .object members) ∧
    Position.Edited Edit.unread .operation node other

namespace Bindings

/-- An operation is bound by its fields. -/
lemma target_eq_of_sameFields {node other : Json} (same : Operation.SameFields node other) :
    target node = target other := by
  obtain rfl | ⟨⟨members, rfl⟩, edited⟩ := same
  · rfl
  · have alike := Position.alike_of_edited Position.sees_unread edited
    have form := alike.form
    cases form with
    | same => rfl
    | object =>
      have equal : Operation.ofJson _ = Operation.ofJson _ := sameUpTo_id_iff.1 alike.same
      unfold target
      dsimp only
      rw [equal]

lemma visit_eq_of_sameFields {path verb : String} {node other : Json}
    (same : Operation.SameFields node other) (bindings : Bindings) :
    visit path bindings (verb, node) = visit path bindings (verb, other) := by
  unfold visit
  dsimp only
  rw [target_eq_of_sameFields same]

/-- Operations with the same fields are bound or skipped alike, and so are whole tables of them. -/
theorem ofPaths_eq_of_sameFields {left right : Table String PathItem}
    (related : left.Related (Table.Related Operation.SameFields) right) :
    ofPaths left = ofPaths right := by
  refine foldl_eq_of_forall₂ related fun ⟨path, item⟩ ⟨_, image⟩ ⟨same, items⟩ bindings => ?_
  obtain rfl : path = _ := same
  refine foldl_eq_of_forall₂ items fun ⟨verb, node⟩ ⟨_, other⟩ ⟨same, fields⟩ bindings => ?_
  obtain rfl : verb = _ := same
  exact visit_eq_of_sameFields fields bindings

end Bindings

/-! ## Documents -/

/-- **Documents are read through their fields.** Edits of members that are no field, in objects of
any position, leave the outcome of a document as it is, be it a document or an error; in operations
they leave the bindings as they are. Another key for a merge field keeps whether there is a document
and which one it is; both keys side by side are refused. -/
theorem Document.read_through_fields :
    (∀ value other, Position.Edited Edit.unread .document value other →
      Document.ofJson value = Document.ofJson other) ∧
    (∀ left right : Table String PathItem,
      left.Related (Table.Related Operation.SameFields) right →
        Bindings.ofPaths left = Bindings.ofPaths right) ∧
    (∀ value other, Position.Edited Edit.respelled .document value other →
      (Document.ofJson value).toOption = (Document.ofJson other).toOption) ∧
    ∀ members, ∀ pair ∈ spellings, pair.1 ∈ members.map Prod.fst → pair.2 ∈ members.map Prod.fst →
      ∃ error, PropertySchema.ofJson (.object members) = .error error := by
  refine ⟨fun value other edited => ?_, fun left right => Bindings.ofPaths_eq_of_sameFields,
    fun value other edited => ?_, fun members pair spelled first second => ?_⟩
  · exact sameUpTo_id_iff.1 (Position.alike_of_edited Position.sees_unread edited).same
  · exact sameUpTo_const_iff.1 (Position.alike_of_edited Position.sees_respelled edited).same
  · obtain ⟨apart, field, found, repeated⟩ := exists_field_of_spellings pair spelled
    obtain ⟨member, mem, key⟩ := List.mem_map.1 first
    obtain ⟨another, again, image⟩ := List.mem_map.1 second
    rw [← key] at apart found
    rw [← image] at apart repeated
    rw [PropertySchema.ofJson_object]
    exact PropertySchema.exists_error_of_repeated mem again apart found repeated

/-- A document with one property, the schema of whose items has some members. -/
def partsDocument (members : List (String × Json)) : Json :=
  .object [("definitions", .object [("a.Leaf", .object [("properties", .object [
    ("parts", .object [("items", .object members)])])])])]

/-- Items that are merged by their names. -/
def mergedItems : List (String × Json) :=
  [("x-kubernetes-patch-strategy", .string "merge"), ("x-merge-key", .string "name")]

/-- The same items with a title, which is no field. -/
def titledItems : List (String × Json) :=
  ("title", .string "Parts") :: mergedItems

/-- The same items with the other merge key, which comes first in order of key. -/
def respelledItems : List (String × Json) :=
  [("x-kubernetes-patch-merge-key", .string "name"),
    ("x-kubernetes-patch-strategy", .string "merge")]

/-- An operation with one more member. -/
def taggedOperation (members : List (String × Json)) : Json :=
  .object (members ++ [("x-kubernetes-action", .string "list")])

/-- One path with a single operation. -/
def singlePath (operation : Json) : Table String PathItem :=
  Table.empty.insert "/leaves" (Table.empty.insert "get" operation)

lemma edited_partsDocument {edit : Edit} {before after : List (String × Json)}
    (edited : edit .property before after) :
    Position.Edited edit .document (partsDocument before) (partsDocument after) :=
  -- down through the definitions, the definition, its properties and the property to the items
  .rel _ _ (.member [] [] rfl (.member [] [] rfl (.member [] [] rfl (.member [] [] rfl
    (.member [] [] rfl (.here edited))))))

theorem Document.read_through_fields_of_parts :
    (Position.Edited Edit.unread .document (partsDocument mergedItems) (partsDocument titledItems) ∧
      Document.ofJson (partsDocument mergedItems) = Document.ofJson (partsDocument titledItems)) ∧
    ((singlePath (taggedOperation [])).Related (Table.Related Operation.SameFields)
        (singlePath (taggedOperation [("summary", .null)])) ∧
      Bindings.ofPaths (singlePath (taggedOperation [])) =
        Bindings.ofPaths (singlePath (taggedOperation [("summary", .null)]))) ∧
    (Position.Edited Edit.respelled .document (partsDocument mergedItems)
        (partsDocument respelledItems) ∧
      (Document.ofJson (partsDocument mergedItems)).toOption =
        (Document.ofJson (partsDocument respelledItems)).toOption) ∧
    ∃ error, PropertySchema.ofJson (.object (mergedItems ++ respelledItems)) = .error error := by
  obtain ⟨unread, operations, respelled, both⟩ := Document.read_through_fields
  have titled : Position.Edited Edit.unread .document (partsDocument mergedItems)
      (partsDocument titledItems) := edited_partsDocument rfl
  have renamed : Position.Edited Edit.respelled .document (partsDocument mergedItems)
      (partsDocument respelledItems) :=
    edited_partsDocument ⟨rfl, [("x-kubernetes-patch-strategy", .string "merge")], [],
      "x-merge-key", "x-kubernetes-patch-merge-key", .string "name", .inl (by decide), rfl,
      .swap _ _ _⟩
  have related : (singlePath (taggedOperation [])).Related (Table.Related Operation.SameFields)
      (singlePath (taggedOperation [("summary", .null)])) := by
    have same : Operation.SameFields (taggedOperation []) (taggedOperation [("summary", .null)]) :=
      .inr ⟨⟨_, rfl⟩, .rel _ _ (.here rfl)⟩
    exact .cons ⟨rfl, .cons ⟨rfl, same⟩ .nil⟩ .nil
  exact ⟨⟨titled, unread _ _ titled⟩, ⟨related, operations _ _ related⟩,
    ⟨renamed, respelled _ _ renamed⟩,
    both _ ("x-merge-key", "x-kubernetes-patch-merge-key") (by decide) (by decide) (by decide)⟩

end KubeSchema

import KubeSchema.Document.Basic
import KubeSchema.Text.Quoted

/-!
# Shaping generic values

A generic value becomes a document from the top down, and the first thing that does not fit is
reported. A record is written as an object, whose members are visited in order and of which unknown
ones are passed over unseen, or as an array of its fields in their order, of which trailing ones may be
missing. The schema of additional properties reports no cause: whatever fails inside it, none of its
forms fits.
-/

namespace KubeSchema

/-- The records that values are shaped into, under the names that messages use. -/
inductive RecordKind
  | document | definition | property | gvk | operation
  deriving DecidableEq, Repr

/-- What was wanted in place of a value. -/
inductive Expectation
  | text | boolean | map | sequence
  | record (kind : RecordKind)
  deriving DecidableEq, Repr

/-- Why a value does not fit. -/
inductive ShapeError
  /-- A value of another kind was wanted. -/
  | invalidType (found : Json) (expected : Expectation)
  /-- A record was written as an array with more elements than it has fields. -/
  | invalidLength (length : Nat)
  /-- A field was given twice, under two names. -/
  | duplicateField (name : String)
  /-- The value is neither a flag nor a schema. -/
  | noAdditionalForm
  deriving BEq, Repr

namespace RecordKind

/-- The name of a record in messages. -/
def name : RecordKind → String
  | document => "SchemaDocument"
  | definition => "DefinitionNode"
  | property => "PropertyNode"
  | gvk => "Gvk"
  | operation => "OperationNode"

end RecordKind

namespace Expectation

/-- How a message names what was wanted. -/
def phrase : Expectation → String
  | text => "a string"
  | boolean => "a boolean"
  | map => "a map"
  | sequence => "a sequence"
  | record kind => "struct " ++ kind.name

end Expectation

namespace ShapeError

/-- How a message names what was found. -/
def foundPhrase : Json → String
  | .null => "null"
  | .bool value => "boolean `" ++ (if value then "true" else "false") ++ "`"
  | .integer value => "integer `" ++ toString value ++ "`"
  | .float value => "floating point `" ++ Json.floatLayout.write value ++ "`"
  | .string value => "string " ++ Text.quoted value
  | .array _ => "sequence"
  | .object _ => "map"

/-- The text of the error. -/
def message : ShapeError → String
  | invalidType found expected =>
    "invalid type: " ++ foundPhrase found ++ ", expected " ++ expected.phrase
  | invalidLength length =>
    "invalid length " ++ toString length ++ ", expected fewer elements in array"
  | duplicateField name => "duplicate field `" ++ name ++ "`"
  | noAdditionalForm => "data did not match any variant of untagged enum AdditionalProperties"

end ShapeError

/-- The outcome of shaping a value. -/
abbrev Shaped (α : Type) := Except ShapeError α

namespace Shape

/-- A text. -/
def text : Json → Shaped String
  | .string value => .ok value
  | found => .error (.invalidType found .text)

/-- A flag. -/
def boolean : Json → Shaped Bool
  | .bool value => .ok value
  | found => .error (.invalidType found .boolean)

/-- A value that may also be written as null. -/
def optional {α : Type} (shape : Json → Shaped α) : Json → Shaped (Option α)
  | .null => .ok none
  | value => (shape value).map some

/-- A list of values. -/
def sequence {α : Type} (shape : Json → Shaped α) : Json → Shaped (List α)
  | .array elements => elements.mapM shape
  | found => .error (.invalidType found .sequence)

/-- A table of values by name. -/
def map {α : Type} (shape : Json → Shaped α) : Json → Shaped (Table String α)
  | .object members => do
    return Table.ofList (← members.mapM fun (key, value) => do return (key, ← shape value))
  | found => .error (.invalidType found .map)

/-- The fields of a record: the keys they are known by, their order when the record is written as an
array, and how a field's value goes into the record. -/
structure Layout (ρ φ : Type) where
  kind : RecordKind
  /-- The fields in order, each with the key that messages use. -/
  fields : List (φ × String)
  field? : String → Option φ
  set : ρ → φ → Json → Shaped ρ

variable {ρ φ : Type}

/-- Takes the members of an object into a record. -/
def Layout.takeMembers (layout : Layout ρ φ) (target : ρ) : List (String × Json) → Shaped ρ
  | [] => .ok target
  | (key, value) :: rest =>
    match layout.field? key with
    | none => layout.takeMembers target rest
    | some field => do layout.takeMembers (← layout.set target field value) rest

/-- Takes the elements of an array of some length into a record, field by field. -/
def Layout.takeElements (layout : Layout ρ φ) (length : Nat) (target : ρ) :
    List (φ × String) → List Json → Shaped ρ
  | _, [] => .ok target
  | [], _ :: _ => .error (.invalidLength length)
  | (field, _) :: fields, value :: rest => do
    layout.takeElements length (← layout.set target field value) fields rest

/-- Shapes a record, starting from one without fields. -/
def Layout.read (layout : Layout ρ φ) (start : ρ) : Json → Shaped ρ
  | .object members => layout.takeMembers start members
  | .array elements => layout.takeElements elements.length start layout.fields elements
  | found => .error (.invalidType found (.record layout.kind))

end Shape

namespace Gvk

/-- The fields of a triple. -/
inductive Field
  | group | version | kind
  deriving DecidableEq, Repr

/-- How a triple is written. -/
def layout : Shape.Layout Gvk Field where
  kind := .gvk
  fields := [(.group, "group"), (.version, "version"), (.kind, "kind")]
  field?
    | "group" => some .group
    | "version" => some .version
    | "kind" => some .kind
    | _ => none
  set gvk field value := do
    let text ← Shape.text value
    match field with
    | .group => return { gvk with group := text }
    | .version => return { gvk with version := text }
    | .kind => return { gvk with kind := text }

/-- Shapes a triple; missing parts are empty. -/
def ofJson : Json → Shaped Gvk :=
  layout.read ⟨"", "", ""⟩

end Gvk

namespace PropertySchema

/-- The fields of a property schema. -/
inductive Field
  | typeName | format | items | additional | reference | description | patchStrategy
  | patchMergeKey | intOrString
  deriving DecidableEq, Repr

namespace Field

/-- The fields in the order in which an array gives them. -/
def all : List Field :=
  [typeName, format, items, additional, reference, description, patchStrategy, patchMergeKey,
    intOrString]

/-- The key of a field. -/
def key : Field → String
  | typeName => "type"
  | format => "format"
  | items => "items"
  | additional => "additionalProperties"
  | reference => "$ref"
  | description => "description"
  | patchStrategy => "x-kubernetes-patch-strategy"
  | patchMergeKey => "x-kubernetes-patch-merge-key"
  | intOrString => "x-kubernetes-int-or-string"

/-- The field of a key. The merge fields have a second key each. -/
def ofKey? : String → Option Field
  | "type" => some typeName
  | "format" => some format
  | "items" => some items
  | "additionalProperties" => some additional
  | "$ref" => some reference
  | "description" => some description
  | "x-kubernetes-patch-strategy" | "x-merge-strategy" => some patchStrategy
  | "x-kubernetes-patch-merge-key" | "x-merge-key" => some patchMergeKey
  | "x-kubernetes-int-or-string" => some intOrString
  | _ => none

end Field

/-- Puts the value of a field into a schema; `nested` is the value shaped as a schema itself. -/
def withField (node : PropertySchema) (field : Field) (value : Json)
    (nested : Shaped PropertySchema) : Shaped PropertySchema :=
  match field with
  | .typeName => do return { node with typeName := ← Shape.optional Shape.text value }
  | .format => do return { node with format := ← Shape.optional Shape.text value }
  | .items =>
    match value with
    | .null => .ok { node with items := none }
    | _ => do return { node with items := some (← nested) }
  | .additional =>
    match value, nested with
    | .null, _ => .ok { node with additional := none }
    | .bool flag, _ => .ok { node with additional := some (.allowed flag) }
    | _, .ok schema => .ok { node with additional := some (.schema schema) }
    | _, .error _ => .error .noAdditionalForm
  | .reference => do return { node with reference := ← Shape.optional Shape.text value }
  | .description => do return { node with description := ← Shape.optional Shape.text value }
  | .patchStrategy => do return { node with patchStrategy := ← Shape.optional Shape.text value }
  | .patchMergeKey => do return { node with patchMergeKey := ← Shape.optional Shape.text value }
  | .intOrString => do return { node with intOrString := ← Shape.boolean value }

mutual

/-- Shapes the schema of a property. -/
def ofJson : Json → Shaped PropertySchema
  | .object members => ofMembers {} [] members
  | .array elements => ofElements elements.length {} Field.all elements
  | found => .error (.invalidType found (.record .property))

/-- Takes the members of an object into a schema; `seen` are the fields given so far. -/
def ofMembers (node : PropertySchema) (seen : List Field) :
    List (String × Json) → Shaped PropertySchema
  | [] => .ok node
  | (key, value) :: rest =>
    match Field.ofKey? key with
    | none => ofMembers node seen rest
    | some field =>
      if seen.contains field then .error (.duplicateField field.key)
      else do ofMembers (← withField node field value (ofJson value)) (field :: seen) rest

/-- Takes the elements of an array of some length into a schema, field by field. -/
def ofElements (length : Nat) (node : PropertySchema) (fields : List Field) :
    List Json → Shaped PropertySchema
  | [] => .ok node
  | value :: rest =>
    match fields with
    | [] => .error (.invalidLength length)
    | field :: fields => do
      ofElements length (← withField node field value (ofJson value)) fields rest

end

end PropertySchema

namespace Definition

/-- The fields of a definition. -/
inductive Field
  | description | properties | required | reference | gvks
  deriving DecidableEq, Repr

/-- How a definition is written. -/
def layout : Shape.Layout Definition Field where
  kind := .definition
  fields := [(.description, "description"), (.properties, "properties"), (.required, "required"),
    (.reference, "$ref"), (.gvks, "x-kubernetes-group-version-kind")]
  field?
    | "description" => some .description
    | "properties" => some .properties
    | "required" => some .required
    | "$ref" => some .reference
    | "x-kubernetes-group-version-kind" => some .gvks
    | _ => none
  set definition field value :=
    match field with
    | .description => do
      return { definition with description := ← Shape.optional Shape.text value }
    | .properties => do
      return { definition with properties := ← Shape.map PropertySchema.ofJson value }
    | .required => do
      return { definition with required := NameSet.ofNames (← Shape.sequence Shape.text value) }
    | .reference => do
      return { definition with reference := ← Shape.optional Shape.text value }
    | .gvks => do
      return { definition with gvks := ← Shape.sequence Gvk.ofJson value }

/-- Shapes a definition. -/
def ofJson : Json → Shaped Definition :=
  layout.read {}

end Definition

namespace Document

/-- The fields of a document. -/
inductive Field
  | definitions | paths
  deriving DecidableEq, Repr

/-- How a document is written. -/
def layout : Shape.Layout Document Field where
  kind := .document
  fields := [(.definitions, "definitions"), (.paths, "paths")]
  field?
    | "definitions" => some .definitions
    | "paths" => some .paths
    | _ => none
  set document field value :=
    match field with
    | .definitions => do
      return { document with definitions := ← Shape.map Definition.ofJson value }
    | .paths => do
      return { document with paths := ← Shape.map (Shape.map .ok) value }

/-- Shapes a document. -/
def ofJson : Json → Shaped Document :=
  layout.read {}

end Document

end KubeSchema

import KubeSchema.Gvk
import KubeSchema.Json.Basic
import KubeSchema.Text.Words

/-!
# Schema documents

The parts of a schema document that a compilation reads: the named definitions, and the raw operations
of each path by verb. Everything else in a document is passed over when it is shaped.
-/

namespace KubeSchema

/-- What an object may hold beside its named properties: anything or nothing, or values of a schema. -/
inductive AdditionalProperties (α : Type) where
  | allowed (flag : Bool)
  | schema (node : α)
  deriving DecidableEq, BEq, Repr

/-- The schema of one property, array item or map value. -/
structure PropertySchema where
  typeName : Option String := none
  format : Option String := none
  items : Option PropertySchema := none
  additional : Option (AdditionalProperties PropertySchema) := none
  /-- A reference to a definition; it outranks everything else. -/
  reference : Option String := none
  description : Option String := none
  patchStrategy : Option String := none
  patchMergeKey : Option String := none
  intOrString : Bool := false
  deriving BEq, Repr, Inhabited

/-- One named entry among the definitions. -/
structure Definition where
  description : Option String := none
  properties : Table String PropertySchema := Table.empty
  required : NameSet := Table.empty
  reference : Option String := none
  /-- The types this definition stands for; the first one counts. -/
  gvks : List Gvk := []
  deriving Inhabited

/-- The raw operations of one path, by verb. -/
abbrev PathItem := Table String Json

/-- A schema document. -/
structure Document where
  definitions : Table String Definition := Table.empty
  paths : Table String PathItem := Table.empty
  deriving Inhabited

/-- What references to definitions start with. -/
def definitionsLead : String := "#/definitions/"

/-- The name of the definition that a reference leads to. -/
def referenceName (reference : String) : String :=
  (Text.stripLeading? definitionsLead reference).getD reference

namespace Definition

/-- The name that a pure alias stands for. A definition is one if it carries a reference and declares
no properties of its own. -/
def aliasTarget? (definition : Definition) : Option String :=
  match definition.reference with
  | some reference => if definition.properties.isEmpty then some (referenceName reference) else none
  | none => none

end Definition

end KubeSchema

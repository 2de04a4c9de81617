import KubeSchema.Compile
import KubeSchema.Json.Printer

/-!
# Manifests

What generators of artifacts read: an entry a model in order of generated name, with types as texts and
the bound operations beside. The table of bound operations can be had on its own as well.
-/

namespace KubeSchema

namespace Manifest

/-- A property as generators see it. -/
structure PropertyEntry where
  name : String
  wireName : String
  typeName : String
  isOptional : Bool
  summary : String
  mergeStrategy : MergeStrategy
  mergeKey : Option String
  deriving DecidableEq, Repr

/-- A model as generators see it. -/
structure ModelEntry where
  definition : String
  aliases : List String
  kind : String
  group : String
  /-- The version together with the group. -/
  apiVersion : String
  generatedName : String
  fileName : String
  summary : String
  isKubeObject : Bool
  isKubeResource : Bool
  isKubeResourceList : Bool
  hasListItems : Bool
  listItemType : Option String
  properties : List PropertyEntry
  operations : ActionPaths

end Manifest

/-- The models of a compilation as generators see them. -/
structure Manifest where
  models : List Manifest.ModelEntry

namespace Manifest

/-- The entry of a property. -/
def PropertyEntry.ofProperty (compiled : CompiledSchema) (property : Property) : PropertyEntry :=
  { name := property.name
    wireName := property.wireName
    typeName := compiled.describe property.type
    isOptional := property.isOptional
    summary := property.summary
    mergeStrategy := property.mergeStrategy
    mergeKey := property.mergeKey }

/-- The entry of a model. -/
def ModelEntry.ofModel (compiled : CompiledSchema) (ext : String) (id : ModelId)
    (model : Model) : ModelEntry :=
  { definition := model.definitionName
    aliases := compiled.graph.aliasesOf id
    kind := model.kind
    group := model.group
    apiVersion := model.gvk.apiVersion
    generatedName := model.generatedName
    fileName := model.fileName ext
    summary := model.summary
    isKubeObject := model.classification.isKubeObject
    isKubeResource := model.classification.isKubeResource
    isKubeResourceList := model.classification.isKubeResourceList
    hasListItems := model.classification.hasListItems
    listItemType := model.classification.listItemType.map compiled.graph.generatedName
    properties := model.properties.map fun (_, property) => .ofProperty compiled property
    operations := (compiled.operationsFor? model).getD Table.empty }

/-- The manifest of a compilation; the artifacts have the given extension. -/
def ofCompiled (compiled : CompiledSchema) (ext : String) : Manifest :=
  ⟨compiled.models.map fun (id, model) => .ofModel compiled ext id model⟩

/-- The paths of each action. -/
def actionsToJson (actions : ActionPaths) : Json :=
  .object (actions.entries.map fun (action, paths) =>
    (action.name, .array (paths.keys.map .string)))

/-- A member that is left out if it has no value. -/
def member? (key : String) (value : Option Json) : List (String × Json) :=
  (value.map fun value => (key, value)).toList

/-- The text of a strategy other than replacing. -/
def strategy? : MergeStrategy → Option Json
  | .replace => none
  | strategy => some (.string strategy.name)

/-- A property entry as it is written. -/
def PropertyEntry.toJson (entry : PropertyEntry) : Json :=
  .object <|
    [("name", .string entry.name), ("wireName", .string entry.wireName),
      ("type", .string entry.typeName), ("optional", .bool entry.isOptional),
      ("summary", .string entry.summary)] ++
    member? "mergeStrategy" (strategy? entry.mergeStrategy) ++
    member? "mergeKey" (entry.mergeKey.map .string)

/-- A model entry as it is written. -/
def ModelEntry.toJson (entry : ModelEntry) : Json :=
  .object <|
    [("definition", .string entry.definition)] ++
    member? "aliases"
      (if entry.aliases.isEmpty then none else some (.array (entry.aliases.map .string))) ++
    [("kind", .string entry.kind), ("group", .string entry.group),
      ("apiVersion", .string entry.apiVersion), ("generatedName", .string entry.generatedName),
      ("fileName", .string entry.fileName), ("summary", .string entry.summary),
      ("isKubeObject", .bool entry.isKubeObject), ("isKubeResource", .bool entry.isKubeResource),
      ("isKubeResourceList", .bool entry.isKubeResourceList),
      ("hasListItems", .bool entry.hasListItems)] ++
    member? "listItemType" (entry.listItemType.map .string) ++
    [("properties", .array (entry.properties.map (·.toJson)))] ++
    member? "operations"
      (if entry.operations.isEmpty then none else some (actionsToJson entry.operations))

/-- A manifest as it is written. -/
def toJson (manifest : Manifest) : Json :=
  .object [("models", .array (manifest.models.map (·.toJson)))]

end Manifest

/-- The bound operations as they are written, a row for each type. -/
def Bindings.toJson (bindings : Bindings) : Json :=
  .array (bindings.table.entries.map fun (gvk, actions) =>
    .object
      [("group", .string gvk.group), ("version", .string gvk.version), ("kind", .string gvk.kind),
        ("actions", Manifest.actionsToJson actions)])

end KubeSchema

import KubeSchema.Error
import KubeSchema.Registry.Basic

/-!
# Classification

The roles of a model follow from its properties. An object has string properties `kind` and
`apiVersion`; its `metadata` tells a resource from a resource list. A model cannot be both, and the
items of a resource list have to be models.
-/

namespace KubeSchema

/-- The models that mark resources and resource lists as their `metadata`. -/
structure MetadataModels where
  objectMeta : Option ModelId := none
  listMeta : Option ModelId := none
  deriving DecidableEq, Repr, Inhabited

/-- The metadata models that the options name. -/
def MetadataModels.ofGraph (graph : Graph) (options : Options) : MetadataModels :=
  ⟨graph.idOf? options.objectMeta, graph.idOf? options.listMeta⟩

namespace Model

/-- The descriptor of a property's type. -/
def descriptor? (model : Model) (registry : Registry) (wireName : String) : Option Descriptor :=
  (model.property? wireName).bind fun property => registry.descriptor? property.type

/-- Whether the model has a property of some name whose type is the built-in string. -/
def hasString (model : Model) (registry : Registry) (wireName : String) : Bool :=
  (model.descriptor? registry wireName).bind Descriptor.intrinsic? == some .string

/-- Whether the model stands for objects of the API. -/
def isKubeObject (model : Model) (registry : Registry) : Bool :=
  model.hasString registry "kind" && model.hasString registry "apiVersion"

/-- The model of the `metadata`. -/
def metadataModel? (model : Model) (registry : Registry) : Option ModelId :=
  (model.descriptor? registry "metadata").bind Descriptor.model?

/-- Whether the `metadata` is a given model. -/
def hasMetadata (model : Model) (registry : Registry) (mark : Option ModelId) : Bool :=
  mark.isSome && model.metadataModel? registry == mark

/-- Whether the model stands for resources. -/
def isKubeResource (model : Model) (registry : Registry) (metadata : MetadataModels) : Bool :=
  model.isKubeObject registry && model.hasMetadata registry metadata.objectMeta

/-- Whether the model stands for lists of resources. -/
def isKubeResourceList (model : Model) (registry : Registry) (metadata : MetadataModels) : Bool :=
  model.isKubeObject registry && model.hasMetadata registry metadata.listMeta

/-- The element type of the `items`, if they are an array. -/
def listItems? (model : Model) (registry : Registry) : Option Handle :=
  match model.descriptor? registry "items" with
  | some (.array element) => some element
  | _ => none

/-- The roles of the model. -/
def classify (model : Model) (registry : Registry) (metadata : MetadataModels) :
    Except CompileError Classification :=
  let isResource := model.isKubeResource registry metadata
  let isList := model.isKubeResourceList registry metadata
  let element := model.listItems? registry
  let item := (element.bind registry.descriptor?).bind Descriptor.model?
  if isResource && isList then
    .error (.classificationConflict model.definitionName .bothMetadata)
  else if element.isSome && item.isNone && isList then
    .error (.classificationConflict model.definitionName .itemsNotModels)
  else
    .ok
      { isKubeObject := model.isKubeObject registry
        isKubeResource := isResource
        isKubeResourceList := isList
        hasListItems := element.isSome
        listItemType := item }

end Model

end KubeSchema

import KubeSchema.Gvk
import KubeSchema.MergeStrategy
import KubeSchema.Table

/-!
# Models and the graph that holds them

A model is what a retained definition becomes. The graph keeps the models in the order in which they
were added and a table of names: the definition name of each model, and the aliases that lead to it.
-/

namespace KubeSchema

/-- A model of a graph, by its position. -/
structure ModelId where
  index : Nat
  deriving DecidableEq, Repr, Inhabited

/-- A type descriptor of a registry, by its position. -/
structure Handle where
  index : Nat
  deriving DecidableEq, Repr, Inhabited

/-- The summary of what has no description. -/
def noSummary : String := "No summary provided"

/-- The roles of a model. -/
structure Classification where
  /-- It has string properties `kind` and `apiVersion`. -/
  isKubeObject : Bool := false
  /-- It is an object, and its `metadata` is the object metadata. -/
  isKubeResource : Bool := false
  /-- It is an object, and its `metadata` is the list metadata. -/
  isKubeResourceList : Bool := false
  /-- Its `items` are an array. -/
  hasListItems : Bool := false
  /-- The model of the elements of `items`. -/
  listItemType : Option ModelId := none
  deriving DecidableEq, Repr, Inhabited

/-- A property of a model. -/
structure Property where
  /-- The identifier. -/
  name : String
  wireName : String
  summary : String
  type : Handle
  isOptional : Bool
  mergeStrategy : MergeStrategy
  /-- The field that tells list elements apart in a merge. -/
  mergeKey : Option String
  deriving DecidableEq, Repr

/-- What a retained definition becomes. -/
structure Model where
  definitionName : String
  kind : String
  group : String
  apiVersion : String
  versionQualifier : String
  /-- The name of generated artifacts; no two models of a compilation share one. -/
  generatedName : String
  summary : String
  /-- The properties under their wire names, in emission order. -/
  properties : List (String × Property) := []
  requiredKeys : NameSet := Table.empty
  classification : Classification := {}
  deriving Inhabited

namespace Model

/-- The type of API objects that the model stands for. -/
def gvk (model : Model) : Gvk := ⟨model.group, model.apiVersion, model.kind⟩

/-- The property of a wire name. -/
def property? (model : Model) (wireName : String) : Option Property :=
  model.properties.lookup wireName

/-- The file of the model's artifact; points in front of the extension are dropped. -/
def fileName (model : Model) (ext : String) : String :=
  model.generatedName ++ "." ++ String.ofList (ext.toList.dropWhile (· == '.'))

end Model

/-- The models of a compilation and the names that lead to them. -/
structure Graph where
  models : List Model
  names : Table String ModelId
  deriving Inhabited

namespace Graph

/-- The graph without models. -/
def empty : Graph := ⟨[], Table.empty⟩

/-- Adds a model under its definition name. -/
def insert (graph : Graph) (model : Model) : Graph :=
  ⟨graph.models ++ [model], graph.names.insert model.definitionName ⟨graph.models.length⟩⟩

/-- The model that the next insertion adds. -/
def nextId (graph : Graph) : ModelId := ⟨graph.models.length⟩

/-- Lets a further name lead to a model. -/
def bind (graph : Graph) (name : String) (model : ModelId) : Graph :=
  { graph with names := graph.names.insert name model }

/-- The model at a position. -/
def model? (graph : Graph) (id : ModelId) : Option Model :=
  graph.models[id.index]?

/-- The model that a name leads to. -/
def idOf? (graph : Graph) (name : String) : Option ModelId :=
  graph.names.lookup? name

/-- The models with their positions. -/
def indexed (graph : Graph) : List (ModelId × Model) :=
  graph.models.zipIdx.map fun (model, index) => (⟨index⟩, model)

/-- The names that lead to a model, other than its definition name, in order. -/
def aliasesOf (graph : Graph) (id : ModelId) : List String :=
  (graph.names.entries.filter fun (name, bound) =>
    bound == id && (graph.model? id).all (·.definitionName != name)).map (·.1)

/-- The generated name of a model. -/
def generatedName (graph : Graph) (id : ModelId) : String :=
  ((graph.model? id).map (·.generatedName)).getD ""

end Graph

end KubeSchema

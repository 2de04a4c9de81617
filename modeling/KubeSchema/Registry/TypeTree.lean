import KubeSchema.Registry.Basic

/-!
# Types as trees

What a handle stands for when the handles of its parts are followed to the end. The parts of a type
have smaller handles than the type itself, so following them ends. Types are shown to readers through
their trees.
-/

namespace KubeSchema

/-- A type with its parts. -/
inductive TypeTree
  | intrinsic (type : Intrinsic)
  | array (element : TypeTree)
  | map (element : TypeTree)
  | model (id : ModelId)
  /-- A name that no model has been bound to. -/
  | pending (name : String)
  deriving DecidableEq, Repr

namespace TypeTree

/-- The text of a type; a model is shown by a name of its own. -/
def render (modelName : ModelId → String) : TypeTree → String
  | intrinsic type => type.name
  | array element => "array<" ++ element.render modelName ++ ">"
  | map element => "map<string, " ++ element.render modelName ++ ">"
  | model id => modelName id
  | pending name => name

end TypeTree

namespace Registry

/-- Follows a handle through at most `depth` slots. -/
def treeWithin (registry : Registry) : Nat → Handle → Option TypeTree
  | 0, _ => none
  | depth + 1, handle =>
    match registry.descriptor? handle with
    | none => none
    | some (.intrinsic type) => some (.intrinsic type)
    | some (.array element) => (registry.treeWithin depth element).map .array
    | some (.map element) => (registry.treeWithin depth element).map .map
    | some (.model (.bound id)) => some (.model id)
    | some (.model (.pending name _)) => some (.pending name)

/-- The tree of a handle. -/
def tree? (registry : Registry) (handle : Handle) : Option TypeTree :=
  registry.treeWithin (handle.index + 1) handle

/-- The text of a handle's type, with models shown by their generated names. -/
def describe (registry : Registry) (graph : Graph) (handle : Handle) : String :=
  ((registry.tree? handle).map (·.render graph.generatedName)).getD ""

end Registry

end KubeSchema

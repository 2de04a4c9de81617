import KubeSchema.Bindings
import KubeSchema.Classification
import KubeSchema.Properties
import KubeSchema.Registry.TypeTree
import KubeSchema.Resolution

/-!
# Compiling a document

Properties are compiled when all models exist, so a property may refer to a model that comes later in
the document, or to the model it belongs to. After the last property every reference has to have met
its model. Then the models are classified and the operations are bound.
-/

namespace KubeSchema

/-- The result of a compilation. -/
structure CompiledSchema where
  graph : Graph
  registry : Registry
  bindings : Bindings

namespace CompiledSchema

/-- The models with their positions, in order of generated name. -/
def models (compiled : CompiledSchema) : List (ModelId × Model) :=
  compiled.graph.indexed.mergeSort fun a b =>
    (compare a.2.generatedName b.2.generatedName).isLE

/-- The operations bound to a model's type. -/
def operationsFor? (compiled : CompiledSchema) (model : Model) : Option ActionPaths :=
  compiled.bindings.actionsOf? model.gvk

/-- The text of a type. -/
def describe (compiled : CompiledSchema) (handle : Handle) : String :=
  compiled.registry.describe compiled.graph handle

end CompiledSchema

namespace Compile

/-- The registry in which all names of a graph are bound. -/
def bindNames (graph : Graph) : Registry :=
  graph.names.entries.foldl (fun registry (name, id) => (registry.bindModel name id).2)
    Registry.initial

/-- Compiles the properties of models one after the other. -/
def modelProperties (definitions : Table String Definition) (registry : Registry) :
    List Model → Except CompileError (List Model × Registry)
  | [] => .ok ([], registry)
  | model :: rest =>
    match definitions.lookup? model.definitionName with
    | none => do
      let (rest, registry) ← modelProperties definitions registry rest
      return (model :: rest, registry)
    | some definition =>
      match compileProperties model definition registry with
      | (.error error, _, _) => .error error
      | (.ok (), model, registry) => do
        let (rest, registry) ← modelProperties definitions registry rest
        return (model :: rest, registry)

/-- A model with its roles. -/
def classified (registry : Registry) (metadata : MetadataModels) (model : Model) :
    Except CompileError Model := do
  return { model with classification := ← model.classify registry metadata }

end Compile

/-- Compiles a document, or tells the first error. -/
def compile (document : Document) (options : Options) : Except CompileError CompiledSchema := do
  let shells ← resolveAll document.definitions options
  let (models, registry) ←
    Compile.modelProperties document.definitions (Compile.bindNames shells) shells.models
  let registry ← match registry.sealUp with
    | (.error error, _) => .error error
    | (.ok (), registry) => .ok registry
  let metadata := MetadataModels.ofGraph shells options
  let models ← models.mapM (Compile.classified registry metadata)
  return ⟨{ shells with models }, registry, Bindings.ofPaths document.paths⟩

end KubeSchema

import KubeSchema.Naming
import KubeSchema.Registry.Resolve

/-!
# Compiling properties

The second pass gives a model its properties, in emission order. A property is optional unless the
definition requires its wire name. Two properties of one model may not have one identifier; this is
checked before the later one's type. The properties compiled before a failure stay in the model.
-/

namespace KubeSchema

namespace Properties

/-- The properties of a definition in emission order. -/
def inEmissionOrder (definition : Definition) : List (String × PropertySchema) :=
  definition.properties.entries.mergeSort fun a b => (Naming.emissionOrder a.1 b.1).isLE

/-- The property of a wire name, once its type is known. -/
def property (definition : Definition) (wireName : String) (schema : PropertySchema)
    (type : Handle) : Property :=
  { name := Naming.sanitize wireName
    wireName
    summary := schema.description.getD noSummary
    type
    isOptional := !definition.required.contains wireName
    mergeStrategy := ((schema.patchStrategy.map MergeStrategy.parse).map (·.1)).getD .replace
    mergeKey := schema.patchMergeKey }

/-- Adds properties to a model. `claimed` holds the wire names by identifier of those added before. -/
def add (definition : Definition) (claimed : Table String String) (model : Model)
    (registry : Registry) : List (String × PropertySchema) → Except CompileError Unit × Model × Registry
  | [] => (.ok (), model, registry)
  | (wireName, schema) :: rest =>
    let name := Naming.sanitize wireName
    match claimed.lookup? name with
    | some first =>
      (.error (.invalidDefinition model.definitionName (.nameClash first wireName name)),
        model, registry)
    | none =>
      match registry.resolve ⟨model.definitionName, wireName⟩ schema with
      | (.error error, registry) => (.error error, model, registry)
      | (.ok type, registry) =>
        let properties := model.properties ++ [(wireName, property definition wireName schema type)]
        add definition (claimed.insert name wireName) { model with properties } registry rest

end Properties

/-- Gives a model the properties of its definition, in place of those it has. -/
def compileProperties (model : Model) (definition : Definition) (registry : Registry) :
    Except CompileError Unit × Model × Registry :=
  Properties.add definition Table.empty { model with properties := [] } registry
    (Properties.inEmissionOrder definition)

end KubeSchema

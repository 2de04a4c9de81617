import KubeSchema.Document.Basic
import KubeSchema.Error
import KubeSchema.Registry.Basic

/-!
# Resolving schemas to types

A property schema becomes a handle. A reference outranks everything else in the schema, then the mark
for an integer or a string, then the type name; a schema without any of them stands for any JSON value.
The registry is part of the outcome also when resolving fails.
-/

namespace KubeSchema

namespace Registry

/-- Where a schema stands. -/
structure Context where
  definition : String
  property : String
  deriving DecidableEq, Repr

/-- The outcome of a step, and the registry after it. -/
abbrev Outcome (α : Type) := Except CompileError α × Registry

/-- A step that cannot fail. -/
def succeed {α : Type} (result : α × Registry) : Outcome α :=
  (.ok result.1, result.2)

/-- Resolves the name of a definition. An unknown name is pending until the registry is sealed, and
refused from then on. -/
def resolveReference (registry : Registry) (context : Context) (name : String) : Outcome Handle :=
  match registry.lookup? name with
  | some handle => (.ok handle, registry)
  | none =>
    if registry.isSealed then
      (.error (.unresolvableReference context.definition name), registry)
    else
      let (handle, registry) := registry.push (.model (.pending name context.definition))
      (.ok handle, registry.withName name handle)

/-- Wraps the type that a step gave, if it gave one. -/
def wrap (outcome : Outcome Handle) (wrapper : Handle → Descriptor) : Outcome Handle :=
  match outcome with
  | (.ok element, registry) => succeed (registry.push (wrapper element))
  | (.error error, registry) => (.error error, registry)

/-- A fault of the property where a schema stands. -/
def refuse (registry : Registry) (context : Context) (fault : DefinitionFault) : Outcome Handle :=
  (.error (.invalidDefinition context.definition fault), registry)

/-- Resolves a property schema. -/
def resolve (registry : Registry) (context : Context) (schema : PropertySchema) : Outcome Handle :=
  match schema with
  | { reference, intOrString, typeName, format, items, additional, .. } =>
    match reference with
    | some reference => registry.resolveReference context (referenceName reference)
    | none =>
      if intOrString then succeed (registry.intrinsic .intOrString)
      else
        match typeName with
        | none => succeed (registry.intrinsic .object)
        | some "array" =>
          match items with
          | some items => wrap (registry.resolve context items) .array
          | none => registry.refuse context (.arrayWithoutItems context.property)
        | some "object" =>
          match additional with
          | some (.schema value) => wrap (registry.resolve context value) .map
          | some (.allowed true) => wrap (succeed (registry.intrinsic .object)) .map
          | _ => succeed (registry.intrinsic .object)
        | some typeName =>
          match Intrinsic.ofPrimitive? typeName format with
          | some type => succeed (registry.intrinsic type)
          | none => registry.refuse context (.unsupportedType context.property typeName)
termination_by structural schema

/-- The first name that no model has been bound to, and the definition that referred to it first. -/
def firstPending? (registry : Registry) : Option (String × String) :=
  registry.slots.findSome? fun
    | .model (.pending name referencedBy) => some (name, referencedBy)
    | _ => none

/-- Closes the registry to unknown names, unless a name is still pending. -/
def sealUp (registry : Registry) : Outcome Unit :=
  match registry.firstPending? with
  | some (name, referencedBy) =>
    (.error (.unresolvableReference referencedBy name), registry)
  | none => (.ok (), { registry with isSealed := true })

end Registry

end KubeSchema

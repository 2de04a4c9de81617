/-!
# Compilation errors

What stops a compilation. Every error belongs to one definition; the text of an error is a function of
its cause.
-/

namespace KubeSchema

/-- What is wrong with one definition's properties. -/
inductive DefinitionFault
  /-- An array type does not say what its items are. -/
  | arrayWithoutItems (property : String)
  /-- A type name is none of the known ones. -/
  | unsupportedType (property typeName : String)
  /-- Two wire names have one identifier. -/
  | nameClash (first second name : String)
  deriving DecidableEq, Repr

/-- Why a model cannot be classified. -/
inductive ClassificationFault
  /-- The metadata marks a resource and a resource list at once. -/
  | bothMetadata
  /-- The items of a resource list are not models. -/
  | itemsNotModels
  deriving DecidableEq, Repr

/-- What stops a compilation. -/
inductive CompileError
  /-- A definition refers to a name that nothing defines. -/
  | unresolvableReference (definition target : String)
  /-- An alias leads to a definition that is passed over. -/
  | ambiguousAlias (name target : String)
  /-- An alias runs into a cycle of aliases. -/
  | circularAlias (name : String)
  | classificationConflict (definition : String) (fault : ClassificationFault)
  /-- No generated name is left for the second definition; the first one holds the last choice. -/
  | duplicateGeneratedName (generatedName first second : String)
  | invalidDefinition (definition : String) (fault : DefinitionFault)
  deriving DecidableEq, Repr

namespace DefinitionFault

/-- The text of the fault. -/
def message : DefinitionFault → String
  | arrayWithoutItems property => "property '" ++ property ++ "': array without items"
  | unsupportedType property typeName =>
    "property '" ++ property ++ "': unsupported type '" ++ typeName ++ "'"
  | nameClash first second name =>
    "properties '" ++ first ++ "' and '" ++ second ++ "' both map to '" ++ name ++ "'"

end DefinitionFault

namespace ClassificationFault

/-- The text of the fault. -/
def message : ClassificationFault → String
  | bothMetadata => "metadata matches both object metadata and list metadata"
  | itemsNotModels => "resource list 'items' elements are not a model reference"

end ClassificationFault

namespace CompileError

/-- The text of the error. -/
def message : CompileError → String
  | unresolvableReference definition target =>
    "definition '" ++ definition ++ "' references unknown definition '" ++ target ++ "'"
  | ambiguousAlias name target =>
    "alias '" ++ name ++ "' points to ignored definition '" ++ target ++ "'"
  | circularAlias name => "alias '" ++ name ++ "' is part of a reference cycle"
  | classificationConflict definition fault =>
    "cannot classify '" ++ definition ++ "': " ++ fault.message
  | duplicateGeneratedName generatedName first second =>
    "generated name '" ++ generatedName ++ "' used by both '" ++ first ++ "' and '" ++ second ++ "'"
  | invalidDefinition definition fault =>
    "invalid definition '" ++ definition ++ "': " ++ fault.message

/-- The definition that the error belongs to. -/
def definition : CompileError → String
  | unresolvableReference definition _ => definition
  | ambiguousAlias name _ => name
  | circularAlias name => name
  | classificationConflict definition _ => definition
  | duplicateGeneratedName _ _ second => second
  | invalidDefinition definition _ => definition

/-- The exit code of a program that stops with the error. -/
def exitCode (_ : CompileError) : Nat := 2

end CompileError

end KubeSchema

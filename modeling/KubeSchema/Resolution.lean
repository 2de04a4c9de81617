import KubeSchema.Error
import KubeSchema.Graph
import KubeSchema.Identity
import KubeSchema.Options

/-!
# Resolving definitions

The first pass over a document. Every definition that is kept and is no alias becomes a model without
properties, in order of name; then every alias is bound to the model at the end of its chain. A chain
fails at the first name on it that is passed over, not defined, or met before.
-/

namespace KubeSchema

namespace Resolution

/-- What the first pass has collected. -/
structure Progress where
  graph : Graph
  claimed : ClaimedNames
  /-- The aliases met so far, in order. -/
  aliases : List String

/-- Nothing collected. -/
def Progress.start : Progress := ⟨Graph.empty, Table.empty, []⟩

/-- The model of a definition before its properties are known. -/
def shell (name : String) (definition : Definition) (generatedName : String) : Model :=
  let identity := Identity.ofDefinition name definition
  { definitionName := name
    kind := identity.kind
    group := identity.group
    apiVersion := identity.apiVersion
    versionQualifier := identity.qualifier
    generatedName
    summary := definition.description.getD noSummary
    requiredKeys := definition.required }

/-- Adds the model of a definition under the first free one of its names. -/
def addModel (progress : Progress) (name : String) (definition : Definition) :
    Except CompileError Progress :=
  let identity := Identity.ofDefinition name definition
  match progress.claimed.firstFree identity.plainName identity.qualifiedNames with
  | .error (generatedName, holder) => .error (.duplicateGeneratedName generatedName holder name)
  | .ok generatedName =>
    .ok { progress with
      graph := progress.graph.insert (shell name definition generatedName)
      claimed := progress.claimed.insert generatedName name }

/-- Takes a definition into account. -/
def visit (options : Options) (progress : Progress) (entry : String × Definition) :
    Except CompileError Progress :=
  let (name, definition) := entry
  if options.isIgnored name then .ok progress
  else if definition.aliasTarget?.isSome then
    .ok { progress with aliases := progress.aliases ++ [name] }
  else addModel progress name definition

/-- The name that a definition of some name stands for, if it is an alias. -/
def nextName? (definitions : Table String Definition) (name : String) : Option String :=
  (definitions.lookup? name).bind Definition.aliasTarget?

/-- Follows a chain of aliases that began at `start` and has met the names `met`, for at most `steps`
steps. -/
def follow (definitions : Table String Definition) (options : Options) (start : String) :
    Nat → List String → String → Except CompileError String
  | 0, _, _ => .error (.circularAlias start)
  | steps + 1, met, current =>
    match nextName? definitions current with
    | none => .ok current
    | some next =>
      if options.isIgnored next then .error (.ambiguousAlias start next)
      else if !definitions.contains next then .error (.unresolvableReference start next)
      else if met.contains next then .error (.circularAlias start)
      else follow definitions options start steps (next :: met) next

/-- The definition at the end of an alias's chain. A chain without repetition has at most as many steps
as there are definitions. -/
def chainEnd (definitions : Table String Definition) (options : Options) (start : String) :
    Except CompileError String :=
  follow definitions options start (definitions.size + 1) [start] start

/-- Binds an alias to the model at the end of its chain. -/
def bindAlias (definitions : Table String Definition) (options : Options) (graph : Graph)
    (name : String) : Except CompileError Graph := do
  let target ← chainEnd definitions options name
  match graph.idOf? target with
  | none => .error (.unresolvableReference name target)
  | some id => .ok (graph.bind name id)

end Resolution

/-- The graph of all retained definitions and aliases. -/
def resolveAll (definitions : Table String Definition) (options : Options) :
    Except CompileError Graph := do
  let progress ← definitions.entries.foldlM (Resolution.visit options) Resolution.Progress.start
  progress.aliases.foldlM (Resolution.bindAlias definitions options) progress.graph

end KubeSchema

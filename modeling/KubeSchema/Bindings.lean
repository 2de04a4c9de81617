import KubeSchema.Action
import KubeSchema.Document.Shape

/-!
# Operation bindings

An operation is bound when it says which type it acts on and what it does. The table lists, for each
type and each action, the paths of the operations bound there. An operation that cannot be bound is
kept aside with the reason.
-/

namespace KubeSchema

/-- What an operation says about itself. -/
structure Operation where
  operationId : Option String := none
  action : Option String := none
  gvk : Option Gvk := none
  deriving DecidableEq, Repr, Inhabited

namespace Operation

/-- The fields of an operation. -/
inductive Field
  | operationId | action | gvk
  deriving DecidableEq, Repr

/-- How an operation is written. -/
def layout : Shape.Layout Operation Field where
  kind := .operation
  fields := [(.operationId, "operationId"), (.action, "x-kubernetes-action"),
    (.gvk, "x-kubernetes-group-version-kind")]
  field?
    | "operationId" => some .operationId
    | "x-kubernetes-action" => some .action
    | "x-kubernetes-group-version-kind" => some .gvk
    | _ => none
  set operation field value :=
    match field with
    | .operationId => do
      return { operation with operationId := ← Shape.optional Shape.text value }
    | .action => do return { operation with action := ← Shape.optional Shape.text value }
    | .gvk => do return { operation with gvk := ← Shape.optional Gvk.ofJson value }

/-- Shapes an operation. -/
def ofJson : Json → Shaped Operation :=
  layout.read {}

end Operation

/-- Why an operation is not bound. -/
inductive SkipReason
  | notAnObject (found : Json)
  | malformed (error : ShapeError)
  | noGvk
  | noAction

namespace SkipReason

/-- The text of the reason. -/
def message : SkipReason → String
  | notAnObject found => "expected an operation object, found " ++ found.kindName
  | malformed error => "malformed operation: " ++ error.message
  | noGvk => "no group-version-kind annotation"
  | noAction => "no action annotation"

end SkipReason

/-- An operation that is not bound. -/
structure SkippedOperation where
  path : String
  verb : String
  reason : SkipReason

/-- The skipped operation as one text. -/
def SkippedOperation.display (skipped : SkippedOperation) : String :=
  skipped.verb ++ " " ++ skipped.path ++ ": " ++ skipped.reason.message

/-- The paths of each action. -/
abbrev ActionPaths := Table Action NameSet

/-- The bound operations by type and action, and those that could not be bound. -/
structure Bindings where
  table : Table Gvk ActionPaths := Table.empty
  /-- The skipped operations in the order in which they were met. -/
  skipped : List SkippedOperation := []
  deriving Inhabited

namespace Bindings

/-- The actions bound for a type. -/
def actionsOf? (bindings : Bindings) (gvk : Gvk) : Option ActionPaths :=
  bindings.table.lookup? gvk

/-- Binds an operation under a path. -/
def bind (bindings : Bindings) (gvk : Gvk) (action : Action) (path : String) : Bindings :=
  let actions := (bindings.table.lookup? gvk).getD Table.empty
  let paths := (actions.lookup? action).getD Table.empty
  { bindings with table := bindings.table.insert gvk (actions.insert action (paths.insert path ())) }

/-- Keeps an operation aside. -/
def skip (bindings : Bindings) (path verb : String) (reason : SkipReason) : Bindings :=
  { bindings with skipped := bindings.skipped ++ [⟨path, verb, reason⟩] }

/-- The type and the action that a raw operation is bound to, or why it is not. -/
def target (node : Json) : Except SkipReason (Gvk × Action) :=
  match node with
  | .object _ =>
    match Operation.ofJson node with
    | .error error => .error (.malformed error)
    | .ok operation =>
      match operation.gvk, operation.action with
      | none, _ => .error .noGvk
      | some _, none => .error .noAction
      | some gvk, some tag => .ok (gvk, Action.parse tag)
  | found => .error (.notAnObject found)

/-- The entry of a path that holds parameters of its operations and is none itself. -/
def parametersVerb : String := "parameters"

/-- Takes one entry of a path into account. -/
def visit (path : String) (bindings : Bindings) (entry : String × Json) : Bindings :=
  let (verb, node) := entry
  if verb = parametersVerb then bindings
  else
    match target node with
    | .ok (gvk, action) => bindings.bind gvk action path
    | .error reason => bindings.skip path verb reason

/-- Binds the operations of all paths, in order of path and verb. -/
def ofPaths (paths : Table String PathItem) : Bindings :=
  paths.entries.foldl (fun bindings (path, item) => item.entries.foldl (visit path) bindings) {}

end Bindings

end KubeSchema

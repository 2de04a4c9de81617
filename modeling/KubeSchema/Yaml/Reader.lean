import KubeSchema.Yaml.Node
import KubeSchema.Yaml.Scalar.Value
import KubeSchema.Yaml.Token.Lexer

/-!
# Reading YAML text

A text is read into the value of its only document; without a document it is null. References are
followed, but only so often, and sequences and mappings are nested only so deeply. Keys are
scalars, taken as they are written.
-/

namespace KubeSchema.Yaml

/-- How deeply sequences and mappings may be nested. -/
def depthLimit : Nat := 128

/-- How many references may be followed for each event of a document. -/
def referenceLimit : Nat := 100

/-- A computation that follows references, at most as many as the state says. -/
abbrev Following := StateT Nat Option

/-- The node itself, or what it refers to. -/
def Anchors.follow (anchors : Anchors) : Node → Following Node
  | .reference number => do
    let left ← get
    guard (0 < left)
    set (left - 1)
    anchors.node? number
  | node => return node

/-- The text of a key. -/
def Node.key (anchors : Anchors) (node : Node) : Following String := do
  match ← anchors.follow node with
  | .scalar _ _ text => return .ofList text
  | _ => failure

/-- The value of a node that is nested no deeper than some depth. -/
def Node.value (anchors : Anchors) : Nat → Node → Following Json
  | depth, node => do
    match ← anchors.follow node, depth with
    | .scalar tag style text, _ => scalarValue? tag style text
    | .sequence tag elements, depth + 1 =>
      guard !tag.any isOwnTag
      return .array (← elements.mapM (value anchors depth))
    | .mapping tag pairs, depth + 1 =>
      guard !tag.any isOwnTag
      let members ← pairs.mapM fun pair => do
        return (← pair.1.key anchors, ← value anchors depth pair.2)
      return .ofMembers members
    | _, _ => failure

/-- Reads a text. -/
def read? (text : String) : Option Json := do
  let text := text.toList
  guard (text.all isReadable)
  let events ← Event.ofTokens? (← tokens? text)
  if events.isEmpty then return .null
  let (root, anchors) ← Node.ofEvents? events
  (root.value anchors depthLimit).run' (referenceLimit * events.length)

end KubeSchema.Yaml

import KubeSchema.Yaml.Event

/-!
# Nodes of a document

The events of a document make up a tree. A reference stays in it as a number: that of the anchor it names.
An anchor gets the number of the names known so far, also one whose name is known already, so
that a number can be given twice; what it stands for is the node it was given to last.
-/

namespace KubeSchema.Yaml

/-- A node. -/
inductive Node
  | scalar (tag : Option (List Char)) (style : ScalarStyle) (text : List Char)
  | sequence (tag : Option (List Char)) (elements : List Node)
  | mapping (tag : Option (List Char)) (pairs : List (Node × Node))
  /-- The node that an anchor of some number was given to. -/
  | reference (number : Nat)
  deriving Repr, Inhabited

/-! ## Anchors -/

/-- The anchors of a document, up to some event. -/
structure Anchors where
  /-- The number of each name. -/
  names : List (List Char × Nat) := []
  /-- The event that each number was given at, the latest first. -/
  places : List (Nat × Nat) := []
  /-- The nodes with anchors, by the event that each begins at. -/
  nodes : List (Nat × Node) := []

namespace Anchors

/-- Gives a number to the anchor of a node that begins at an event. -/
def name (anchors : Anchors) (place : Nat) : Option (List Char) → Anchors
  | none => anchors
  | some name =>
    let number := anchors.names.length
    { anchors with
      names := (name, number) :: anchors.names.filter (·.1 != name)
      places := (number, place) :: anchors.places }

/-- Keeps a node that begins at an event, if it has an anchor. -/
def keep (anchors : Anchors) (place : Nat) (anchor : Option (List Char)) (node : Node) : Anchors :=
  if anchor.isSome then { anchors with nodes := (place, node) :: anchors.nodes } else anchors

/-- The node that a number stands for. -/
def node? (anchors : Anchors) (number : Nat) : Option Node := do
  anchors.nodes.lookup (← anchors.places.lookup number)

end Anchors

/-! ## Trees -/

/-- A sequence or mapping that has begun. -/
structure NodeFrame where
  isMapping : Bool
  properties : NodeProperties
  /-- The event that it begins at. -/
  place : Nat
  /-- What it holds, last first; keys and values take turns. -/
  children : List Node := []

/-- The node of a frame that has ended. -/
def NodeFrame.node (frame : NodeFrame) : Node :=
  let children := frame.children.reverse
  if frame.isMapping then .mapping frame.properties.tag (pairUp children)
  else .sequence frame.properties.tag children
where
  /-- Keys with their values. -/
  pairUp : List Node → List (Node × Node)
    | key :: value :: rest => (key, value) :: pairUp rest
    | _ => []

/-- The tree between two events. -/
structure NodeBuilder where
  anchors : Anchors := {}
  /-- The sequences and mappings that have begun, the innermost first. -/
  frames : List NodeFrame := []
  root : Option Node := none

namespace NodeBuilder

/-- Adds a node to the innermost frame. -/
def add (builder : NodeBuilder) (node : Node) : NodeBuilder :=
  match builder.frames with
  | [] => { builder with root := some node }
  | frame :: frames =>
    { builder with frames := { frame with children := node :: frame.children } :: frames }

/-- Begins a sequence or mapping. -/
def start (builder : NodeBuilder) (frame : NodeFrame) : NodeBuilder :=
  { builder with
    anchors := builder.anchors.name frame.place frame.properties.anchor
    frames := frame :: builder.frames }

/-- Ends the innermost sequence or mapping. -/
def finish? (builder : NodeBuilder) : Option NodeBuilder :=
  match builder.frames with
  | [] => none
  | frame :: frames =>
    let anchors := builder.anchors.keep frame.place frame.properties.anchor frame.node
    some ({ builder with anchors, frames }.add frame.node)

/-- Goes on with the event at a place. References have to name an anchor that is known. -/
def next? (builder : NodeBuilder) (place : Nat) : Event → Option NodeBuilder
  | .reference name => (builder.anchors.names.lookup name).map (builder.add <| .reference ·)
  | .scalar properties style text =>
    let node := Node.scalar properties.tag style text
    let anchors := builder.anchors.name place properties.anchor
    some ({ builder with anchors := anchors.keep place properties.anchor node }.add node)
  | .sequenceStart properties => some (builder.start { isMapping := false, properties, place })
  | .mappingStart properties => some (builder.start { isMapping := true, properties, place })
  | .sequenceEnd | .mappingEnd => builder.finish?

/-- Goes on with events from a place on. -/
def run? (builder : NodeBuilder) (place : Nat) : List Event → Option NodeBuilder
  | [] => some builder
  | event :: events => (builder.next? place event).bind (run? · (place + 1) events)

end NodeBuilder

/-- The tree of a document and its anchors. -/
def Node.ofEvents? (events : List Event) : Option (Node × Anchors) := do
  let builder ← NodeBuilder.run? {} 0 events
  return (← builder.root, builder.anchors)

end KubeSchema.Yaml

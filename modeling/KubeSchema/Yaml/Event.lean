import KubeSchema.Yaml.Token.Basic

/-!
# Events of a document

The events of a document say which nodes begin and end in it. Tokens become events by a list of goals:
what is still to be read. The first token decides what the first goal becomes, namely some events and
further goals, so no token is read twice. A text holds one document at most.
-/

namespace KubeSchema.Yaml

/-- What stands in front of a node. -/
structure NodeProperties where
  anchor : Option (List Char) := none
  /-- The tag, as octets. -/
  tag : Option (List Char) := none
  deriving DecidableEq, Repr

/-- An event. -/
inductive Event
  /-- The node that an anchor was given to. -/
  | reference (anchor : List Char)
  | scalar (properties : NodeProperties) (style : ScalarStyle) (text : List Char)
  | sequenceStart (properties : NodeProperties)
  | sequenceEnd
  | mappingStart (properties : NodeProperties)
  | mappingEnd
  deriving DecidableEq, Repr

/-- A node that has been left out. -/
def Event.empty (properties : NodeProperties) : Event := .scalar properties .plain []

/-- What is still to be read. -/
inductive Goal
  /-- A node. `inBlock` says that it may be a block, and `maybeBare` that it may be a sequence that is
  indented no deeper than the key it belongs to. -/
  | node (inBlock maybeBare : Bool)
  /-- An event that comes of itself. -/
  | emit (event : Event)
  /-- The entries of a block sequence. -/
  | blockEntries
  /-- The entries of a sequence that is not indented. -/
  | bareEntries
  /-- The pairs of a block mapping. -/
  | blockPairs
  /-- A value in a block mapping. -/
  | blockValue
  /-- The entries of a sequence in brackets, from its first one on or behind one. -/
  | flowEntries (isFirst : Bool)
  /-- The key of a single pair among them. -/
  | entryKey
  /-- The value of a single pair among them. -/
  | entryValue
  /-- The pairs of a mapping in braces, from its first one on or behind one. -/
  | flowPairs (isFirst : Bool)
  /-- A value in a mapping in braces. -/
  | flowValue
  deriving DecidableEq, Repr

/-- What a goal becomes. -/
structure Expansion where
  events : List Event := []
  goals : List Goal := []
  /-- The tokens that are left. -/
  tokens : List Token

/-! ## Nodes -/

/-- Reads an anchor and a tag, in either order. -/
def nodeProperties? (handles : TagHandles) : List Token → Option (NodeProperties × List Token)
  | .anchor anchor :: .tag tag :: rest | .tag tag :: .anchor anchor :: rest => do
    return (⟨some anchor, some (← tag.resolve? handles)⟩, rest)
  | .anchor anchor :: rest => some (⟨some anchor, none⟩, rest)
  | .tag tag :: rest => do return (⟨none, some (← tag.resolve? handles)⟩, rest)
  | rest => some ({}, rest)

/-- Reads the beginning of a node. -/
def expandNode? (handles : TagHandles) (inBlock maybeBare : Bool) (tokens : List Token) :
    Option Expansion := do
  if let .reference anchor :: rest := tokens then
    return { events := [.reference anchor], tokens := rest }
  let (properties, tokens) ← nodeProperties? handles tokens
  match tokens with
  | .scalar style text :: rest =>
    return { events := [.scalar properties style text], tokens := rest }
  | .flowSequenceStart :: rest =>
    return { events := [.sequenceStart properties], goals := [.flowEntries true], tokens := rest }
  | .flowMappingStart :: rest =>
    return { events := [.mappingStart properties], goals := [.flowPairs true], tokens := rest }
  | first :: rest =>
    if maybeBare && first == .blockEntry then
      return { events := [.sequenceStart properties], goals := [.bareEntries], tokens }
    else if inBlock && first == .blockSequenceStart then
      return { events := [.sequenceStart properties], goals := [.blockEntries], tokens := rest }
    else if inBlock && first == .blockMappingStart then
      return { events := [.mappingStart properties], goals := [.blockPairs], tokens := rest }
    else
      guard (properties != {})
      return { events := [.empty properties], tokens }
  | [] => none

/-! ## Goals -/

/-- A node and what comes behind it, where the node is left out in front of some tokens. -/
def nodeBefore (ends : Token → Bool) (node : Goal) (next : Goal) (tokens : List Token) : Expansion :=
  if tokens.head?.any ends then { events := [.empty {}], goals := [next], tokens }
  else { goals := [node, next], tokens }

/-- Whether a token ends an entry of a block sequence. -/
def endsBlockEntry : Token → Bool
  | .blockEntry | .blockEnd => true
  | _ => false

/-- Whether a token ends a key or a value in a block mapping. -/
def endsBlockPart : Token → Bool
  | .key | .value | .blockEnd => true
  | _ => false

/-- Whether a token ends an entry of a sequence that is not indented. -/
def endsBareEntry (token : Token) : Bool :=
  endsBlockEntry token || endsBlockPart token

/-- Whether a token ends a value among the entries of a sequence in brackets. -/
def endsEntryValue : Token → Bool
  | .flowEntry | .flowSequenceEnd => true
  | _ => false

/-- Whether a token ends a value in a mapping in braces. -/
def endsFlowValue : Token → Bool
  | .flowEntry | .flowMappingEnd => true
  | _ => false

/-- A node within brackets. -/
def Goal.flowNode : Goal := .node false false

/-- What an entry of a sequence in brackets becomes. -/
def expandFlowEntry : List Token → Expansion
  | .key :: rest => { events := [.mappingStart {}], goals := [.entryKey], tokens := rest }
  | .flowSequenceEnd :: rest => { events := [.sequenceEnd], tokens := rest }
  | tokens => { goals := [.flowNode, .flowEntries false], tokens }

/-- What a pair of a mapping in braces becomes. A key without its sign has no value. -/
def expandFlowPair : List Token → Expansion
  | .key :: rest =>
    nodeBefore (fun token => token == .value || endsFlowValue token) .flowNode .flowValue rest
  | .flowMappingEnd :: rest => { events := [.mappingEnd], tokens := rest }
  | tokens => { goals := [.flowNode, .emit (.empty {}), .flowPairs false], tokens }

/-- What a goal becomes in front of some tokens. -/
def Goal.expand? (handles : TagHandles) : Goal → List Token → Option Expansion
  | node inBlock maybeBare, tokens => expandNode? handles inBlock maybeBare tokens
  | emit event, tokens => some { events := [event], tokens }
  | blockEntries, .blockEntry :: rest =>
    some (nodeBefore endsBlockEntry (.node true false) .blockEntries rest)
  | blockEntries, .blockEnd :: rest => some { events := [.sequenceEnd], tokens := rest }
  | blockEntries, _ => none
  | bareEntries, .blockEntry :: rest =>
    some (nodeBefore endsBareEntry (.node true false) .bareEntries rest)
  | bareEntries, tokens => some { events := [.sequenceEnd], tokens }
  | blockPairs, .key :: rest => some (nodeBefore endsBlockPart (.node true true) .blockValue rest)
  | blockPairs, .blockEnd :: rest => some { events := [.mappingEnd], tokens := rest }
  | blockPairs, _ => none
  | blockValue, .value :: rest => some (nodeBefore endsBlockPart (.node true true) .blockPairs rest)
  | blockValue, tokens => some { events := [.empty {}], goals := [.blockPairs], tokens }
  | flowEntries true, tokens => some (expandFlowEntry tokens)
  | flowEntries false, .flowEntry :: rest => some (expandFlowEntry rest)
  | flowEntries false, .flowSequenceEnd :: rest => some { events := [.sequenceEnd], tokens := rest }
  | flowEntries false, _ => none
  -- A key that is left out takes the token that shows it along.
  | entryKey, tokens =>
    if tokens.head?.any fun token => token == .value || endsEntryValue token then
      some { events := [.empty {}], goals := [.entryValue], tokens := tokens.drop 1 }
    else some { goals := [.flowNode, .entryValue], tokens }
  | entryValue, .value :: rest =>
    let expansion := nodeBefore endsEntryValue .flowNode (.emit .mappingEnd) rest
    some { expansion with goals := expansion.goals ++ [.flowEntries false] }
  | entryValue, tokens =>
    some { events := [.empty {}, .mappingEnd], goals := [.flowEntries false], tokens }
  | flowPairs true, tokens => some (expandFlowPair tokens)
  | flowPairs false, .flowEntry :: rest => some (expandFlowPair rest)
  | flowPairs false, .flowMappingEnd :: rest => some { events := [.mappingEnd], tokens := rest }
  | flowPairs false, _ => none
  | flowValue, .value :: rest =>
    some (nodeBefore endsFlowValue .flowNode (.flowPairs false) rest)
  | flowValue, tokens => some { events := [.empty {}], goals := [.flowPairs false], tokens }

/-- Reaches goals within some steps. `read` is what has been read, last first. -/
def reachGoals? (handles : TagHandles) :
    Nat → List Event → List Goal → List Token → Option (List Event × List Token)
  | _, read, [], tokens => some (read.reverse, tokens)
  | 0, _, _ :: _, _ => none
  | steps + 1, read, goal :: goals, tokens =>
    match goal.expand? handles tokens with
    | none => none
    | some expansion =>
      reachGoals? handles steps (expansion.events.reverse ++ read) (expansion.goals ++ goals)
        expansion.tokens

/-- The events of a node in a block. Every token that is read leaves goals behind that take at most seven
further steps without reading another one. -/
def nodeEvents? (handles : TagHandles) (tokens : List Token) : Option (List Event × List Token) :=
  reachGoals? handles (8 * tokens.length + 8) [] [.node true false] tokens

/-! ## Documents -/

/-- The handles that directives give, which may be given once each, as may the version. The version has to
be one that is known. -/
def directives? (hasVersion : Bool) (handles : TagHandles) : List Token → Option (TagHandles × List Token)
  | .version major minor :: rest => do
    guard (!hasVersion && major == 1 && (minor == 1 || minor == 2))
    directives? true handles rest
  | .handle name address :: rest => do
    guard (handles.lookup name).isNone
    directives? hasVersion (handles ++ [(name, address)]) rest
  | rest => some (handles ++ standardHandles, rest)

/-- Whether a token ends the content of a document. -/
def endsContent : Token → Bool
  | .version .. | .handle .. | .documentStart | .documentEnd | .streamEnd => true
  | _ => false

/-- Whether a token begins a document that is marked as one. -/
def startsMarked : Token → Bool
  | .version .. | .handle .. | .documentStart => true
  | _ => false

/-- The events of the document that tokens begin with. -/
def documentEvents? (tokens : List Token) : Option (List Event × List Token) := do
  if tokens.head?.any startsMarked then
    let (handles, tokens) ← directives? false [] tokens
    match tokens with
    | .documentStart :: rest =>
      if rest.head?.any endsContent then return ([.empty {}], rest)
      else nodeEvents? handles rest
    | _ => none
  else nodeEvents? standardHandles tokens

/-- The events of the only document; there are none if there is no document. -/
def Event.ofTokens? (tokens : List Token) : Option (List Event) := do
  if tokens == [.streamEnd] then return []
  let (events, rest) ← documentEvents? tokens
  guard (rest.dropWhile (· == .documentEnd) == [.streamEnd])
  return events

end KubeSchema.Yaml

import KubeSchema.Yaml.Scalar.Block
import KubeSchema.Yaml.Scalar.Plain
import KubeSchema.Yaml.Scalar.Quoted
import KubeSchema.Yaml.Token.Directive

/-!
# The tokens of a text

Two things are not said by the characters at hand. That blocks begin and end follows from columns, so the
lexer keeps the columns of the blocks it is in. That something is the key of a mapping is seen at the colon
behind it only, so the lexer keeps the place where a key may have begun, one for every level of brackets, and
puts the tokens that announce the key in there afterwards. Such a key ends on the line it begins on,
and the colon comes at most 1024 octets behind its beginning.
-/

namespace KubeSchema.Yaml

/-- Where a key may have begun. -/
structure PendingKey where
  /-- The number of tokens before it. -/
  position : Nat
  mark : Mark
  /-- Whether nothing but a key may stand there. -/
  isRequired : Bool
  deriving Repr

/-- How many octets may lie between the beginning of a key and the colon behind it. -/
def keyLimit : Nat := 1024

/-- Whether a place is too far away for the colon behind a key. -/
def PendingKey.isStale (key : PendingKey) (mark : Mark) : Bool :=
  key.mark.line < mark.line || key.mark.index + keyLimit < mark.index

/-- What is known at a place between two tokens. -/
structure Lexer where
  cursor : Cursor
  tokens : Array Token := #[]
  /-- The columns of the blocks around the place, the innermost first. -/
  blocks : List Nat := []
  /-- Where a key may have begun on this level of brackets. -/
  key : Option PendingKey := none
  /-- The same for the levels around it, the innermost first. -/
  outerKeys : List (Option PendingKey) := []
  /-- Whether a key may begin here. -/
  keyAllowed : Bool := true
  deriving Repr

/-- Passes over blanks, comments and line breaks, and over a byte order mark in front of a line, which takes
up a column. Tabs may not stand in front of a key outside of brackets, and a line break allows a key
there. -/
def skipSpace (isFlow keyAllowed inComment : Bool) (mark : Mark) : List Char → Cursor × Bool
  | [] => (⟨[], mark⟩, keyAllowed)
  | c :: rest =>
    if isBreak c then
      match c, rest with
      | '\r', '\n' :: rest => skipSpace isFlow (keyAllowed || !isFlow) false mark.nextLineByPair rest
      | _, rest => skipSpace isFlow (keyAllowed || !isFlow) false (mark.nextLine c) rest
    else if inComment || c == '#' then skipSpace isFlow keyAllowed true (mark.past c) rest
    else if c == ' ' || (c == '\t' && (isFlow || !keyAllowed)) ||
        (c == byteOrderMark && mark.column == 0) then
      skipSpace isFlow keyAllowed false (mark.past c) rest
    else (⟨c :: rest, mark⟩, keyAllowed)

/-- Characters that begin no plain scalar, unless something else speaks for it. -/
def isIndicator (c : Char) : Bool :=
  "-?:,[]\x7b\x7d#&*!|>'\"%@`".toList.contains c

/-- Whether a plain scalar begins a text. -/
def startsPlain (isFlow : Bool) : List Char → Bool
  | [] => false
  | c :: rest =>
    (!isGap c && !isIndicator c) || (c == '-' && !rest.head?.any isBlank) ||
      (!isFlow && (c == '?' || c == ':') && !startsGap rest)

/-- Whether the name of an anchor may end in front of a text. -/
def endsAnchor (cs : List Char) : Bool :=
  startsGap cs || cs.head?.any "?:,]\x7d%@`".toList.contains

namespace Lexer

/-- Whether the place is within brackets. -/
def isFlow (lexer : Lexer) : Bool := !lexer.outerKeys.isEmpty

/-- The column of the innermost block. -/
def indent (lexer : Lexer) : Int :=
  match lexer.blocks with
  | [] => -1
  | column :: _ => column

/-- Adds a token that ends at a cursor. -/
def add (lexer : Lexer) (token : Token) (cursor : Cursor) : Lexer :=
  { lexer with tokens := lexer.tokens.push token, cursor }

/-- Passes on to the next token. -/
def skipToToken (lexer : Lexer) : Lexer :=
  let (cursor, keyAllowed) :=
    skipSpace lexer.isFlow lexer.keyAllowed false lexer.cursor.mark lexer.cursor.rest
  { lexer with cursor, keyAllowed }

/-! ## Blocks -/

/-- Ends the blocks that are indented deeper than a column. Brackets keep them. -/
def closeBlocks (lexer : Lexer) (column : Int) : Lexer :=
  if lexer.isFlow then lexer
  else
    let (closed, blocks) := lexer.blocks.span fun (block : Nat) => column < block
    { lexer with blocks, tokens := lexer.tokens ++ Array.replicate closed.length Token.blockEnd }

/-- Begins a block behind some of the tokens, if it is indented deeper than what is around it. -/
def openBlock (lexer : Lexer) (token : Token) (column position : Nat) : Lexer :=
  if lexer.isFlow || (column : Int) ≤ lexer.indent then lexer
  else
    { lexer with
      blocks := column :: lexer.blocks
      tokens := lexer.tokens.insertIdxIfInBounds position token }

/-- Begins a block here, where it must be allowed. -/
def openBlockHere? (lexer : Lexer) (token : Token) : Option Lexer := do
  guard (lexer.isFlow || lexer.keyAllowed)
  return lexer.openBlock token lexer.cursor.mark.column lexer.tokens.size

/-! ## Keys -/

/-- Gives up a key that is too far away. -/
def freshKey? (mark : Mark) : Option PendingKey → Option (Option PendingKey)
  | none => some none
  | some key =>
    if !key.isStale mark then some (some key)
    else if key.isRequired then none
    else some none

/-- Gives up the keys that are too far away. -/
def dropStaleKeys? (lexer : Lexer) : Option Lexer := do
  let key ← freshKey? lexer.cursor.mark lexer.key
  let outerKeys ← lexer.outerKeys.mapM (freshKey? lexer.cursor.mark)
  return { lexer with key, outerKeys }

/-- Gives up the key of this level. -/
def dropKey? (lexer : Lexer) : Option Lexer := do
  guard (!lexer.key.any (·.isRequired))
  return { lexer with key := none }

/-- Notes that a key may begin here. -/
def noteKey? (lexer : Lexer) : Option Lexer := do
  if lexer.keyAllowed then
    let lexer ← lexer.dropKey?
    let mark := lexer.cursor.mark
    let isRequired := !lexer.isFlow && lexer.indent == mark.column
    return { lexer with key := some ⟨lexer.tokens.size, mark, isRequired⟩ }
  else return lexer

/-- Gives up the key of this level, and says whether one may begin behind the next token. -/
def passKey? (lexer : Lexer) (keyAllowed : Bool) : Option Lexer := do
  return { ← lexer.dropKey? with keyAllowed }

/-- Notes that a key may begin here, but none behind the next token. -/
def startNode? (lexer : Lexer) : Option Lexer := do
  return { ← lexer.noteKey? with keyAllowed := false }

/-! ## Tokens -/

/-- Reads a mark at the start or end of a document, or a directive. All blocks end before it. -/
def betweenDocuments? (lexer : Lexer) : Option Lexer :=
  (lexer.closeBlocks (-1)).passKey? false

/-- Reads an opening bracket. -/
def openFlow? (lexer : Lexer) (token : Token) : Option Lexer := do
  let lexer ← lexer.noteKey?
  let lexer := { lexer with key := none, outerKeys := lexer.key :: lexer.outerKeys, keyAllowed := true }
  return lexer.add token (lexer.cursor.skip 1)

/-- Reads a closing bracket. -/
def closeFlow? (lexer : Lexer) (token : Token) : Option Lexer := do
  let lexer ← lexer.passKey? false
  let lexer := match lexer.outerKeys with
    | [] => lexer
    | key :: outerKeys => { lexer with key, outerKeys }
  return lexer.add token (lexer.cursor.skip 1)

/-- Reads the dash in front of an entry. -/
def blockEntry? (lexer : Lexer) : Option Lexer := do
  let lexer ← (← lexer.openBlockHere? .blockSequenceStart).passKey? true
  return lexer.add .blockEntry (lexer.cursor.skip 1)

/-- Reads the question mark in front of a key. -/
def explicitKey? (lexer : Lexer) : Option Lexer := do
  let lexer ← (← lexer.openBlockHere? .blockMappingStart).passKey? (!lexer.isFlow)
  return lexer.add .key (lexer.cursor.skip 1)

/-- Reads the colon in front of a value. -/
def value? (lexer : Lexer) : Option Lexer := do
  let lexer ← match lexer.key with
    | some key =>
      let lexer := { lexer with tokens := lexer.tokens.insertIdxIfInBounds key.position .key }
      let lexer := lexer.openBlock .blockMappingStart key.mark.column key.position
      some { lexer with key := none, keyAllowed := false }
    | none =>
      (lexer.openBlockHere? .blockMappingStart).map ({ · with keyAllowed := !lexer.isFlow })
  return lexer.add .value (lexer.cursor.skip 1)

/-- Reads an anchor or a reference to one, and makes a token of its name. -/
def anchor? (lexer : Lexer) (token : List Char → Token) : Option Lexer := do
  let lexer ← lexer.startNode?
  let (name, cursor) := (lexer.cursor.skip 1).span isWord
  guard (!name.isEmpty && endsAnchor cursor.rest)
  return lexer.add (token name) cursor

/-- Reads a tag. -/
def tag? (lexer : Lexer) : Option Lexer := do
  let lexer ← lexer.startNode?
  let (name, cursor) ← tagName? lexer.cursor
  guard (startsGap cursor.rest || (lexer.isFlow && cursor.isAt ','))
  return lexer.add (.tag name) cursor

/-- Reads a block scalar. -/
def block? (lexer : Lexer) (isFolded : Bool) : Option Lexer := do
  let lexer ← lexer.passKey? true
  let (text, cursor) ← blockScalar? isFolded lexer.indent (lexer.cursor.skip 1)
  return lexer.add (.scalar .other text) cursor

/-- Reads a quoted scalar. -/
def quoted? (lexer : Lexer) (quote : Quote) : Option Lexer := do
  let lexer ← lexer.startNode?
  let (text, cursor) ← quotedScalar? quote lexer.cursor
  return lexer.add (.scalar .other text) cursor

/-- Reads a plain scalar. -/
def plain? (lexer : Lexer) : Option Lexer := do
  let lexer ← lexer.startNode?
  let scalar ← plainScalar? ⟨lexer.isFlow, lexer.indent + 1⟩ lexer.cursor
  return { lexer with keyAllowed := scalar.endsLine }.add (.scalar .plain scalar.text) scalar.cursor

/-- Reads the token that comes next, which is not the end of the text. -/
def token? (lexer : Lexer) : Option Lexer :=
  let isFlow := lexer.isFlow
  let atStart := lexer.cursor.mark.column == 0
  let text := lexer.cursor.rest
  let behind := text.drop 1
  if atStart && lexer.cursor.isAt '%' then do
    let lexer ← lexer.betweenDocuments?
    let (token, cursor) ← directive? lexer.cursor
    return lexer.add token cursor
  else if atStart && startsDocumentMark text then do
    let lexer ← lexer.betweenDocuments?
    let token := if lexer.cursor.isAt '-' then Token.documentStart else Token.documentEnd
    return lexer.add token (lexer.cursor.skip 3)
  else
    match text.head? with
    | some '[' => lexer.openFlow? .flowSequenceStart
    | some '\x7b' => lexer.openFlow? .flowMappingStart
    | some ']' => lexer.closeFlow? .flowSequenceEnd
    | some '\x7d' => lexer.closeFlow? .flowMappingEnd
    | some ',' => do
      let lexer ← lexer.passKey? true
      return lexer.add .flowEntry (lexer.cursor.skip 1)
    | some '*' => lexer.anchor? .reference
    | some '&' => lexer.anchor? .anchor
    | some '!' => lexer.tag?
    | some '\'' => lexer.quoted? .single
    | some '"' => lexer.quoted? .double
    | some c =>
      if c == '-' && startsGap behind then lexer.blockEntry?
      else if c == '?' && (isFlow || startsGap behind) then lexer.explicitKey?
      else if c == ':' && (isFlow || startsGap behind) then lexer.value?
      else if c == '|' && !isFlow then lexer.block? false
      else if c == '>' && !isFlow then lexer.block? true
      else if startsPlain isFlow text then lexer.plain?
      else none
    | none => none

/-- Ends all blocks and the text. -/
def finish? (lexer : Lexer) : Option (List Token) := do
  let lexer ← lexer.betweenDocuments?
  return (lexer.tokens.push .streamEnd).toList

/-- Reads at most so many tokens, up to the end of the text. -/
def run? : Nat → Lexer → Option (List Token)
  | 0, _ => none
  | steps + 1, lexer =>
    match lexer.skipToToken.dropStaleKeys? with
    | none => none
    | some lexer =>
      let lexer := lexer.closeBlocks lexer.cursor.mark.column
      if lexer.cursor.rest.isEmpty then lexer.finish?
      else lexer.token?.bind (run? steps)

end Lexer

/-- The tokens of a text. Each of them takes up some of it, so there are no more than characters. -/
def tokens? (text : List Char) : Option (List Token) :=
  Lexer.run? (text.length + 1) { cursor := .start text }

end KubeSchema.Yaml

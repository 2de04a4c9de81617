import KubeSchema.Yaml.Cursor

/-!
# Block scalars

A literal block keeps its lines; a folded one joins them by spaces, except around empty and further
indented ones. The block is indented as deeply as its header says, or else as its first line that is not
empty. How the line breaks at its end are treated is part of the header, too.
-/

namespace KubeSchema.Yaml

/-- What becomes of the line breaks at the end of a block. -/
inductive Chomping
  /-- They are dropped. -/
  | strip
  /-- The first one is kept. -/
  | clip
  /-- They are kept. -/
  | keep
  deriving DecidableEq, Repr

/-- What the header of a block says. -/
structure BlockHeader where
  chomping : Chomping := .clip
  /-- How much deeper the block is indented than what it stands in. -/
  increment : Option Nat := none
  deriving DecidableEq, Repr

/-- The chomping of an indicator. -/
def chomping? : Char → Option Chomping
  | '+' => some .keep
  | '-' => some .strip
  | _ => none

/-- The increment of a digit; zero is refused. -/
def increment? (c : Char) : Option Nat :=
  if '1' ≤ c ∧ c ≤ '9' then some (c.toNat - '0'.toNat) else none

/-- Reads the indicators of a header, in either order. -/
def blockHeader (cursor : Cursor) : BlockHeader × Cursor :=
  match cursor.rest with
  | first :: second :: _ =>
    match chomping? first, increment? first, chomping? second, increment? second with
    | some chomping, _, _, some increment => (⟨chomping, some increment⟩, cursor.skip 2)
    | some chomping, _, _, none => (⟨chomping, none⟩, cursor.skip 1)
    | none, some increment, some chomping, _ => (⟨chomping, some increment⟩, cursor.skip 2)
    | none, some increment, none, _ => (⟨.clip, some increment⟩, cursor.skip 1)
    | none, none, _, _ => ({}, cursor)
  | [first] =>
    match chomping? first, increment? first with
    | some chomping, _ => (⟨chomping, none⟩, cursor.skip 1)
    | none, some increment => (⟨.clip, some increment⟩, cursor.skip 1)
    | none, none => ({}, cursor)
  | [] => ({}, cursor)

/-- Empty lines and indentation in front of a line of a block. -/
structure BlockMargin where
  /-- The breaks of the empty lines. -/
  breaks : List Char
  /-- The greatest column that was reached. -/
  deepest : Nat
  cursor : Cursor
  deriving Repr

/-- Passes over empty lines and over indentation up to a limit, if there is one. `breaks` are the breaks so
far, last first. Tabs may not stand in place of indentation. -/
def readMargin (limit : Option Nat) (breaks : List Char) (deepest : Nat) (mark : Mark) :
    List Char → Option BlockMargin
  | [] => some ⟨breaks.reverse, max deepest mark.column, ⟨[], mark⟩⟩
  | c :: rest =>
    let isShallow := limit.all (mark.column < ·)
    if isShallow && c == ' ' then readMargin limit breaks deepest (mark.past c) rest
    else
      let deepest := max deepest mark.column
      if isShallow && c == '\t' then none
      else if isBreak c then
        match c, rest with
        | '\r', '\n' :: rest => readMargin limit ('\n' :: breaks) deepest mark.nextLineByPair rest
        | c, rest => readMargin limit (plainBreak c :: breaks) deepest (mark.nextLine c) rest
      else some ⟨breaks.reverse, deepest, ⟨c :: rest, mark⟩⟩

/-- Passes over empty lines and indentation. -/
def blockMargin? (limit : Option Nat) (cursor : Cursor) : Option BlockMargin :=
  readMargin limit [] 0 cursor.mark cursor.rest

/-- What has been read of a block. -/
structure BlockText where
  /-- The lines without the last line break, last character first. -/
  read : List Char
  /-- The line break of the last line. -/
  ending : Option Char
  /-- The breaks of the empty lines behind it. -/
  margin : BlockMargin
  /-- Whether the last line begins with a blank. -/
  isIndented : Bool

/-- What stands between the last line and the next one. -/
def BlockText.joint (block : BlockText) (isFolded startsBlank : Bool) : List Char :=
  if isFolded && block.ending == some '\n' && !block.isIndented && !startsBlank then
    if block.margin.breaks.isEmpty then [' '] else block.margin.breaks
  else
    block.ending.toList ++ block.margin.breaks

/-- Reads the lines of a block that are indented to a column; there are at most `lines` of them. -/
def readBlock (isFolded : Bool) (indent : Nat) : Nat → BlockText → Option BlockText
  | 0, block => some block
  | lines + 1, block =>
    let cursor := block.margin.cursor
    match cursor.head? with
    | none => some block
    | some c =>
      if cursor.mark.column ≠ indent then some block
      else
        let isIndented := isBlank c
        let (line, cursor) := cursor.span (!isBreak ·)
        let read := line.reverse ++ ((block.joint isFolded isIndented).reverse ++ block.read)
        let (ending, cursor) := match cursor.takeBreak? with
          | some (ending, cursor) => (some ending, cursor)
          | none => (none, cursor)
        match blockMargin? (some indent) cursor with
        | none => none
        | some margin => readBlock isFolded indent lines ⟨read, ending, margin, isIndented⟩

/-- The text of a block, its end treated as its header says. -/
def BlockText.chomped (block : BlockText) : Chomping → List Char
  | .strip => block.read.reverse
  | .clip => block.read.reverse ++ block.ending.toList
  | .keep => block.read.reverse ++ block.ending.toList ++ block.margin.breaks

/-- Reads a block scalar behind its indicator. `parent` is the indentation of what it stands in; without
any it is negative. -/
def blockScalar? (isFolded : Bool) (parent : Int) (cursor : Cursor) :
    Option (List Char × Cursor) := do
  let (header, cursor) := blockHeader cursor
  let cursor ← cursor.skipLineEnd?
  let given := header.increment.map fun increment => (max parent 0).toNat + increment
  let margin ← blockMargin? given cursor
  let indent := given.getD (max margin.deepest (max (parent + 1) 1).toNat)
  let block ← readBlock isFolded indent (cursor.rest.length + 1) ⟨[], none, margin, false⟩
  return (block.chomped header.chomping, block.margin.cursor)

end KubeSchema.Yaml

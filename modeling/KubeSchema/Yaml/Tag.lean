import KubeSchema.Yaml.Cursor

/-!
# Tags

A tag names the type of a node. It is written as an address between angles, or as a handle with a
suffix, where directives of the document say what the handle stands for. Characters of an address may
be written as the octets of their encoding; a tag is kept as octets, and an octet that is zero ends it.
-/

namespace KubeSchema.Yaml

/-- A tag as it is written. -/
structure TagName where
  /-- Empty for a whole address. -/
  handle : List Char
  suffix : List Char
  deriving DecidableEq, Repr

/-- What addresses are made of, beside commas and brackets. -/
def isAddress (c : Char) : Bool :=
  isWord c || ";/?:@&=+$.!~*'()".toList.contains c

/-- The number of octets of a character's encoding, by the first of them. -/
def octetCount? (octet : Nat) : Option Nat :=
  if octet < 0x80 then some 1
  else if 0xC0 ≤ octet ∧ octet < 0xE0 then some 2
  else if 0xE0 ≤ octet ∧ octet < 0xF0 then some 3
  else if 0xF0 ≤ octet ∧ octet < 0xF8 then some 4
  else none

/-- The number of octets that have to follow an octet, of which `owed` were to follow those before. -/
def octetsOwed? (owed octet : Nat) : Option Nat :=
  if owed = 0 then (octetCount? octet).map (· - 1)
  else if 0x80 ≤ octet ∧ octet < 0xC0 then some (owed - 1)
  else none

/-- Reads an address; `owed` octets have to follow the last one. -/
def readAddress (withFlowMarks : Bool) (read : List Char) (owed : Nat) (mark : Mark) :
    List Char → Option (List Char × Cursor)
  | '%' :: high :: low :: rest =>
    match hexDigit? high, hexDigit? low with
    | some upper, some lower =>
      let octet := 16 * upper + lower
      let mark := ((mark.past '%').past high).past low
      match octetsOwed? owed octet with
      | none => none
      | some owed => readAddress withFlowMarks (Char.ofNat octet :: read) owed mark rest
    | _, _ => none
  | '%' :: _ => none
  | c :: rest =>
    if owed ≠ 0 then none
    else if isAddress c || (withFlowMarks && (c == ',' || c == '[' || c == ']')) then
      readAddress withFlowMarks (c :: read) 0 (mark.past c) rest
    else some (read.reverse, ⟨c :: rest, mark⟩)
  | [] => if owed ≠ 0 then none else some (read.reverse, ⟨[], mark⟩)

/-- The octets in front of the first one that is zero. -/
def beforeZero (octets : List Char) : List Char :=
  octets.takeWhile (· != '\x00')

/-- Reads an address that is not empty, up to the octet that ends it. -/
def address? (withFlowMarks : Bool) (cursor : Cursor) : Option (List Char × Cursor) := do
  let (text, cursor) ← readAddress withFlowMarks [] 0 cursor.mark cursor.rest
  guard (!text.isEmpty)
  return (beforeZero text, cursor)

/-- Reads a handle: an exclamation mark, and perhaps a word and another mark. -/
def tagHandle? (cursor : Cursor) : Option (List Char × Cursor) := do
  guard (cursor.isAt '!')
  let (word, behind) := (cursor.skip 1).span isWord
  if behind.isAt '!' then return ('!' :: word ++ ['!'], behind.skip 1)
  else return ('!' :: word, behind)

/-- Whether a handle ends with a mark of its own. -/
def isFullHandle (handle : List Char) : Bool :=
  2 ≤ handle.length && handle.getLast? == some '!'

/-- Reads the name of a tag, from its exclamation mark on. What looks like a handle and is none belongs
to the suffix. -/
def tagName? (cursor : Cursor) : Option (TagName × Cursor) := do
  if (cursor.skip 1).isAt '<' then
    let (address, behind) ← address? true (cursor.skip 2)
    guard (behind.isAt '>')
    return (⟨[], address⟩, behind.skip 1)
  else
    let (handle, behind) ← tagHandle? cursor
    if isFullHandle handle then
      let (suffix, behind) ← address? false behind
      return (⟨handle, suffix⟩, behind)
    else
      let (suffix, behind) ← readAddress false [] 0 behind.mark behind.rest
      let whole := handle.drop 1 ++ beforeZero suffix
      if whole.isEmpty then return (⟨[], ['!']⟩, behind)
      else return (⟨['!'], whole⟩, behind)

/-- What the handles of a document stand for. -/
abbrev TagHandles := List (List Char × List Char)

/-- What handles stand for unless a document says otherwise. -/
def standardHandles : TagHandles :=
  [("!".toList, "!".toList), ("!!".toList, "tag:yaml.org,2002:".toList)]

/-- The tag that a name stands for. -/
def TagName.resolve? (name : TagName) (handles : TagHandles) : Option (List Char) :=
  if name.handle.isEmpty then some name.suffix
  else (handles.lookup name.handle).map (· ++ name.suffix)

end KubeSchema.Yaml

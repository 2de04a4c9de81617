/-!
# Characters and places of YAML text

The classes of characters that the format tells apart, and a cursor: the rest of a text together with
the place where it begins. Lines end at line feeds and carriage returns, which may come as a pair, and at
the three line breaks beyond ASCII.
-/

namespace KubeSchema.Yaml

/-! ## Characters -/

/-- A space or a tab. -/
def isBlank (c : Char) : Bool :=
  c == ' ' || c == '\t'

/-- A line break. -/
def isBreak (c : Char) : Bool :=
  c == '\n' || c == '\r' || c.toNat == 0x85 || c.toNat == 0x2028 || c.toNat == 0x2029

/-- What separates words. -/
def isGap (c : Char) : Bool :=
  isBlank c || isBreak c

/-- What names are made of. -/
def isWord (c : Char) : Bool :=
  c.isAlphanum || c == '_' || c == '-'

/-- What may stand in a text at all: no controls but tabs and line breaks, and no code point that is
set aside. -/
def isReadable (c : Char) : Bool :=
  let n := c.toNat
  n == 0x9 || n == 0xA || n == 0xD || (0x20 ≤ n && n ≤ 0x7E) || n == 0x85 ||
    (0xA0 ≤ n && n ≤ 0xD7FF) || (0xE000 ≤ n && n ≤ 0xFFFD) || 0x10000 ≤ n

/-- The mark that may stand in front of a line to tell the byte order. -/
def byteOrderMark : Char := Char.ofNat 0xFEFF

/-- The value of a hexadecimal digit. -/
def hexDigit? (c : Char) : Option Nat :=
  if c.isDigit then some (c.toNat - '0'.toNat)
  else if 'a' ≤ c ∧ c ≤ 'f' then some (c.toNat - 'a'.toNat + 10)
  else if 'A' ≤ c ∧ c ≤ 'F' then some (c.toNat - 'A'.toNat + 10)
  else none

/-- A line break as it counts in a scalar: all but the two separators of Unicode are line feeds. -/
def plainBreak (c : Char) : Char :=
  if c.toNat == 0x2028 || c.toNat == 0x2029 then c else '\n'

/-- Whether a text is over or goes on with a gap. -/
def startsGap (cs : List Char) : Bool :=
  cs.head?.all isGap

/-- Whether a text begins with three dashes or three points that stand alone. -/
def startsDocumentMark : List Char → Bool
  | '-' :: '-' :: '-' :: rest | '.' :: '.' :: '.' :: rest => startsGap rest
  | _ => false

/-! ## Cursors -/

/-- A place in a text. Columns count characters. -/
structure Mark where
  /-- The number of octets before it. -/
  index : Nat
  line : Nat
  column : Nat
  deriving DecidableEq, Repr

/-- The place after a character of a line. -/
def Mark.past (mark : Mark) (c : Char) : Mark :=
  { mark with index := mark.index + c.utf8Size, column := mark.column + 1 }

/-- The place after a character that ends a line. -/
def Mark.nextLine (mark : Mark) (c : Char) : Mark :=
  ⟨mark.index + c.utf8Size, mark.line + 1, 0⟩

/-- The place after a carriage return and a line feed, which end a line together. -/
def Mark.nextLineByPair (mark : Mark) : Mark :=
  (mark.past '\r').nextLine '\n'

/-- The rest of a text, and where it begins. -/
structure Cursor where
  rest : List Char
  mark : Mark
  deriving Repr

namespace Cursor

/-- The beginning of a text. -/
def start (text : List Char) : Cursor := ⟨text, ⟨0, 0, 0⟩⟩

/-- The next character. -/
def head? (cursor : Cursor) : Option Char := cursor.rest.head?

/-- Whether some character comes next. -/
def isAt (cursor : Cursor) (c : Char) : Bool := cursor.rest.head? == some c

/-- Passes over characters of a line. -/
def skip (cursor : Cursor) (count : Nat) : Cursor :=
  ⟨cursor.rest.drop count, (cursor.rest.take count).foldl Mark.past cursor.mark⟩

/-- The next characters of a class that holds no line breaks, and the cursor behind them. -/
def span (cursor : Cursor) (p : Char → Bool) : List Char × Cursor :=
  let run := cursor.rest.takeWhile p
  (run, ⟨cursor.rest.dropWhile p, run.foldl Mark.past cursor.mark⟩)

/-- Passes over the characters of a class that holds no line breaks. -/
def skipWhile (cursor : Cursor) (p : Char → Bool) : Cursor :=
  (cursor.span p).2

/-- The line break that comes next, and the cursor behind it. -/
def takeBreak? (cursor : Cursor) : Option (Char × Cursor) :=
  match cursor.rest with
  | '\r' :: '\n' :: rest => some ('\n', ⟨rest, cursor.mark.nextLineByPair⟩)
  | c :: rest => if isBreak c then some (plainBreak c, ⟨rest, cursor.mark.nextLine c⟩) else none
  | [] => none

/-- Passes over a line break, if one comes next. -/
def skipBreak (cursor : Cursor) : Cursor :=
  (cursor.takeBreak?.map (·.2)).getD cursor

/-- Passes over a comment, if one comes next. -/
def skipComment (cursor : Cursor) : Cursor :=
  if cursor.isAt '#' then cursor.skipWhile (!isBreak ·) else cursor

/-- Passes over blanks and a comment up to the end of the line, where nothing else may stand. -/
def skipLineEnd? (cursor : Cursor) : Option Cursor :=
  let cursor := (cursor.skipWhile isBlank).skipComment
  if cursor.head?.all isBreak then some cursor.skipBreak else none

end Cursor

end KubeSchema.Yaml

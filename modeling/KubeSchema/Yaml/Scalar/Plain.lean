import KubeSchema.Yaml.Scalar.Gap

/-!
# Plain scalars

A scalar without quotes goes on until a colon in front of a gap, a comment, a line that is not indented
deeply enough, or, within brackets, a comma or a bracket. Its lines are folded.
-/

namespace KubeSchema.Yaml

/-- Characters that end a plain scalar within brackets. -/
def isFlowMark (c : Char) : Bool :=
  c == ',' || c == '[' || c == ']' || c == '\x7b' || c == '\x7d'

/-- Where a plain scalar stands. -/
structure PlainContext where
  /-- Whether it is within brackets. -/
  isFlow : Bool
  /-- The least column of its further lines. -/
  indent : Int
  deriving Repr

/-- A plain scalar that has been read. -/
structure PlainScalar where
  text : List Char
  cursor : Cursor
  /-- Whether a line has ended behind its last word. -/
  endsLine : Bool
  deriving Repr

/-- Whether the word that begins behind a gap is no part of the scalar. -/
def PlainContext.endsAt (context : PlainContext) (mark : Mark) (rest : List Char) : Bool :=
  (!context.isFlow && (mark.column : Int) < context.indent) ||
    (mark.column == 0 && startsDocumentMark rest) || rest.head? == some '#'

/-- Reads a plain scalar. `read` is what has been read, last first; `gap` what came since. -/
def readPlain (context : PlainContext) (read : List Char) (gap : Gap) (mark : Mark) :
    List Char → Option PlainScalar
  | [] => some ⟨read.reverse, ⟨[], mark⟩, gap.isBroken⟩
  | c :: rest =>
    if isBlank c then
      if gap.isBroken && c == '\t' && (mark.column : Int) < context.indent then none
      else readPlain context read (gap.withBlank c) (mark.past c) rest
    else if isBreak c then
      match c, rest with
      | '\r', '\n' :: rest => readPlain context read (gap.withBreak '\n') mark.nextLineByPair rest
      | c, rest => readPlain context read (gap.withBreak (plainBreak c)) (mark.nextLine c) rest
    else
      let isBehind := !gap.isEmpty && context.endsAt mark (c :: rest)
      if !isBehind && context.isFlow && c == ':' &&
          rest.head?.any (fun d => isFlowMark d || d == '?') then none
      else if isBehind || (c == ':' && startsGap rest) || (context.isFlow && isFlowMark c) then
        some ⟨read.reverse, ⟨c :: rest, mark⟩, gap.isBroken⟩
      else readPlain context (c :: (gap.text.reverse ++ read)) {} (mark.past c) rest

/-- Reads a plain scalar. -/
def plainScalar? (context : PlainContext) (cursor : Cursor) : Option PlainScalar :=
  readPlain context [] {} cursor.mark cursor.rest

end KubeSchema.Yaml

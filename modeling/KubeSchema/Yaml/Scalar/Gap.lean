import KubeSchema.Yaml.Cursor

/-!
# Gaps within scalars

Blanks and line breaks between the words of a plain or quoted scalar. Blanks on one line are kept. A
single line break becomes a space, and of several the first one is dropped; blanks around line breaks
are dropped.
-/

namespace KubeSchema.Yaml

/-- The blanks and line breaks since the last word, last first. -/
structure Gap where
  /-- The blanks, as long as there is no line break. -/
  blanks : List Char := []
  /-- Whether the line has ended. -/
  isBroken : Bool := false
  /-- The first line break, unless it was escaped. -/
  first : Option Char := none
  /-- The line breaks after it. -/
  further : List Char := []
  deriving Repr

namespace Gap

/-- Whether the last word goes on. -/
def isEmpty (gap : Gap) : Bool :=
  gap.blanks.isEmpty && !gap.isBroken

/-- The gap with one more blank. -/
def withBlank (gap : Gap) (c : Char) : Gap :=
  if gap.isBroken then gap else { gap with blanks := c :: gap.blanks }

/-- The gap with one more line break. -/
def withBreak (gap : Gap) (c : Char) : Gap :=
  if gap.isBroken then { gap with further := c :: gap.further }
  else { isBroken := true, first := some c }

/-- The gap that an escaped line break begins. -/
def escapedBreak : Gap := { isBroken := true }

/-- What the gap stands for. -/
def text (gap : Gap) : List Char :=
  if gap.isBroken then
    match gap.first with
    | some '\n' => if gap.further.isEmpty then [' '] else gap.further.reverse
    | some c => c :: gap.further.reverse
    | none => gap.further.reverse
  else
    gap.blanks.reverse

end Gap

end KubeSchema.Yaml

import KubeSchema.Text.CaseTable

/-!
# Case mapping

The full case mapping of one character: `ß` has the uppercase `SS`, and a character without a
partner maps to itself. The mapping looks at no neighbouring character, so `Σ` always has the
lowercase `σ`. ASCII is decided by core's own mapping; the tables hold everything beyond it.
-/

namespace KubeSchema.Text

/-- The case partner of a code point within a run. -/
def CaseRun.partner? (run : CaseRun) (n : Nat) : Option Nat :=
  if run.first ≤ n ∧ n ≤ run.last ∧ (n - run.first) % run.stride = 0 then
    some (n + run.offset).toNat
  else
    none

/-- Maps a character by a pair of tables; the longer mappings win. -/
def mapCase (runs : List CaseRun) (expansions : List (Nat × List Nat)) (c : Char) : List Char :=
  match expansions.lookup c.toNat with
  | some codes => codes.map Char.ofNat
  | none =>
    match runs.findSome? (·.partner? c.toNat) with
    | some code => [Char.ofNat code]
    | none => [c]

/-- The uppercase of a character. -/
def upper (c : Char) : List Char :=
  if c.toNat < 0x80 then [c.toUpper] else mapCase upperRuns upperExpansions c

/-- The lowercase of a character. -/
def lower (c : Char) : List Char :=
  if c.toNat < 0x80 then [c.toLower] else mapCase lowerRuns lowerExpansions c

/-- Uppercases the first character and leaves the rest as it is. -/
def capitalizeChars : List Char → List Char
  | [] => []
  | c :: rest => upper c ++ rest

/-- Uppercases the first character and lowercases the rest. -/
def titleChars : List Char → List Char
  | [] => []
  | c :: rest => upper c ++ rest.flatMap lower

/-- Uppercases the first character of a text and leaves the rest as it is. -/
def capitalize (text : String) : String :=
  String.ofList (capitalizeChars text.toList)

@[simp] theorem toList_capitalize (text : String) :
    (capitalize text).toList = capitalizeChars text.toList := by
  simp [capitalize]

theorem upper_of_ascii {c : Char} (h : c.toNat < 0x80) : upper c = [c.toUpper] := by
  simp [upper, h]

theorem lower_of_ascii {c : Char} (h : c.toNat < 0x80) : lower c = [c.toLower] := by
  simp [lower, h]

end KubeSchema.Text

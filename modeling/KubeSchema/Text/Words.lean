/-!
# Cutting and joining texts

Splitting at separators, stripping a leading word and replacing a word, on lists of characters.
-/

namespace KubeSchema.Text

/-- The pieces of a text between the separators, the empty ones dropped. -/
def words (isSeparator : Char → Bool) (cs : List Char) : List (List Char) :=
  (cs.splitOnP isSeparator).filter (!·.isEmpty)

/-- The text after a leading word, if the text starts with it. -/
def stripLeading? (word text : String) : Option String :=
  (word.toList.isPrefixOf? text.toList).map String.ofList

/-- Replaces a word by another one, scanning from the left; `skip` characters of an occurrence
already replaced are still to be passed over. -/
def replaceFrom (word replacement : List Char) : Nat → List Char → List Char
  | _, [] => []
  | skip + 1, _ :: rest => replaceFrom word replacement skip rest
  | 0, c :: rest =>
    if word.isPrefixOf (c :: rest) then
      replacement ++ replaceFrom word replacement (word.length - 1) rest
    else
      c :: replaceFrom word replacement 0 rest

/-- Replaces every occurrence of a word that does not overlap an earlier one. -/
def replaceWord (word replacement cs : List Char) : List Char :=
  replaceFrom word replacement 0 cs

end KubeSchema.Text

import KubeSchema.Text.Case
import KubeSchema.Text.Words

/-!
# Names for models and properties

How the parts of a schema name become identifiers. A version shows its stability with a capital
(`v1beta1` gives `V1Beta1`), a group gives a qualifier that tells kinds of one name apart, and a
wire name loses its sigil (`$ref` gives `Ref`). Names without a sigil are only capitalized, so
`external_id` and `externalId` stay apart.
-/

namespace KubeSchema.Naming

open Text

/-- Between the words of a name with a sigil, and of a group label. -/
def isWordSeparator (c : Char) : Bool :=
  c == '-' || c == '_'

/-- Joins the capitalized words of a text. -/
def pascalChars (cs : List Char) : List Char :=
  (words isWordSeparator cs).flatMap capitalizeChars

/-- The display form of an API version: title case, with `alpha` and `beta` capitalized. -/
def versionQualifier (version : String) : String :=
  String.ofList <|
    replaceWord "beta".toList "Beta".toList <|
      replaceWord "alpha".toList "Alpha".toList <|
        titleChars version.toList

/-- The first label of a group as a qualifier; the core group gives `Core`. -/
def groupQualifier (group : String) : String :=
  match group.toList.takeWhile (· != '.') with
  | [] => "Core"
  | label => String.ofList (pascalChars label)

/-- Every label of a group, joined to a qualifier; the core group gives `Core`. -/
def fullGroupQualifier (group : String) : String :=
  match (group.toList.splitOn '.').flatMap pascalChars with
  | [] => "Core"
  | qualifier => String.ofList qualifier

/-- What follows the sigil of a wire name: all leading `$`, or one leading `x-`. -/
def afterSigil? : List Char → Option (List Char)
  | '$' :: rest => some (rest.dropWhile (· == '$'))
  | 'x' :: '-' :: rest => some rest
  | _ => none

/-- The identifier of a wire name. A name with a sigil loses it and joins its capitalized words,
unless nothing is left; any other name is capitalized. -/
def sanitizeChars (wire : List Char) : List Char :=
  match afterSigil? wire with
  | none => capitalizeChars wire
  | some rest =>
    match pascalChars rest with
    | [] => capitalizeChars wire
    | name => name

/-- The identifier of a wire name. -/
def sanitize (wire : String) : String :=
  String.ofList (sanitizeChars wire.toList)

/-- The last segment of a dotted name. -/
def lastSegment (name : String) : String :=
  String.ofList (name.toList.reverse.takeWhile (· != '.')).reverse

/-- Properties are emitted by their capitalized last segment, then by their wire name. -/
def emissionOrder (a b : String) : Ordering :=
  (compare (capitalize (lastSegment a)) (capitalize (lastSegment b))).then (compare a b)

end KubeSchema.Naming

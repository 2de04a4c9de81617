/-!
# Formats of schema sources

A source is a path or an address. The format of a file is told by the extension of its name: YAML by
`yaml` or `yml` in any case, and JSON by everything else.
-/

namespace KubeSchema

/-- The text format of a schema document. -/
inductive Format
  | json | yaml
  deriving DecidableEq, Repr, Inhabited

/-- Whether a source is an address rather than a path. -/
def isUrl (source : String) : Bool :=
  "http://".toList.isPrefixOf source.toList || "https://".toList.isPrefixOf source.toList

namespace Format

/-- The pieces of a path between slashes. -/
def pathPieces (path : String) : List String :=
  (path.toList.splitOn '/').map String.ofList

/-- The name of the file that a path leads to. Empty pieces and single points lead nowhere, and a path
that ends in a step upwards names no file. -/
def fileName? (path : String) : Option String :=
  match ((pathPieces path).filter fun piece => piece != "" && piece != ".").getLast? with
  | some ".." => none
  | name => name

/-- What follows the last point of a file name, unless the point comes first. -/
def extension? (name : String) : Option String :=
  let reversed := name.toList.reverse
  match reversed.dropWhile (· != '.') with
  | _ :: _ :: _ => some (String.ofList (reversed.takeWhile (· != '.')).reverse)
  | _ => none

/-- The format of the file that a path leads to. -/
def ofPath (path : String) : Format :=
  match ((fileName? path).bind extension?).map (·.map Char.toLower) with
  | some "yaml" | some "yml" => yaml
  | _ => json

/-- The format's name. -/
def name : Format → String
  | json => "json"
  | yaml => "yaml"

end Format

end KubeSchema

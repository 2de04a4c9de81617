import KubeSchema.Document.Basic
import KubeSchema.Naming

/-!
# Identities and generated names

The kind, group and version of a definition, and the names that its model may have. The first name that
no earlier definition holds is taken; the later choices add a qualifier of the group.
-/

namespace KubeSchema

/-- Kind, group and version of a definition. -/
structure Identity where
  kind : String
  group : String
  apiVersion : String
  deriving DecidableEq, Repr

namespace Identity

/-- The identity that a dotted name gives: the last segment is the kind, the one before it the version,
and the one before that the group, where `core` is the core group. -/
def ofName (definitionName : String) : Identity :=
  match ((definitionName.toList.splitOn '.').map String.ofList).reverse with
  | [] => ⟨"", "", ""⟩
  | [kind] => ⟨Text.capitalize kind, "", ""⟩
  | [kind, version] => ⟨Text.capitalize kind, "", version⟩
  | kind :: version :: group :: _ =>
    ⟨Text.capitalize kind, if group = "core" then "" else group, version⟩

/-- The identity of a definition: the first type it says it stands for, or else what its name says. -/
def ofDefinition (name : String) (definition : Definition) : Identity :=
  match definition.gvks with
  | gvk :: _ => ⟨gvk.kind, gvk.group, gvk.version⟩
  | [] => ofName name

/-- The version as it stands in generated names. -/
def qualifier (identity : Identity) : String :=
  Naming.versionQualifier identity.apiVersion

/-- The preferred name: kind and version. -/
def plainName (identity : Identity) : String :=
  identity.kind ++ identity.qualifier

/-- The names to fall back on, with a qualifier of the group between kind and version: its first label,
or all its labels where they say more. -/
def qualifiedNames (identity : Identity) : List String :=
  let short := Naming.groupQualifier identity.group
  let full := Naming.fullGroupQualifier identity.group
  let name (group : String) := identity.kind ++ group ++ identity.qualifier
  if full = short then [name short] else [name short, name full]

end Identity

/-- The names given so far, each with the definition that holds it. -/
abbrev ClaimedNames := Table String String

/-- The first free one of some names. If none is free, the last one and its holder. -/
def ClaimedNames.firstFree (claimed : ClaimedNames) (name : String) :
    List String → Except (String × String) String
  | [] =>
    match claimed.lookup? name with
    | none => .ok name
    | some holder => .error (name, holder)
  | next :: rest =>
    match claimed.lookup? name with
    | none => .ok name
    | some _ => ClaimedNames.firstFree claimed next rest

end KubeSchema

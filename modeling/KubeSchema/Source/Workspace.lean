import KubeSchema.Source.Load
import KubeSchema.Source.Place

/-!
# Workspaces

A directory with everything below it, as a value: files are read from it and written to it by path.
Paths are walked piece by piece, and all but the last have to lead to a directory. Where a path leads out
of the workspace, it finds what every system has, and what has been put there.
-/

namespace KubeSchema

/-- What stands at a place. -/
inductive WorkspaceEntry
  | file (bytes : ByteArray)
  | directory
  /-- A device that is empty whenever it is read, and drops what is written to it. -/
  | sink

/-- The directories at the root of every system. -/
def systemDirectories : List String :=
  ["bin", "boot", "dev", "etc", "home", "lib", "media", "mnt", "opt", "proc", "root", "run", "sbin",
    "srv", "sys", "tmp", "usr", "var"]

/-- What stands at a place in every system. -/
def Place.common? (place : Place) : Option WorkspaceEntry :=
  match place.origin, place.names with
  | _, [] => some .directory
  | .root, [name] => if systemDirectories.contains name then some .directory else none
  | .root, ["dev", "null"] => some .sink
  | _, _ => none

/-- What has been put into a workspace, and around it. -/
structure Workspace where
  entries : List (Place × WorkspaceEntry)
  deriving Inhabited

namespace Workspace

/-! ## Places -/

/-- What stands at a place. -/
def at? (workspace : Workspace) (place : Place) : Option WorkspaceEntry :=
  place.common?.or (workspace.entries.lookup place)

/-- Goes one piece further from a directory. The place reached need not exist. -/
def step (workspace : Workspace) (place : Place) (piece : String) : Except FileFault Place :=
  match workspace.at? place with
  | none => .error .notFound
  | some .directory =>
    if nameLimit < piece.utf8ByteSize then .error .nameTooLong else .ok (place.step piece)
  | some _ => .error .notADirectory

/-- The place that the pieces of a path lead to. -/
def follow (workspace : Workspace) (path : String) (pieces : List String) : Except FileFault Place :=
  if path.isEmpty then .error .notFound
  else if pathLimit < path.utf8ByteSize then .error .nameTooLong
  else
    let start : Place := if path.toList.head? = some '/' then ⟨.root, []⟩ else .workspace
    pieces.foldlM workspace.step start

/-- The place that a path leads to. -/
def walk (workspace : Workspace) (path : String) : Except FileFault Place :=
  workspace.follow path (Format.pathPieces path)

/-! ## Reading -/

/-- What is found when a path is read. -/
def read (workspace : Workspace) (path : String) : FileContent :=
  match workspace.walk path with
  | .error _ => .missing
  | .ok place =>
    match workspace.at? place with
    | none => .missing
    | some .directory => .failed .isADirectory
    | some .sink => .text ""
    | some (.file bytes) => .ofBytes bytes

/-- The text of the file at a path, if it is there and is a text. -/
def text? (workspace : Workspace) (path : String) : Option String :=
  match workspace.read path with
  | .text content => some content
  | _ => none

/-! ## Writing -/

/-- The workspace with an entry at a place, in place of what stood there. -/
def put (workspace : Workspace) (place : Place) (entry : WorkspaceEntry) : Workspace :=
  ⟨(place, entry) :: workspace.entries.filter (·.1 ≠ place)⟩

/-- The pieces on the way to the directory that the last name of a path lies in. The empty one at the
end says that it is one. -/
def parentPieces (path : String) : List String :=
  let backwards := (Format.pathPieces path).reverse.dropWhile (· == "")
  (backwards.drop 1).reverse ++ [""]

/-- The workspace after a text has been written to the file at a path. A path that ends with a slash names
a directory, whatever stands there. -/
def write (workspace : Workspace) (path text : String) : Except FileFault Workspace := do
  if path.toList.getLast? = some '/' then
    let _ ← workspace.follow path (parentPieces path)
    throw .isADirectory
  else
    let place ← workspace.walk path
    match workspace.at? place with
    | some .directory => throw .isADirectory
    | some .sink => return workspace
    | some (.file _) | none => return workspace.put place (.file text.toUTF8)

/-! ## Filling -/

/-- Goes one piece further, and makes a directory there. -/
def enter (reached : Workspace × Place) (piece : String) : Workspace × Place :=
  let (workspace, place) := reached
  let next := place.step piece
  match workspace.at? next with
  | some _ => (workspace, next)
  | none => (workspace.put next .directory, next)

/-- The workspace with a file of some bytes at a path, or with a directory. The directories on the way are
made. -/
def add (workspace : Workspace) (path : String) (bytes : Option ByteArray) : Workspace :=
  let pieces := Format.pathPieces path
  match bytes, pieces.getLast? with
  | some bytes, some name =>
    let (workspace, place) := pieces.dropLast.foldl enter (workspace, .workspace)
    workspace.put (place.step name) (.file bytes)
  | _, _ => (pieces.foldl enter (workspace, .workspace)).1

/-- The workspace with some files and directories, given by their paths one after another. -/
def ofFiles (files : List (String × Option ByteArray)) : Workspace :=
  files.foldl (fun workspace (path, bytes) => workspace.add path bytes) ⟨[]⟩

end Workspace

end KubeSchema

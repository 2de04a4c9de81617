/-!
# Places

A place in a file system is told by the names on the way down from a directory that is known: the
workspace, a directory above it, or the root of the system. The pieces of a path lead from place to place.
-/

namespace KubeSchema

/-- Where names start. -/
inductive Origin
  /-- The directory that lies so many steps above the workspace. -/
  | above (steps : Nat)
  /-- The root of the system. -/
  | root
  deriving DecidableEq, Repr

/-- A place: where names start, and the names on the way down. -/
structure Place where
  origin : Origin
  names : List String
  deriving DecidableEq, Repr

namespace Place

/-- The workspace itself. -/
def workspace : Place := ⟨.above 0, []⟩

/-- The directory that a place lies in. The root lies in itself. -/
def parent (place : Place) : Place :=
  match place.names, place.origin with
  | [], .above steps => ⟨.above (steps + 1), []⟩
  | [], .root => place
  | names, origin => ⟨origin, names.dropLast⟩

/-- The place of a name in a directory. -/
def child (place : Place) (name : String) : Place :=
  { place with names := place.names ++ [name] }

/-- Goes one piece of a path further. -/
def step (place : Place) (piece : String) : Place :=
  if piece = "" ∨ piece = "." then place
  else if piece = ".." then place.parent
  else place.child piece

/-- Going up from a name in a directory leads back to the directory. -/
@[simp] theorem parent_child (place : Place) (name : String) : (place.child name).parent = place := by
  obtain ⟨origin, names⟩ := place
  simp only [child, parent]
  split
  · next h => simp at h
  · next h => simp at h
  · simp

end Place

/-- The greatest number of octets in a path. -/
def pathLimit : Nat := 4095

/-- The greatest number of octets in a name. -/
def nameLimit : Nat := 255

end KubeSchema

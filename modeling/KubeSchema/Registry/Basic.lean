import KubeSchema.Graph
import KubeSchema.Options

/-!
# The type registry

Types are descriptors in slots, addressed by handles. There is one descriptor for each built-in type
and one for each referenced name; wrappers for arrays and maps are new each time. A name that is
referenced before a model is bound to it gets a pending descriptor, which binding fills in place, so
every handle given out before stays good. Slots are only ever added.
-/

namespace KubeSchema

/-- The built-in types. -/
inductive Intrinsic
  | string | boolean | int32 | int64 | float | double | dateTime
  /-- An integer or a string. -/
  | intOrString
  /-- Any JSON value. -/
  | object
  /-- The options of a deletion. -/
  | deleteOptions
  deriving DecidableEq, Repr

namespace Intrinsic

/-- The type's name in listings. -/
def name : Intrinsic → String
  | string => "string"
  | boolean => "boolean"
  | int32 => "int32"
  | int64 => "int64"
  | float => "float"
  | double => "double"
  | dateTime => "date-time"
  | intOrString => "int-or-string"
  | object => "object"
  | deleteOptions => "delete-options"

/-- The built-in type of a primitive type name and a format. A format that means nothing for the
primitive is passed over. -/
def ofPrimitive? (typeName : String) (format : Option String) : Option Intrinsic :=
  match typeName with
  | "integer" => some (if format = some "int64" then int64 else int32)
  | "number" => some (if format = some "float" then float else double)
  | "string" =>
    some (if format = some "date-time" then dateTime
      else if format = some "int-or-string" then intOrString
      else string)
  | "boolean" => some boolean
  | _ => none

end Intrinsic

/-- Where a reference to a model stands. -/
inductive ModelLink
  | bound (model : ModelId)
  /-- No model has been bound to the name yet; the definition referred to it first. -/
  | pending (name referencedBy : String)
  deriving DecidableEq, Repr

/-- A type, up to the handles of its parts. -/
inductive Descriptor
  | intrinsic (type : Intrinsic)
  | array (element : Handle)
  /-- A map with string keys. -/
  | map (element : Handle)
  | model (link : ModelLink)
  deriving DecidableEq, Repr

namespace Descriptor

/-- Whether the type is built in. -/
def isIntrinsic : Descriptor → Bool
  | intrinsic _ => true
  | _ => false

/-- Whether the type is an array or a map. -/
def isCollection : Descriptor → Bool
  | array _ | map _ => true
  | _ => false

/-- The built-in type. -/
def intrinsic? : Descriptor → Option Intrinsic
  | intrinsic type => some type
  | _ => none

/-- The element type of an array or a map. -/
def element? : Descriptor → Option Handle
  | array element | map element => some element
  | _ => none

/-- The model of a bound reference. -/
def model? : Descriptor → Option ModelId
  | model (.bound id) => some id
  | _ => none

end Descriptor

/-- The types of one compilation. -/
structure Registry where
  slots : List Descriptor
  /-- The slots of the built-in types. -/
  intrinsics : List (Intrinsic × Handle)
  /-- The slots of the referenced names. -/
  names : Table String Handle
  /-- The slots that further names of a model share. -/
  models : List (ModelId × Handle)
  /-- Whether unknown names are refused. -/
  isSealed : Bool
  deriving DecidableEq

namespace Registry

/-- The registry without types. -/
def empty : Registry := ⟨[], [], Table.empty, [], false⟩

/-- The number of types. -/
def size (registry : Registry) : Nat := registry.slots.length

/-- The descriptor of a handle. -/
def descriptor? (registry : Registry) (handle : Handle) : Option Descriptor :=
  registry.slots[handle.index]?

/-- The handle of a name. -/
def lookup? (registry : Registry) (name : String) : Option Handle :=
  registry.names.lookup? name

/-- Adds a descriptor. -/
def push (registry : Registry) (descriptor : Descriptor) : Handle × Registry :=
  (⟨registry.size⟩, { registry with slots := registry.slots ++ [descriptor] })

/-- The handle of a built-in type, which is added if it is not there yet. -/
def intrinsic (registry : Registry) (type : Intrinsic) : Handle × Registry :=
  match registry.intrinsics.lookup type with
  | some handle => (handle, registry)
  | none =>
    let (handle, registry) := registry.push (.intrinsic type)
    (handle, { registry with intrinsics := (type, handle) :: registry.intrinsics })

/-- Gives a handle to a name. -/
def withName (registry : Registry) (name : String) (handle : Handle) : Registry :=
  { registry with names := registry.names.insert name handle }

/-- Lets further names of a model share a handle, unless they share another one already. -/
def sharing (registry : Registry) (model : ModelId) (handle : Handle) : Registry :=
  match registry.models.lookup model with
  | some _ => registry
  | none => { registry with models := (model, handle) :: registry.models }

/-- The definitions that stand for built-in types. -/
def wellKnown : List (String × Intrinsic) :=
  [(WellKnown.time, .dateTime), (WellKnown.microTime, .dateTime),
    (WellKnown.intOrString, .intOrString), (WellKnown.quantity, .string),
    (WellKnown.deleteOptions, .deleteOptions)]

/-- Gives a name to a built-in type. -/
def seed (registry : Registry) (entry : String × Intrinsic) : Registry :=
  let (handle, registry) := registry.intrinsic entry.2
  registry.withName entry.1 handle

/-- The registry in which the well-known definitions have their built-in types. -/
def initial : Registry :=
  wellKnown.foldl seed empty

instance : Inhabited Registry := ⟨initial⟩

/-- Binds a name to a model. A pending name is filled in place, and a name with a type keeps it. All
other names of one model share a descriptor. -/
def bindModel (registry : Registry) (name : String) (model : ModelId) : Handle × Registry :=
  match registry.lookup? name with
  | some handle =>
    match registry.descriptor? handle with
    | some (.model (.pending _ _)) =>
      let slots := registry.slots.set handle.index (.model (.bound model))
      (handle, { registry with slots }.sharing model handle)
    | _ => (handle, registry)
  | none =>
    match registry.models.lookup model with
    | some handle => (handle, registry.withName name handle)
    | none =>
      let (handle, registry) := registry.push (.model (.bound model))
      (handle, (registry.sharing model handle).withName name handle)

end Registry

end KubeSchema

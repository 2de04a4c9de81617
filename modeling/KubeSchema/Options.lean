/-!
# Compilation options

Which definitions are left out, and which ones mark resources and resource lists when used as
`metadata`. The names of the well-known definitions stand here as well.
-/

namespace KubeSchema

namespace WellKnown

/-- Timestamps. -/
def time : String := "io.k8s.apimachinery.pkg.apis.meta.v1.Time"

/-- Timestamps with microseconds. -/
def microTime : String := "io.k8s.apimachinery.pkg.apis.meta.v1.MicroTime"

/-- Values that are an integer or a string. -/
def intOrString : String := "io.k8s.apimachinery.pkg.util.intstr.IntOrString"

/-- Quantities of any precision, written as strings. -/
def quantity : String := "io.k8s.apimachinery.pkg.api.resource.Quantity"

/-- Options of a deletion. -/
def deleteOptions : String := "io.k8s.apimachinery.pkg.apis.meta.v1.DeleteOptions"

/-- Metadata of a single object. -/
def objectMeta : String := "io.k8s.apimachinery.pkg.apis.meta.v1.ObjectMeta"

/-- Metadata of a list of objects. -/
def listMeta : String := "io.k8s.apimachinery.pkg.apis.meta.v1.ListMeta"

end WellKnown

/-- The choices of one compilation. -/
structure Options where
  /-- Definitions that are passed over. -/
  ignored : List String
  /-- The definition whose use as `metadata` marks a resource. -/
  objectMeta : String
  /-- The definition whose use as `metadata` marks a resource list. -/
  listMeta : String
  deriving DecidableEq, Repr

namespace Options

/-- The definitions that are passed over unless asked for: references to them are references to
built-in types. -/
def stockIgnored : List String :=
  [WellKnown.time, WellKnown.microTime, WellKnown.quantity, WellKnown.intOrString,
    WellKnown.deleteOptions]

/-- The options of a compilation that makes no choices. -/
def standard : Options := ⟨stockIgnored, WellKnown.objectMeta, WellKnown.listMeta⟩

instance : Inhabited Options := ⟨standard⟩

/-- Passes over no definition. -/
def ignoringNothing (options : Options) : Options :=
  { options with ignored := [] }

/-- Passes over one more definition. -/
def ignoring (options : Options) (name : String) : Options :=
  { options with ignored := name :: options.ignored }

/-- Whether a definition is passed over. -/
def isIgnored (options : Options) (name : String) : Bool :=
  options.ignored.contains name

end Options

end KubeSchema

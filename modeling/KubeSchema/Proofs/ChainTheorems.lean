import KubeSchema.Registry.Resolve
import KubeSchema.Registry.TypeTree
import Mathlib.Tactic.Lemma

/-!
# The chain of a schema

A schema holds at most one further schema that matters for its type: the items of an array or the
values of a map. Resolving follows this chain inwards until it stops, and wraps what it found there
on the way back. So a schema is, as far as its type goes, a list of wrappers and a stop:

* `PropertySchema.denote` is the type a schema stands for, by recursion on the schema alone;
* `resolve_eq` and `denote_eq` read the resolver and the meaning off wrappers and stop, so that
  everything else about either is an induction on a list.
-/

namespace KubeSchema

/-! ## Wrappers and stops -/

/-- What an array or a map puts around the type of its elements. -/
inductive Wrapper
  | array | map
  deriving DecidableEq, Repr

namespace Wrapper

/-- The wrapper around a handle. -/
def descriptor : Wrapper → Handle → Descriptor
  | array => .array
  | map => .map

/-- The wrapper around a tree. -/
def tree : Wrapper → TypeTree → TypeTree
  | array => .array
  | map => .map

end Wrapper

/-- Where a chain stops. -/
inductive ChainStop
  | reference (name : String)
  | intrinsic (type : Intrinsic)
  | arrayWithoutItems
  | unsupportedType (typeName : String)
  deriving DecidableEq, Repr

namespace ChainStop

/-- The fault of a property whose chain stops here. -/
def fault? (property : String) : ChainStop → Option DefinitionFault
  | arrayWithoutItems => some (.arrayWithoutItems property)
  | unsupportedType typeName => some (.unsupportedType property typeName)
  | _ => none

/-- The type found here, where `reference` gives the types of names. -/
def denote (reference : String → Option TypeTree) : ChainStop → Option TypeTree
  | .reference name => reference name
  | .intrinsic type => some (.intrinsic type)
  | _ => none

end ChainStop

namespace PropertySchema

/-- The type a schema stands for, where `reference` gives the types of names. A reference outranks
everything else, then the mark for an integer or a string, then the type name; without any of them
the schema stands for an object. -/
def denote (reference : String → Option TypeTree) (schema : PropertySchema) : Option TypeTree :=
  match schema with
  | { reference := ref, intOrString, typeName, format, items, additional, .. } =>
    match ref with
    | some ref => reference (referenceName ref)
    | none =>
      if intOrString then some (.intrinsic .intOrString)
      else
        match typeName with
        | none => some (.intrinsic .object)
        | some "array" =>
          match items with
          | some items => (items.denote reference).map .array
          | none => none
        | some "object" =>
          match additional with
          | some (.schema value) => (value.denote reference).map .map
          | some (.allowed true) => some (.map (.intrinsic .object))
          | _ => some (.intrinsic .object)
        | some typeName => (Intrinsic.ofPrimitive? typeName format).map .intrinsic
termination_by structural schema

/-- The wrappers along the chain, the outermost first. -/
def wrappers (schema : PropertySchema) : List Wrapper :=
  match schema with
  | { reference, intOrString, typeName, items, additional, .. } =>
    match reference with
    | some _ => []
    | none =>
      if intOrString then []
      else
        match typeName with
        | some "array" =>
          match items with
          | some items => .array :: items.wrappers
          | none => []
        | some "object" =>
          match additional with
          | some (.schema value) => .map :: value.wrappers
          | some (.allowed true) => [.map]
          | _ => []
        | _ => []
termination_by structural schema

/-- Where the chain stops. -/
def stop (schema : PropertySchema) : ChainStop :=
  match schema with
  | { reference, intOrString, typeName, format, items, additional, .. } =>
    match reference with
    | some reference => .reference (referenceName reference)
    | none =>
      if intOrString then .intrinsic .intOrString
      else
        match typeName with
        | none => .intrinsic .object
        | some "array" =>
          match items with
          | some items => items.stop
          | none => .arrayWithoutItems
        | some "object" =>
          match additional with
          | some (.schema value) => value.stop
          | _ => .intrinsic .object
        | some typeName =>
          match Intrinsic.ofPrimitive? typeName format with
          | some type => .intrinsic type
          | none => .unsupportedType typeName
termination_by structural schema

end PropertySchema

namespace PropertySchema

variable {schema : PropertySchema} {reference : String}

/-- A chain stops at a reference at once. -/
lemma stop_of_reference (h : schema.reference = some reference) :
    schema.stop = .reference (referenceName reference) := by
  cases schema
  subst h
  unfold stop
  rfl

lemma wrappers_of_reference (h : schema.reference = some reference) : schema.wrappers = [] := by
  cases schema
  subst h
  unfold wrappers
  rfl

end PropertySchema

/-! ## Resolving along the chain -/

namespace Registry

/-- Resolves the stop of a chain. -/
def resolveStop (registry : Registry) (context : Context) : ChainStop → Outcome Handle
  | .reference name => registry.resolveReference context name
  | .intrinsic type => succeed (registry.intrinsic type)
  | .arrayWithoutItems => registry.refuse context (.arrayWithoutItems context.property)
  | .unsupportedType typeName =>
    registry.refuse context (.unsupportedType context.property typeName)

/-- Puts wrappers around what a step gave, the last one first. -/
def wrapAll (wrappers : List Wrapper) (outcome : Outcome Handle) : Outcome Handle :=
  wrappers.foldr (fun wrapper outcome => wrap outcome wrapper.descriptor) outcome

@[simp] theorem wrapAll_nil (outcome : Outcome Handle) : wrapAll [] outcome = outcome := rfl

@[simp] theorem wrapAll_cons (wrapper : Wrapper) (rest : List Wrapper) (outcome : Outcome Handle) :
    wrapAll (wrapper :: rest) outcome = wrap (wrapAll rest outcome) wrapper.descriptor := rfl

/-- A failed step stays as it is under all wrappers. -/
@[simp] theorem wrapAll_error (wrappers : List Wrapper) (error : CompileError)
    (registry : Registry) :
    wrapAll wrappers (.error error, registry) = (.error error, registry) := by
  induction wrappers with
  | nil => rfl
  | cons wrapper rest ih => rw [wrapAll_cons, ih]; rfl

/-- Resolving a schema is resolving the stop of its chain, and wrapping the result. -/
theorem resolve_eq (registry : Registry) (context : Context) (schema : PropertySchema) :
    registry.resolve context schema
      = wrapAll schema.wrappers (registry.resolveStop context schema.stop) := by
  induction schema using Registry.resolve.induct with
  | case1 => rfl
  | case2 =>
    unfold resolve PropertySchema.wrappers PropertySchema.stop
    rfl
  | case3 _ _ _ _ _ _ _ unmarked =>
    simp [resolve, PropertySchema.wrappers, PropertySchema.stop, resolveStop, unmarked]
  | case4 _ _ _ _ _ _ unmarked items ih =>
    -- an array: one wrapper more than its items
    simp [resolve, PropertySchema.wrappers, PropertySchema.stop, unmarked, ih, Wrapper.descriptor]
  | case5 _ _ _ _ _ _ unmarked =>
    simp [resolve, PropertySchema.wrappers, PropertySchema.stop, resolveStop, unmarked]
  | case6 _ _ _ _ _ _ unmarked value ih =>
    -- a map: one wrapper more than its values
    simp [resolve, PropertySchema.wrappers, PropertySchema.stop, unmarked, ih, Wrapper.descriptor]
  | case7 _ _ _ _ _ _ unmarked =>
    simp [resolve, PropertySchema.wrappers, PropertySchema.stop, resolveStop, unmarked,
      Wrapper.descriptor]
  | case8 _ _ _ _ _ _ _ unmarked noSchema notAny =>
    simp_all [resolve, PropertySchema.wrappers, PropertySchema.stop, resolveStop]
  | case9 _ _ _ _ _ _ _ unmarked typeName noArray noObject type primitive =>
    simp_all [resolve, PropertySchema.wrappers, PropertySchema.stop, resolveStop]
  | case10 _ _ _ _ _ _ _ unmarked typeName noArray noObject unknown =>
    simp_all [resolve, PropertySchema.wrappers, PropertySchema.stop, resolveStop]

end Registry

/-- The type of a schema is the type of its stop inside its wrappers. -/
theorem PropertySchema.denote_eq (reference : String → Option TypeTree) (schema : PropertySchema) :
    schema.denote reference
      = (schema.stop.denote reference).map (schema.wrappers.foldr Wrapper.tree) := by
  induction schema using Registry.resolve.induct with
  | case1 => simp [denote, wrappers, stop, ChainStop.denote]
  | case2 =>
    unfold denote wrappers stop
    rfl
  | case3 _ _ _ _ _ _ _ unmarked => simp [denote, wrappers, stop, ChainStop.denote, unmarked]
  | case4 _ _ _ _ _ _ unmarked items ih =>
    simp [denote, wrappers, stop, unmarked, ih, Wrapper.tree, Function.comp_def]
  | case5 _ _ _ _ _ _ unmarked => simp [denote, wrappers, stop, ChainStop.denote, unmarked]
  | case6 _ _ _ _ _ _ unmarked value ih =>
    simp [denote, wrappers, stop, unmarked, ih, Wrapper.tree, Function.comp_def]
  | case7 _ _ _ _ _ _ unmarked =>
    simp [denote, wrappers, stop, ChainStop.denote, unmarked, Wrapper.tree]
  | case8 _ _ _ _ _ _ _ unmarked noSchema notAny =>
    simp_all [denote, wrappers, stop, ChainStop.denote]
  | case9 _ _ _ _ _ _ _ unmarked typeName noArray noObject type primitive =>
    simp_all [denote, wrappers, stop, ChainStop.denote]
  | case10 _ _ _ _ _ _ _ unmarked typeName noArray noObject unknown =>
    simp_all [denote, wrappers, stop, ChainStop.denote]

end KubeSchema

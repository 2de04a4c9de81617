/-!
# Group, version and kind

The triple that identifies one type of API objects, ordered by group, then version, then kind.
-/

namespace KubeSchema

/-- Group, version and kind of an API object type. The core group is empty. -/
structure Gvk where
  group : String
  version : String
  kind : String
  deriving DecidableEq, Repr, Inhabited

namespace Gvk

instance : Ord Gvk where
  compare := compareLex (compareOn group) (compareLex (compareOn version) (compareOn kind))

instance : Std.TransOrd Gvk :=
  inferInstanceAs (Std.TransCmp
    (compareLex (compareOn group) (compareLex (compareOn version) (compareOn kind))))

instance : Std.LawfulEqOrd Gvk where
  eq_of_compare {a b} h := by
    obtain ⟨hg, hvk⟩ := Ordering.then_eq_eq.1 h
    obtain ⟨hv, hk⟩ := Ordering.then_eq_eq.1 hvk
    cases a; cases b
    simp only [Gvk.mk.injEq]
    exact ⟨Std.LawfulEqOrd.eq_of_compare hg, Std.LawfulEqOrd.eq_of_compare hv,
      Std.LawfulEqOrd.eq_of_compare hk⟩

/-- The `apiVersion` that objects of this type carry. -/
def apiVersion (gvk : Gvk) : String :=
  if gvk.group.isEmpty then gvk.version else gvk.group ++ "/" ++ gvk.version

/-- The triple as one text. -/
def display (gvk : Gvk) : String :=
  gvk.apiVersion ++ "/" ++ gvk.kind

end Gvk

end KubeSchema

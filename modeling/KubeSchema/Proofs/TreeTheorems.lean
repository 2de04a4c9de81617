import KubeSchema.Proofs.RegistryTheorems
import Mathlib.Order.Basic

/-!
# Trees of handles

`tree?` follows handles for as many steps as the handle's own position allows. In a coherent
registry elements come first, so that is always enough: the tree of a handle is read off its slot
and the trees of its elements (`tree?_of_wrapper` and its companions), and every handle in use has
one. Trees stay what they are while slots are added.
-/

namespace KubeSchema

namespace Registry

variable {registry : Registry} {handle : Handle} {descriptor : Descriptor} {tree : TypeTree}

/-! ## Adding slots -/

lemma treeWithin_extends {before after : Registry} (ext : before.Extends after) (depth : Nat) :
    ∀ {handle : Handle} {tree : TypeTree}, before.treeWithin depth handle = some tree →
      after.treeWithin depth handle = some tree := by
  induction depth with
  | zero => intro handle tree h; cases h
  | succ depth ih =>
    intro handle tree h
    rw [treeWithin] at h ⊢
    cases holds : before.descriptor? handle with
    | none => rw [holds] at h; cases h
    | some descriptor =>
      rw [ext.descriptor? holds]
      rw [holds] at h
      rcases descriptor with type | element | element | (id | ⟨name, definition⟩)
      · exact h
      · obtain ⟨inner, hinner, htree⟩ := Option.map_eq_some_iff.1 h
        exact Option.map_eq_some_iff.2 ⟨inner, ih hinner, htree⟩
      · obtain ⟨inner, hinner, htree⟩ := Option.map_eq_some_iff.1 h
        exact Option.map_eq_some_iff.2 ⟨inner, ih hinner, htree⟩
      · exact h
      · exact h

/-- A type keeps its tree. -/
theorem Extends.tree? {before after : Registry} (ext : before.Extends after)
    (h : before.tree? handle = some tree) : after.tree? handle = some tree :=
  treeWithin_extends ext _ h

/-- The handle that so many steps from a type to its elements lead to. -/
def elementAt? (registry : Registry) : Nat → Handle → Option Handle
  | 0, handle => some handle
  | depth + 1, handle =>
    ((registry.descriptor? handle).bind Descriptor.element?).bind (registry.elementAt? depth)

/-- A type keeps its elements. -/
lemma Extends.elementAt? {before after : Registry} (ext : before.Extends after) {depth : Nat}
    {inner : Handle} (h : before.elementAt? depth handle = some inner) :
    after.elementAt? depth handle = some inner := by
  induction depth generalizing handle with
  | zero => exact h
  | succ depth ih =>
    rw [Registry.elementAt?] at h ⊢
    obtain ⟨element, helement, hinner⟩ := Option.bind_eq_some_iff.1 h
    obtain ⟨descriptor, holds, hdescriptor⟩ := Option.bind_eq_some_iff.1 helement
    rw [ext.descriptor? holds, Option.bind_some, hdescriptor, Option.bind_some]
    exact ih hinner

/-! ## Reading a tree off its slot -/

/-- More steps than the position of a handle change nothing. -/
lemma treeWithin_eq_tree? (coherent : registry.Coherent) {depth : Nat} (h : handle.index < depth) :
    registry.treeWithin depth handle = registry.tree? handle := by
  induction depth using Nat.strong_induction_on generalizing handle with
  | _ depth ih =>
    obtain ⟨rest, rfl⟩ : ∃ rest, depth = rest + 1 := ⟨depth - 1, by omega⟩
    rw [tree?, treeWithin, treeWithin]
    cases holds : registry.descriptor? handle with
    | none => rfl
    | some descriptor =>
      -- both sides follow the elements with enough steps, so the induction applies to each
      have element : ∀ e, descriptor.element? = some e →
          registry.treeWithin rest e = registry.treeWithin handle.index e := by
        intro e he
        have lt := coherent.element _ _ _ holds he
        rcases Nat.lt_or_ge handle.index rest with hlt | hge
        · rw [ih rest (by omega) (by omega), ih handle.index (by omega) lt]
        · rw [show rest = handle.index by omega]
      rcases descriptor with type | e | e | (id | ⟨name, definition⟩)
      · rfl
      · simp only [element e rfl]
      · simp only [element e rfl]
      · rfl
      · rfl

lemma tree?_of_intrinsic {type : Intrinsic}
    (holds : registry.descriptor? handle = some (.intrinsic type)) :
    registry.tree? handle = some (.intrinsic type) := by
  rw [tree?, treeWithin, holds]

lemma tree?_of_bound {id : ModelId}
    (holds : registry.descriptor? handle = some (.model (.bound id))) :
    registry.tree? handle = some (.model id) := by
  rw [tree?, treeWithin, holds]

lemma tree?_of_pending {name definition : String}
    (holds : registry.descriptor? handle = some (.model (.pending name definition))) :
    registry.tree? handle = some (.pending name) := by
  rw [tree?, treeWithin, holds]

lemma tree?_of_wrapper (coherent : registry.Coherent) {wrapper : Wrapper} {element : Handle}
    (holds : registry.descriptor? handle = some (wrapper.descriptor element)) :
    registry.tree? handle = (registry.tree? element).map wrapper.tree := by
  have lt : element.index < handle.index :=
    coherent.element _ _ _ holds (by cases wrapper <;> rfl)
  rw [← treeWithin_eq_tree? coherent lt, tree?, treeWithin, holds]
  cases wrapper <;> rfl

/-! ## Reading a slot off its tree -/

/-- A descriptor shows as a tree: it has the same root, and its elements have the same trees. -/
inductive Shows (registry : Registry) : Descriptor → TypeTree → Prop
  | intrinsic (type : Intrinsic) : Shows registry (.intrinsic type) (.intrinsic type)
  | array {element : Handle} {inner : TypeTree} (h : registry.tree? element = some inner) :
    Shows registry (.array element) (.array inner)
  | map {element : Handle} {inner : TypeTree} (h : registry.tree? element = some inner) :
    Shows registry (.map element) (.map inner)
  | bound (id : ModelId) : Shows registry (.model (.bound id)) (.model id)
  | pending (name definition : String) :
    Shows registry (.model (.pending name definition)) (.pending name)

theorem shows_of_tree? (coherent : registry.Coherent) (h : registry.tree? handle = some tree) :
    ∃ descriptor, registry.descriptor? handle = some descriptor ∧
      registry.Shows descriptor tree := by
  cases holds : registry.descriptor? handle with
  | none =>
    rw [tree?, treeWithin, holds] at h
    cases h
  | some descriptor =>
    refine ⟨descriptor, rfl, ?_⟩
    rcases descriptor with type | element | element | (id | ⟨name, definition⟩)
    · rw [tree?_of_intrinsic holds] at h
      cases h
      exact .intrinsic type
    · have wrapped : registry.descriptor? handle = some (Wrapper.array.descriptor element) := holds
      rw [tree?_of_wrapper coherent wrapped] at h
      obtain ⟨inner, hinner, rfl⟩ := Option.map_eq_some_iff.1 h
      exact .array hinner
    · have wrapped : registry.descriptor? handle = some (Wrapper.map.descriptor element) := holds
      rw [tree?_of_wrapper coherent wrapped] at h
      obtain ⟨inner, hinner, rfl⟩ := Option.map_eq_some_iff.1 h
      exact .map hinner
    · rw [tree?_of_bound holds] at h
      cases h
      exact .bound id
    · rw [tree?_of_pending holds] at h
      cases h
      exact .pending name definition

/-- Every handle in use has a tree. -/
theorem tree?_isSome (coherent : registry.Coherent) (inUse : handle.index < registry.size) :
    ∃ tree, registry.tree? handle = some tree := by
  obtain ⟨index⟩ := handle
  induction index using Nat.strong_induction_on with
  | _ index ih =>
    have holds : registry.descriptor? ⟨index⟩ = some registry.slots[index] :=
      List.getElem?_eq_getElem inUse
    -- elements come first and are in use, so the induction gives them trees
    have wrapped : ∀ (wrapper : Wrapper) (element : Handle),
        registry.slots[index] = wrapper.descriptor element →
          ∃ tree, registry.tree? ⟨index⟩ = some tree := by
      intro wrapper element heq
      rw [heq] at holds
      have helement : (wrapper.descriptor element).element? = some element := by
        cases wrapper <;> rfl
      obtain ⟨inner, hinner⟩ := ih element.index (coherent.element _ _ _ holds helement)
        (coherent.element_lt_size holds helement)
      exact ⟨wrapper.tree inner, by rw [tree?_of_wrapper coherent holds, hinner]; rfl⟩
    cases hslot : registry.slots[index] with
    | intrinsic type => exact ⟨_, tree?_of_intrinsic (holds.trans (congrArg some hslot))⟩
    | array element => exact wrapped .array element hslot
    | map element => exact wrapped .map element hslot
    | model link =>
      cases link with
      | bound id => exact ⟨_, tree?_of_bound (holds.trans (congrArg some hslot))⟩
      | pending name definition =>
        exact ⟨_, tree?_of_pending (holds.trans (congrArg some hslot))⟩

end Registry

end KubeSchema

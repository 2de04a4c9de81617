import KubeSchema.Proofs.StabilityTheorems

/-!
# Slots that names of one model share

Binding lets the further names of a model share its slot, as long as the names are unknown. A name
that is pending has a slot of its own already, which binding fills in place, whether or not the
model has a slot (`FillsAgain`). This is the only way in which a model comes to have two slots, and
it always does; the names of the model then lead to different handles.
-/

namespace KubeSchema.Registry

variable {registry : Registry} {call : Call} {handle : Handle} {id : ModelId} {name : String}

/-- A model has at most one slot. -/
def OneSlot (registry : Registry) (id : ModelId) : Prop :=
  ∀ first second, registry.descriptor? first = some (.model (.bound id)) →
    registry.descriptor? second = some (.model (.bound id)) → first = second

/-- All names that lead to a model have one handle. -/
def OneHandle (registry : Registry) (id : ModelId) : Prop :=
  ∀ first second left right,
    registry.lookup? first = some left → registry.descriptor? left = some (.model (.bound id)) →
    registry.lookup? second = some right → registry.descriptor? right = some (.model (.bound id)) →
      registry.lookup? first = registry.lookup? second

/-- A name is pending, and binding it to the model would give the model another slot. -/
def FillsAgain (registry : Registry) (name : String) (id : ModelId) : Prop :=
  (∃ handle definition, registry.descriptor? handle = some (.model (.pending name definition))) ∧
    ∃ handle, registry.descriptor? handle = some (.model (.bound id))

/-! ## The table of shared slots -/

/-- Every model that has a slot has one that its further names share. -/
def Shares (registry : Registry) : Prop :=
  ∀ handle id, registry.descriptor? handle = some (.model (.bound id)) →
    ∃ shared, registry.models.lookup id = some shared

lemma exists_models_sharing (registry : Registry) (id : ModelId) (handle : Handle) :
    ∃ shared, (registry.sharing id handle).models.lookup id = some shared := by
  rw [sharing]
  cases h : registry.models.lookup id with
  | some shared => exact ⟨shared, h⟩
  | none => exact ⟨handle, lookup_cons_eq_some_iff.2 (.inl ⟨rfl, rfl⟩)⟩

lemma models_sharing_of_some {other : ModelId} {shared : Handle}
    (h : registry.models.lookup other = some shared) :
    (registry.sharing id handle).models.lookup other = some shared := by
  rw [sharing]
  cases hid : registry.models.lookup id with
  | some _ => exact h
  | none =>
    refine lookup_cons_eq_some_iff.2 (.inr ⟨?_, h⟩)
    rintro rfl
    rw [hid] at h
    cases h

/-- A shared slot is shared for good. -/
lemma models_after {shared : Handle} (coherent : registry.Coherent)
    (h : registry.models.lookup id = some shared) (call : Call) :
    (registry.after call).models.lookup id = some shared := by
  cases call with
  | intrinsic type => rwa [after, models_intrinsic]
  | resolve context schema => rwa [after, (resolving_resolve coherent context schema).models]
  | reference context name => rwa [after, (resolving_resolveReference coherent context name).models]
  | bind name model =>
    rw [after]
    obtain ⟨handle, -, -, heq⟩ | ⟨handle, other, definition, -, -, heq⟩ | ⟨handle, -, -, heq⟩ |
      ⟨-, -, heq⟩ := bindModel_cases registry name model
    · rwa [heq]
    · rw [heq]
      exact models_sharing_of_some h
    · rwa [heq]
    · rw [heq]
      exact models_sharing_of_some h
  | sealUp =>
    rw [after]
    obtain ⟨other, definition, -, heq⟩ | ⟨-, heq⟩ := sealUp_cases registry <;> rwa [heq]

/-- Binding a name changes nothing, or the model has a shared slot afterwards. -/
lemma bindModel_shares (registry : Registry) (name : String) (id : ModelId) :
    (registry.bindModel name id).2 = registry ∨
      ∃ shared, (registry.bindModel name id).2.models.lookup id = some shared := by
  obtain ⟨handle, -, -, heq⟩ | ⟨handle, other, definition, -, -, heq⟩ |
    ⟨handle, -, shared, heq⟩ | ⟨-, -, heq⟩ := bindModel_cases registry name id
  · exact .inl (by rw [heq])
  · exact .inr (by rw [heq]; exact exists_models_sharing _ id handle)
  · exact .inr (by rw [heq]; exact ⟨handle, shared⟩)
  · exact .inr (by rw [heq]; exact exists_models_sharing _ id _)

lemma Shares.after (shares : registry.Shares) (coherent : registry.Coherent) (call : Call) :
    (registry.after call).Shares := by
  intro handle id holds
  have bind : ∀ name, call = .bind name id →
      ∃ shared, (registry.after call).models.lookup id = some shared := by
    rintro name rfl
    rcases bindModel_shares registry name id with same | shared
    · rw [Registry.after, same] at holds ⊢
      exact shares handle id holds
    · exact shared
  rcases (change_after coherent call).origin _ _ holds with
    old | ⟨-, plain⟩ | - | ⟨-, binds⟩ | ⟨-, binds, -, -⟩
  · obtain ⟨shared, h⟩ := shares handle id old
    exact ⟨shared, models_after coherent h call⟩
  · exact absurd rfl (plain _)
  · exact bind _ binds
  · exact bind _ binds

lemma shares_run (calls : List Call) : (run calls).Shares := by
  induction calls using List.reverseRecOn with
  | nil =>
    intro handle id holds
    obtain ⟨type, same⟩ := descriptor?_initial holds
    cases same
  | append_singleton calls call ih =>
    rw [run_concat]
    exact ih.after (coherent_run calls) call

/-! ## Names of a model -/

/-- A name that gives a model its first slot leads to that slot. -/
lemma lookup?_bindModel_of_new (unknown : registry.lookup? name = none)
    (unshared : registry.models.lookup id = none) :
    (registry.bindModel name id).2.lookup? name = some ⟨registry.size⟩ := by
  obtain ⟨handle, found, -⟩ | ⟨handle, other, definition, found, -⟩ | ⟨handle, -, shared, -⟩ |
    ⟨-, -, heq⟩ := bindModel_cases registry name id
  · rw [unknown] at found
    cases found
  · rw [unknown] at found
    cases found
  · rw [unshared] at shared
    cases shared
  · rw [heq]
    exact lookup?_withName_eq_some_iff.2 (.inl ⟨rfl, rfl⟩)

/-- A slot of a model is the slot of a name. -/
lemma exists_name_of_bound {calls : List Call}
    (holds : (run calls).descriptor? handle = some (.model (.bound id))) :
    ∃ name, (run calls).lookup? name = some handle := by
  induction calls using List.reverseRecOn with
  | nil =>
    obtain ⟨type, same⟩ := descriptor?_initial holds
    cases same
  | append_singleton calls call ih =>
    have change := change_run calls call
    rcases change.origin _ _ holds with
      old | ⟨-, plain⟩ | - | ⟨old, -⟩ | ⟨rfl, rfl, unknown, unshared⟩
    · obtain ⟨name, found⟩ := ih old
      exact ⟨name, change.names _ _ found⟩
    · exact absurd rfl (plain _)
    · have found := (coherent_run calls).pending _ _ _ old
      exact ⟨_, change.names _ _ found⟩
    · rw [run_concat]
      exact ⟨_, lookup?_bindModel_of_new unknown unshared⟩

lemma oneHandle_run_iff {calls : List Call} :
    OneHandle (run calls) id ↔ OneSlot (run calls) id := by
  constructor
  · intro oneHandle first second hfirst hsecond
    obtain ⟨left, hleft⟩ := exists_name_of_bound hfirst
    obtain ⟨right, hright⟩ := exists_name_of_bound hsecond
    have same := oneHandle left right first second hleft hfirst hright hsecond
    rw [hleft, hright, Option.some.injEq] at same
    exact same
  · intro oneSlot first second left right hfirst hleft hsecond hright
    rw [hfirst, hsecond, oneSlot left right hleft hright]

/-! ## When a model has one slot -/

/-- A call gives a model a second slot only if it fills a placeholder. -/
lemma OneSlot.after (oneSlot : registry.OneSlot id) (coherent : registry.Coherent)
    (shares : registry.Shares)
    (once : ∀ name, call = .bind name id → ¬ registry.FillsAgain name id) :
    (registry.after call).OneSlot id := by
  have origin := (change_after coherent call).origin
  -- a slot that is new is the first of the model
  have first : ∀ other, registry.descriptor? other = some (.model (.bound id)) →
      registry.models.lookup id ≠ none := by
    intro other holds unshared
    obtain ⟨shared, h⟩ := shares other id holds
    rw [unshared] at h
    cases h
  intro left right hleft hright
  rcases origin _ _ hleft with oldLeft | ⟨-, plain⟩ | - | @⟨name, origin, _, fillsLeft, rfl⟩ |
    ⟨newLeft, rfl, unknown, unshared⟩
  · rcases origin _ _ hright with oldRight | ⟨-, plain⟩ | - | ⟨fills, binds⟩ | ⟨-, -, -, unshared⟩
    · exact oneSlot left right oldLeft oldRight
    · exact absurd rfl (plain _)
    · exact absurd ⟨⟨right, _, fills⟩, left, oldLeft⟩ (once _ binds)
    · exact absurd unshared (first left oldLeft)
  · exact absurd rfl (plain _)
  · rcases origin _ _ hright with oldRight | ⟨-, plain⟩ | - | ⟨fills, binds⟩ |
      ⟨-, binds, unknown, -⟩
    · exact absurd ⟨⟨left, _, fillsLeft⟩, right, oldRight⟩ (once _ rfl)
    · exact absurd rfl (plain _)
    · -- both slots are the slot of the name
      cases binds
      have found := coherent.pending _ _ _ fillsLeft
      rw [coherent.pending _ _ _ fills, Option.some.injEq] at found
      exact found.symm
    · cases binds
      rw [coherent.pending _ _ _ fillsLeft] at unknown
      cases unknown
  · rcases origin _ _ hright with oldRight | ⟨-, plain⟩ | - | ⟨fills, binds⟩ | ⟨newRight, -, -, -⟩
    · exact absurd unshared (first right oldRight)
    · exact absurd rfl (plain _)
    · cases binds
      rw [coherent.pending _ _ _ fills] at unknown
      cases unknown
    · rw [newLeft, newRight]

/-- Filling a placeholder for a model with a slot gives the model a second one for good. -/
lemma not_oneSlot_of_fillsAgain {before later : List Call}
    (again : (run before).FillsAgain name id) :
    ¬ OneSlot (run (before ++ .bind name id :: later)) id := by
  intro oneSlot
  obtain ⟨⟨filled, definition, hpending⟩, old, hbound⟩ := again
  have found := (coherent_run before).pending _ _ _ hpending
  have hfilled := (change_run before (.bind name id)).fills found hpending
  rw [List.append_cons] at oneSlot
  have left := (keeps_run (before ++ [.bind name id]) later).settled _ _ hfilled rfl
  have right := (keeps_run before ([.bind name id] ++ later)).settled _ _ hbound rfl
  rw [← List.append_assoc] at right
  rw [oneSlot filled old left right, hbound] at hpending
  cases hpending

/-- **Sharing.** In every run a model has at most one slot exactly as long as no call fills a
placeholder with a model that has a slot already, and exactly as long as all its names have one
handle. -/
theorem oneSlot_run_iff (calls : List Call) (id : ModelId) :
    (OneSlot (run calls) id ↔ ∀ before name later, calls = before ++ .bind name id :: later →
      ¬ (run before).FillsAgain name id) ∧
    (OneHandle (run calls) id ↔ OneSlot (run calls) id) := by
  refine ⟨⟨?_, fun once => ?_⟩, oneHandle_run_iff⟩
  · rintro oneSlot before name later rfl again
    exact not_oneSlot_of_fillsAgain again oneSlot
  · induction calls using List.reverseRecOn with
    | nil =>
      intro first second hfirst
      obtain ⟨type, same⟩ := descriptor?_initial hfirst
      cases same
    | append_singleton calls call ih =>
      have oneSlot := ih fun before name later heq =>
        once before name (later ++ [call]) (by rw [heq]; simp)
      rw [run_concat]
      refine oneSlot.after (coherent_run calls) (shares_run calls) fun name binds => ?_
      exact once calls name [] (by rw [binds])

/-- A run that binds a name to a model, refers to an unknown name, and binds that one too. -/
def lateBinding : List Call :=
  [.bind "a.Model" ⟨0⟩, .reference ⟨"c.User", "model"⟩ "b.Model", .bind "b.Model" ⟨0⟩]

/-- A name that is referred to before it is bound does not share the slot of its model. -/
theorem not_oneSlot_run_lateBinding :
    ¬ OneSlot (run lateBinding) ⟨0⟩ ∧ ¬ OneHandle (run lateBinding) ⟨0⟩ := by
  have slots : (run lateBinding).slots = initial.slots ++
      [.model (.bound ⟨0⟩), .model (.bound ⟨0⟩)] := by
    decide +kernel
  have left : (run lateBinding).descriptor? ⟨4⟩ = some (.model (.bound ⟨0⟩)) := by
    rw [descriptor?, slots, slots_initial]
    rfl
  have right : (run lateBinding).descriptor? ⟨5⟩ = some (.model (.bound ⟨0⟩)) := by
    rw [descriptor?, slots, slots_initial]
    rfl
  have split : ¬ OneSlot (run lateBinding) ⟨0⟩ := by
    intro oneSlot
    have same := oneSlot ⟨4⟩ ⟨5⟩ left right
    cases same
  exact ⟨split, fun oneHandle => split (oneHandle_run_iff.1 oneHandle)⟩

end KubeSchema.Registry

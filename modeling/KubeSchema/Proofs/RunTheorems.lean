import KubeSchema.Proofs.ChangeTheorems

/-!
# Runs of a registry

`run` is the registry after a list of calls, and `references` and `bindings` are what the list says
about names. What holds of every run is an induction on the list, one `Change` at a time; what each
call preserves is preserved by all further calls (`run_append_invariant`). In particular names and
slots that are not pending stay as they are (`keeps_run`).
-/

namespace KubeSchema.Registry

/-- The registry after a run of calls. -/
def run (calls : List Call) : Registry := calls.foldl after initial

/-- The names that a run refers to, with the definitions that refer to them, in order. -/
def references (calls : List Call) : List (String × String) := calls.filterMap Call.reference?

/-- The names that a run binds, with their models, in order. -/
def bindings (calls : List Call) : List (String × ModelId) := calls.filterMap Call.binding?

@[simp] lemma run_concat (calls : List Call) (call : Call) :
    run (calls ++ [call]) = (run calls).after call := by
  rw [run, run, List.foldl_append]
  rfl

variable {registry : Registry} {call : Call}

/-! ## What calls keep -/

/-- Names, and slots that are not pending, are as they were. -/
structure Keeps (before after : Registry) : Prop where
  names : ∀ name handle, before.lookup? name = some handle → after.lookup? name = some handle
  settled : ∀ handle descriptor, before.descriptor? handle = some descriptor →
    descriptor.pending? = none → after.descriptor? handle = some descriptor
  size_le : before.size ≤ after.size

namespace Keeps

variable {before between after : Registry}

lemma refl (registry : Registry) : registry.Keeps registry :=
  ⟨fun _ _ found => found, fun _ _ holds _ => holds, Nat.le_refl _⟩

lemma trans (first : before.Keeps between) (second : between.Keeps after) : before.Keeps after where
  names name handle found := second.names name handle (first.names name handle found)
  settled handle descriptor holds settled :=
    second.settled handle descriptor (first.settled handle descriptor holds settled) settled
  size_le := first.size_le.trans second.size_le

end Keeps

lemma Extends.keeps {before after : Registry} (ext : before.Extends after) : before.Keeps after :=
  ⟨ext.names, fun _ _ holds _ => ext.descriptor? holds, ext.size_le⟩

lemma Change.keeps {after : Registry} (change : registry.Change call after) :
    registry.Keeps after where
  names := change.names
  settled handle descriptor holds settled := by
    rcases change.slots _ _ holds with kept | ⟨name, definition, id, rfl, -⟩
    · exact kept
    · cases settled
  size_le := by
    by_contra hlt
    have inUse : after.size < registry.size := by omega
    -- the slot behind the last one would be in use, since it was in use before
    have holds : registry.descriptor? ⟨after.size⟩ = some registry.slots[after.size] :=
      List.getElem?_eq_getElem inUse
    rcases change.slots _ _ holds with kept | ⟨_, _, _, -, -, filled⟩
    · exact absurd (lt_size_of_descriptor? kept) (Nat.lt_irrefl _)
    · exact absurd (lt_size_of_descriptor? filled) (Nat.lt_irrefl _)

/-! ## Runs -/

theorem coherent_run (calls : List Call) : (run calls).Coherent := by
  induction calls using List.reverseRecOn with
  | nil => exact coherent_initial
  | append_singleton calls call ih =>
    rw [run_concat]
    exact (change_after ih call).coherent

lemma change_run (calls : List Call) (call : Call) :
    (run calls).Change call (run (calls ++ [call])) := by
  rw [run_concat]
  exact change_after (coherent_run calls) call

/-- What each call preserves is preserved by all further calls. -/
theorem run_append_invariant {motive : Registry → Prop} (calls : List Call)
    (step : ∀ before call after, before.Change call after → motive before → motive after)
    (start : motive (run calls)) (later : List Call) : motive (run (calls ++ later)) := by
  induction later using List.reverseRecOn with
  | nil => rwa [List.append_nil]
  | append_singleton later call ih =>
    rw [← List.append_assoc]
    exact step _ call _ (change_run (calls ++ later) call) ih

/-- Names, and slots that are not pending, stay as they are whatever is called later. -/
theorem keeps_run (calls later : List Call) : (run calls).Keeps (run (calls ++ later)) := by
  refine run_append_invariant (motive := fun registry => (run calls).Keeps registry) calls ?_
    (.refl _) later
  intro before call after change keeps
  exact keeps.trans change.keeps

end KubeSchema.Registry

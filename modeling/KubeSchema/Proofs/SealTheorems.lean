import KubeSchema.Proofs.StabilityTheorems

/-!
# Sealing

A reference to an unknown name makes a placeholder (`Creates`). A pending slot is exactly a
placeholder that some call of the run has made and no call since then has bound
(`exists_created_of_pending`, `exists_pending_of_created`), and placeholders lie in their slots in
the order in which they were made. So the answer of sealing can be told from the calls: `Seals` says
when it succeeds, which placeholder it reports otherwise, and that a success lasts.
-/

namespace KubeSchema.Registry

variable {calls before since later : List Call} {call : Call} {registry : Registry}
  {handle : Handle} {name definition : String}

/-! ## Placeholders of a run -/

/-- The call refers to a name that is not pending and leaves it pending. -/
def Creates (registry : Registry) (call : Call) (name definition : String) : Prop :=
  call.reference? = some (name, definition) ∧
    (∀ handle origin, registry.descriptor? handle ≠ some (.model (.pending name origin))) ∧
    ∃ handle, (registry.after call).descriptor? handle = some (.model (.pending name definition))

/-- A call of the run has made a placeholder for the name, and `since` are the calls after it. -/
def Created (calls : List Call) (name definition : String) (since : List Call) : Prop :=
  ∃ before call, calls = before ++ call :: since ∧ Creates (run before) call name definition

/-- A pending slot was made by a call that referred to its name, and its name has not been bound
since. The call made it behind the slots that were there. -/
lemma exists_created_of_pending
    (holds : (run calls).descriptor? handle = some (.model (.pending name definition))) :
    ∃ before call since, calls = before ++ call :: since ∧
      Creates (run before) call name definition ∧ (∀ id, .bind name id ∉ since) ∧
      (run before).size ≤ handle.index := by
  induction calls using List.reverseRecOn with
  | nil =>
    obtain ⟨type, same⟩ := descriptor?_initial holds
    cases same
  | append_singleton calls call ih =>
    have change := change_run calls call
    have found := change.coherent.pending _ _ _ holds
    rcases change.origin _ _ holds with old | ⟨-, plain⟩ | ⟨new, unknown, -, refers⟩ | - | -
    · obtain ⟨before, maker, since, rfl, creates, unbound, le⟩ := ih old
      refine ⟨before, maker, since ++ [call], by simp, creates, fun id mem => ?_, le⟩
      rcases List.mem_append.1 mem with mem | mem
      · exact unbound id mem
      · -- a name that the last call binds is not pending afterwards
        have binds := (List.mem_singleton.1 mem).symm
        subst binds
        cases change.pending?_eq_none found holds
    · exact absurd rfl (plain _)
    · have notPending : ∀ other origin,
          (run calls).descriptor? other ≠ some (.model (.pending name origin)) := by
        intro other origin hother
        rw [(coherent_run calls).pending _ _ _ hother] at unknown
        cases unknown
      rw [run_concat] at holds
      exact ⟨calls, call, [], rfl, ⟨refers, notPending, handle, holds⟩, by simp, new⟩

/-- A placeholder stays pending until its name is bound. -/
lemma exists_pending_of_created (creates : Creates (run before) call name definition)
    (unbound : ∀ id, .bind name id ∉ since) :
    ∃ handle, handle.index < (run (before ++ [call])).size ∧
      (run (before ++ call :: since)).descriptor? handle
        = some (.model (.pending name definition)) := by
  obtain ⟨-, -, handle, holds⟩ := creates
  rw [← run_concat] at holds
  refine ⟨handle, lt_size_of_descriptor? holds, ?_⟩
  rw [List.append_cons]
  induction since using List.reverseRecOn with
  | nil => rwa [List.append_nil]
  | append_singleton since last ih =>
    have still := ih fun id mem => unbound id (List.mem_append_left _ mem)
    rw [← List.append_assoc]
    rcases (change_run (before ++ [call] ++ since) last).slots _ _ still with
      kept | ⟨other, origin, id, same, binds, -⟩
    · exact kept
    · cases same
      exact absurd (List.mem_append_right _ (List.mem_singleton.2 binds.symm)) (unbound id)

/-! ## The first pending slot -/

/-- Without a pending name no slot is pending. -/
lemma firstPending?_eq_none_iff : registry.firstPending? = none ↔
    ∀ handle name definition,
      registry.descriptor? handle ≠ some (.model (.pending name definition)) := by
  constructor
  · intro none handle name definition holds
    exact firstPending?_ne_none holds none
  · intro settled
    rw [firstPending?_eq, List.findSome?_eq_none_iff]
    intro descriptor mem
    obtain ⟨index, hindex⟩ := List.mem_iff_getElem?.1 mem
    refine Descriptor.pending?_eq_none_iff.2 ?_
    rintro name definition rfl
    exact settled ⟨index⟩ name definition hindex

/-- The first pending name is that of the first pending slot. -/
lemma exists_of_firstPending? (h : registry.firstPending? = some (name, definition)) :
    ∃ handle, registry.descriptor? handle = some (.model (.pending name definition)) ∧
      ∀ other, other.index < handle.index → ∀ name definition,
        registry.descriptor? other ≠ some (.model (.pending name definition)) := by
  rw [firstPending?_eq, List.findSome?_eq_some_iff] at h
  obtain ⟨front, descriptor, rest, hslots, hpending, settled⟩ := h
  have hdescriptor := Descriptor.pending?_eq_some_iff.1 hpending
  refine ⟨⟨front.length⟩, ?_, fun other lt name definition holds => ?_⟩
  · rw [descriptor?, hslots, List.getElem?_append_right (Nat.le_refl _), Nat.sub_self, hdescriptor]
    rfl
  · rw [descriptor?, hslots, List.getElem?_append_left lt] at holds
    have := settled _ (List.mem_of_getElem? holds)
    cases this

lemma sealUp_eq_ok_iff : registry.sealUp.1 = .ok () ↔ registry.firstPending? = none := by
  obtain ⟨name, definition, hpending, heq⟩ | ⟨hpending, heq⟩ := sealUp_cases registry
  · rw [heq, hpending]
    simp
  · rw [heq, hpending]
    simp

/-! ## The answer of sealing -/

/-- Of two placeholders of a run the one made earlier lies in front. -/
lemma size_run_le_of_length_lt {other : List Call} {maker : Call} {longer : List Call}
    (same : before ++ call :: since = other ++ maker :: longer)
    (lt : since.length < longer.length) :
    (run (other ++ [maker])).size ≤ (run before).size := by
  have hwhole : other ++ [maker] <+: before ++ call :: since := by
    rw [same, List.append_cons other maker longer]
    exact List.prefix_append _ _
  have hlength : (other ++ [maker]).length ≤ before.length := by
    have := congrArg List.length same
    simp only [List.length_append, List.length_cons, List.length_nil] at this ⊢
    omega
  obtain ⟨between, rfl⟩ :=
    List.prefix_of_prefix_length_le hwhole (List.prefix_append _ _) hlength
  exact (keeps_run _ between).size_le

/-- What sealing does after a run. -/
structure Seals (calls : List Call) : Prop where
  /-- Sealing succeeds when every placeholder's name has been bound since the placeholder was
  made. -/
  succeeds : (run calls).sealUp.1 = .ok () ↔ ∀ name definition since,
    Created calls name definition since → ∃ id, .bind name id ∈ since
  /-- Otherwise it reports the earliest placeholder that is not bound, for the definition that
  referred to the name first, and changes nothing. -/
  fails : ∀ error, (run calls).sealUp.1 = .error error → (run calls).sealUp.2 = run calls ∧
    ∃ name definition since, error = .unresolvableReference definition name ∧
      Created calls name definition since ∧ (∀ id, .bind name id ∉ since) ∧
      (references calls).lookup name = some definition ∧
      ∀ other origin longer, Created calls other origin longer → since.length < longer.length →
        ∃ id, .bind other id ∈ longer
  /-- A success lasts: unknown names are refused from then on, and no slot becomes pending. -/
  lasts : (run calls).sealUp.1 = .ok () → ∀ later,
    (run (calls ++ .sealUp :: later)).isSealed = true ∧
      ∀ name definition,
        .model (.pending name definition) ∉ (run (calls ++ .sealUp :: later)).slots

/-- A run has no pending slot when every placeholder's name has been bound since. -/
lemma firstPending?_run_eq_none_iff : (run calls).firstPending? = none ↔
    ∀ name definition since, Created calls name definition since →
      ∃ id, .bind name id ∈ since := by
  rw [firstPending?_eq_none_iff]
  constructor
  · rintro settled name definition since ⟨before, call, rfl, creates⟩
    by_contra unbound
    have unbound : ∀ id, .bind name id ∉ since := fun id mem => unbound ⟨id, mem⟩
    obtain ⟨handle, -, holds⟩ := exists_pending_of_created creates unbound
    exact settled _ _ _ holds
  · intro bound handle name definition holds
    obtain ⟨before, call, since, heq, creates, unbound, -⟩ := exists_created_of_pending holds
    obtain ⟨id, mem⟩ := bound name definition since ⟨before, call, heq, creates⟩
    exact unbound id mem

/-- The first pending name of a run is that of the earliest placeholder that is not bound. -/
lemma exists_earliest_of_firstPending? (h : (run calls).firstPending? = some (name, definition)) :
    ∃ since, Created calls name definition since ∧ (∀ id, .bind name id ∉ since) ∧
      (references calls).lookup name = some definition ∧
      ∀ other origin longer, Created calls other origin longer → since.length < longer.length →
        ∃ id, .bind other id ∈ longer := by
  obtain ⟨handle, holds, first⟩ := exists_of_firstPending? h
  obtain ⟨before, call, since, heq, creates, unbound, le⟩ := exists_created_of_pending holds
  have pending := linkOf?_eq_pending_iff.1 ((remembers_run calls).linkOf?_of_pending holds)
  refine ⟨since, ⟨before, call, heq, creates⟩, unbound, pending.2.2, ?_⟩
  rintro other origin longer ⟨front, maker, rfl, earlier⟩ lt
  by_contra notBound
  -- an earlier placeholder that is not bound would be pending in front of the first one
  obtain ⟨found, hfound, hpending⟩ :=
    exists_pending_of_created earlier fun id mem => notBound ⟨id, mem⟩
  have hsize := size_run_le_of_length_lt heq.symm lt
  exact first found (by omega) _ _ hpending

/-- A seal that succeeds refuses unknown names from then on, and finds no pending slot. -/
lemma isSealed_of_sealUp (ok : (run calls).sealUp.1 = .ok ()) :
    (run (calls ++ [.sealUp])).isSealed = true ∧
      (run (calls ++ [.sealUp])).firstPending? = none := by
  have settled := sealUp_eq_ok_iff.1 ok
  obtain ⟨name, definition, hpending, -⟩ | ⟨-, heq⟩ := sealUp_cases (run calls)
  · rw [settled] at hpending
    cases hpending
  · rw [run_concat, after, heq]
    exact ⟨rfl, settled⟩

/-- A registry that refuses unknown names and has no pending slot stays so. -/
lemma isSealed_of_change {after : Registry} (change : registry.Change call after)
    (h : registry.isSealed = true ∧ registry.firstPending? = none) :
    after.isSealed = true ∧ after.firstPending? = none := by
  refine ⟨change.isSealed h.1, firstPending?_eq_none_iff.2 fun handle name definition holds => ?_⟩
  rcases change.origin _ _ holds with old | ⟨-, plain⟩ | ⟨-, -, isOpen, -⟩ | - | -
  · exact firstPending?_eq_none_iff.1 h.2 _ _ _ old
  · exact plain _ rfl
  · rw [h.1] at isOpen
    cases isOpen

/-- **Sealing.** After every run, sealing succeeds exactly when all placeholders made in the run
have been bound, reports the earliest of the others, and a success lasts. -/
theorem seals_run (calls : List Call) : Seals calls := by
  refine ⟨sealUp_eq_ok_iff.trans firstPending?_run_eq_none_iff, fun error h => ?_,
    fun ok later => ?_⟩
  · obtain ⟨name, definition, hpending, heq⟩ | ⟨-, heq⟩ := sealUp_cases (run calls)
    · rw [heq] at h ⊢
      cases h
      obtain ⟨since, earliest⟩ := exists_earliest_of_firstPending? hpending
      exact ⟨rfl, name, definition, since, rfl, earliest⟩
    · rw [heq] at h
      cases h
  · have lasting := run_append_invariant
      (motive := fun registry => registry.isSealed = true ∧ registry.firstPending? = none)
      (calls ++ [.sealUp]) (fun _ _ _ change => isSealed_of_change change) (isSealed_of_sealUp ok)
      later
    rw [List.append_cons]
    refine ⟨lasting.1, fun name definition mem => ?_⟩
    have := pending?_of_firstPending?_eq_none lasting.2 mem
    cases this

end KubeSchema.Registry

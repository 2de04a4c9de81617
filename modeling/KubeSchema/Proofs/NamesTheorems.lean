import KubeSchema.Compile
import KubeSchema.Proofs.BindTheorems
import KubeSchema.Proofs.LoopTheorems
import KubeSchema.Proofs.ServeTheorems

/-!
# Binding the names of a graph

Before the first property is compiled, all names of the graph are bound in the first registry.
`Binds` is the invariant of this loop; at its end the registry serves the graph and nothing in it is
pending.
-/

namespace KubeSchema

namespace Registry

variable {registry : Registry} {handle : Handle}

lemma models_sharing_of_none {id : ModelId} (h : registry.models.lookup id = none) :
    (registry.sharing id handle).models = (id, handle) :: registry.models := by
  rw [sharing, h]

lemma firstPending?_sharing (id : ModelId) :
    (registry.sharing id handle).firstPending? = registry.firstPending? := by
  rw [sharing]
  split <;> rfl

/-- An open registry in which some names are bound, beside the well-known ones, and nothing is
pending. -/
structure Binds (registry : Registry) (entries : List (String × ModelId)) : Prop where
  coherent : registry.Coherent
  isOpen : registry.isSealed = false
  noPending : registry.firstPending? = none
  bound : ∀ name id, (name, id) ∈ entries → wellKnown.lookup name = none →
    ∃ handle, registry.lookup? name = some handle ∧ registry.models.lookup id = some handle
  names : ∀ name handle, registry.lookup? name = some handle →
    wellKnown.lookup name ≠ none ∨ name ∈ entries.map Prod.fst

lemma binds_initial : initial.Binds [] where
  coherent := coherent_initial
  isOpen := isSealed_initial
  noPending := by decide +kernel
  bound name id mem := by cases mem
  names name handle h := by
    obtain ⟨type, htype, -⟩ := lookup?_initial_eq_some_iff.1 h
    exact .inl (by simp [htype])

/-- Binding one more name. -/
lemma Binds.bindModel {entries : List (String × ModelId)} (binds : registry.Binds entries)
    {name : String} (new : name ∉ entries.map Prod.fst) (id : ModelId) :
    (registry.bindModel name id).2.Binds (entries ++ [(name, id)]) := by
  have coherent := coherent_bindModel binds.coherent name id
  have weaken : ∀ other, wellKnown.lookup other ≠ none ∨ other ∈ entries.map Prod.fst →
      wellKnown.lookup other ≠ none ∨ other ∈ (entries ++ [(name, id)]).map Prod.fst := by
    intro other h
    rw [List.map_append, List.mem_append]
    exact h.imp_right .inl
  have last : name ∈ (entries ++ [(name, id)]).map Prod.fst := by simp
  obtain ⟨handle, found, -, heq⟩ | ⟨handle, other, definition, -, holds, -⟩ |
    ⟨handle, fresh, shared, heq⟩ | ⟨fresh, unshared, heq⟩ := bindModel_cases registry name id
  · -- the name has a type already, so it is well known
    rw [heq] at coherent ⊢
    have known : wellKnown.lookup name ≠ none := (binds.names name handle found).resolve_right new
    refine ⟨coherent, binds.isOpen, binds.noPending, fun other model mem unknown => ?_,
      fun other handle h => weaken other (binds.names other handle h)⟩
    rcases List.mem_append.1 mem with mem | mem
    · exact binds.bound other model mem unknown
    · cases List.mem_singleton.1 mem
      exact absurd unknown known
  · exact absurd binds.noPending (firstPending?_ne_none holds)
  · -- the model has a slot, which the name shares
    rw [heq] at coherent ⊢
    refine ⟨coherent, binds.isOpen, binds.noPending, fun other model mem unknown => ?_,
      fun other found h => ?_⟩
    · rcases List.mem_append.1 mem with mem | mem
      · obtain ⟨found, hfound, hshared⟩ := binds.bound other model mem unknown
        exact ⟨found, (Extends.withName fresh).names _ _ hfound, hshared⟩
      · cases List.mem_singleton.1 mem
        exact ⟨handle, lookup?_withName_eq_some_iff.2 (.inl ⟨rfl, rfl⟩), shared⟩
    · rcases lookup?_withName_eq_some_iff.1 h with ⟨rfl, -⟩ | ⟨-, h⟩
      · exact .inr last
      · exact weaken other (binds.names other found h)
  · -- the first name of the model
    rw [heq] at coherent ⊢
    have models : ((registry.push (.model (.bound id))).2.sharing id ⟨registry.size⟩).models
        = (id, ⟨registry.size⟩) :: registry.models := models_sharing_of_none unshared
    refine ⟨coherent, ?_, ?_, fun other model mem unknown => ?_, fun other found h => ?_⟩
    · rw [isSealed_withName, isSealed_sharing]
      exact binds.isOpen
    · rw [firstPending?_withName, firstPending?_sharing, firstPending?_push, binds.noPending]
      rfl
    · rw [models_withName, models]
      rcases List.mem_append.1 mem with mem | mem
      · obtain ⟨found, hfound, hshared⟩ := binds.bound other model mem unknown
        refine ⟨found, lookup?_withName_eq_some_iff.2 (.inr ⟨?_, ?_⟩),
          lookup_cons_eq_some_iff.2 (.inr ⟨?_, hshared⟩)⟩
        · rintro rfl
          rw [fresh] at hfound
          cases hfound
        · rw [lookup?_sharing]
          exact hfound
        · rintro rfl
          rw [unshared] at hshared
          cases hshared
      · cases List.mem_singleton.1 mem
        exact ⟨⟨registry.size⟩, lookup?_withName_eq_some_iff.2 (.inl ⟨rfl, rfl⟩),
          lookup_cons_eq_some_iff.2 (.inl ⟨rfl, rfl⟩)⟩
    · rcases lookup?_withName_eq_some_iff.1 h with ⟨rfl, -⟩ | ⟨-, h⟩
      · exact .inr last
      · rw [lookup?_sharing] at h
        exact weaken other (binds.names other found h)

end Registry

namespace Compile

variable {graph : Graph}

lemma binds_bindNames (graph : Graph) : (bindNames graph).Binds graph.names.entries := by
  refine foldl_invariant (fun entries registry => Registry.Binds registry entries)
    Registry.binds_initial fun done head tail split registry binds => ?_
  exact binds.bindModel (not_mem_keys_of_append_cons graph.names.keys_nodup split) head.2

/-- With all its names bound, a registry serves the graph. -/
theorem serves_bindNames (graph : Graph) : (bindNames graph).Serves graph := by
  have binds := binds_bindNames graph
  refine ⟨binds.coherent, binds.isOpen, fun name id hid unknown => ?_,
    fun name handle htype h => ?_⟩
  · exact binds.bound name id (graph.names.lookup?_eq_some_iff.1 hid) unknown
  · -- a name without a type is neither well known nor in the graph
    exfalso
    rw [Graph.typeOf?] at htype
    cases hknown : Registry.wellKnown.lookup name with
    | some type => simp [hknown] at htype
    | none =>
      have unnamed : graph.names.lookup? name = none := by
        simpa [hknown, Graph.idOf?] using htype
      rcases binds.names name handle h with known | mem
      · exact known hknown
      · exact graph.names.lookup?_eq_none_iff.1 unnamed mem

end Compile

end KubeSchema

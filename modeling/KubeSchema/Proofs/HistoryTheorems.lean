import KubeSchema.Proofs.CompileTheorems
import KubeSchema.Proofs.RunTheorems

/-!
# The calls of a compilation

The registry of a compilation is the result of a run of calls: first the names of the graph are
bound, then only schemas are resolved, and at last the registry is sealed (`exists_run_of_compile`).
So what holds of every run holds of every compilation. In particular a slot can refer to a model
only if some name of the graph leads to that model (`exists_name_of_bound_compile`).
-/

namespace KubeSchema

namespace Registry

variable {before between after : Registry} {calls : List Call}

/-! ## Calls that bind nothing -/

/-- The second registry is the first one after calls that bind no name. -/
def AsksFor (before after : Registry) : Prop :=
  ∃ calls, bindings calls = [] ∧ after = calls.foldl Registry.after before

namespace AsksFor

lemma refl (registry : Registry) : registry.AsksFor registry := ⟨[], rfl, rfl⟩

lemma trans (first : before.AsksFor between) (second : between.AsksFor after) :
    before.AsksFor after := by
  obtain ⟨earlier, noneEarlier, rfl⟩ := first
  obtain ⟨later, noneLater, rfl⟩ := second
  refine ⟨earlier ++ later, ?_, by rw [List.foldl_append]⟩
  rw [bindings, List.filterMap_append, ← bindings, ← bindings, noneEarlier, noneLater]
  rfl

/-- What calls that bind nothing keep is kept. -/
lemma invariant {motive : Registry → Prop} (asks : before.AsksFor after) (first : motive before)
    (keeps : ∀ registry call, call.binding? = none → motive registry →
      motive (registry.after call)) : motive after := by
  obtain ⟨calls, noBinding, rfl⟩ := asks
  induction calls using List.reverseRecOn with
  | nil => exact first
  | append_singleton calls call ih =>
    rw [bindings, List.filterMap_append, List.append_eq_nil_iff] at noBinding
    have binds : call.binding? = none :=
      List.forall_none_of_filterMap_eq_nil noBinding.2 _ (by simp)
    rw [List.foldl_append]
    exact keeps _ call binds (ih noBinding.1)

lemma single (registry : Registry) (call : Call) (binds : call.binding? = none) :
    registry.AsksFor (registry.after call) :=
  ⟨[call], by rw [bindings, List.filterMap_cons_none binds]; rfl, rfl⟩

end AsksFor

/-! ## Where models come from -/

/-- A slot refers to a model only if a call has bound a name to it. -/
lemma exists_binding_of_bound {handle : Handle} {id : ModelId}
    (holds : (run calls).descriptor? handle = some (.model (.bound id))) :
    ∃ name, (name, id) ∈ bindings calls := by
  induction calls using List.reverseRecOn with
  | nil =>
    obtain ⟨type, same⟩ := descriptor?_initial holds
    cases same
  | append_singleton calls call ih =>
    have last : ∀ name, call = .bind name id → ∃ name, (name, id) ∈ bindings (calls ++ [call]) := by
      rintro name rfl
      exact ⟨name, by simp [bindings, Call.binding?]⟩
    rcases (change_run calls call).origin _ _ holds with
      old | ⟨-, plain⟩ | - | ⟨-, binds⟩ | ⟨-, binds, -⟩
    · obtain ⟨name, mem⟩ := ih old
      refine ⟨name, ?_⟩
      rw [bindings, List.filterMap_append]
      exact List.mem_append_left _ mem
    · exact absurd rfl (plain _)
    · exact last _ binds
    · exact last _ binds

end Registry

open Registry (AsksFor Call run bindings)

/-! ## The second pass -/

/-- Compiling properties only resolves schemas, whether it fails or not. -/
lemma Properties.asksFor_add (definition : Definition) (claimed : Table String String)
    (model : Model) (registry : Registry) (entries : List (String × PropertySchema)) :
    registry.AsksFor (add definition claimed model registry entries).2.2 := by
  induction entries generalizing claimed model registry with
  | nil => exact .refl registry
  | cons entry rest ih =>
    obtain ⟨wireName, schema⟩ := entry
    have resolves : registry.AsksFor
        (registry.resolve ⟨model.definitionName, wireName⟩ schema).2 :=
      .single registry (.resolve ⟨model.definitionName, wireName⟩ schema) rfl
    rw [add]
    split
    · exact .refl registry
    · split
      · next heq =>
        rw [heq] at resolves
        exact resolves
      · next heq =>
        rw [heq] at resolves
        exact resolves.trans (ih _ _ _)

lemma asksFor_compileProperties (model : Model) (definition : Definition) (registry : Registry) :
    registry.AsksFor (compileProperties model definition registry).2.2 :=
  Properties.asksFor_add definition Table.empty { model with properties := [] } registry
    (Properties.inEmissionOrder definition)

namespace Compile

variable {document : Document} {options : Options} {compiled : CompiledSchema}

/-- Compiling the properties of all models only resolves schemas. -/
lemma asksFor_modelProperties {definitions : Table String Definition} {after : Registry}
    (models : List Model) : ∀ before results,
      modelProperties definitions before models = .ok (results, after) → before.AsksFor after := by
  induction models with
  | nil =>
    intro before results h
    cases h
    exact .refl _
  | cons model rest ih =>
    intro before results h
    rw [modelProperties] at h
    split at h
    · obtain ⟨⟨tail, last⟩, hrest, heq⟩ := bind_eq_ok_iff.1 h
      cases heq
      exact ih before tail hrest
    · next definition _ =>
      have first := asksFor_compileProperties model definition before
      split at h
      · cases h
      · next between heq =>
        obtain ⟨⟨tail, last⟩, hrest, hsame⟩ := bind_eq_ok_iff.1 h
        cases hsame
        rw [heq] at first
        exact first.trans (ih between tail hrest)

/-- Binding the names of a graph is a run of calls. -/
lemma bindNames_eq_run (graph : Graph) :
    bindNames graph = run (graph.names.entries.map fun entry => .bind entry.1 entry.2) := by
  rw [run, List.foldl_map]
  rfl

lemma bindings_map_bind (entries : List (String × ModelId)) :
    bindings (entries.map fun entry => .bind entry.1 entry.2) = entries := by
  rw [bindings, List.filterMap_map]
  exact List.filterMap_some

/-- What each step of a successful compilation gives. -/
lemma exists_steps_of_compile (h : compile document options = .ok compiled) :
    ∃ graph models registry, resolveAll document.definitions options = .ok graph ∧
      modelProperties document.definitions (bindNames graph) graph.models
        = .ok (models, registry) ∧
      compiled.graph.names = graph.names ∧ compiled.registry = registry.sealUp.2 ∧
      compiled.bindings = .ofPaths document.paths := by
  rw [compile] at h
  obtain ⟨graph, hgraph, h⟩ := bind_eq_ok_iff.1 h
  obtain ⟨⟨models, registry⟩, hmodels, h⟩ := bind_eq_ok_iff.1 h
  simp only at h
  -- a registry that cannot be sealed stops the compilation
  obtain ⟨name, definition, -, heq⟩ | ⟨-, heq⟩ := registry.sealUp_cases
  · rw [heq] at h
    cases h
  · rw [heq] at h
    obtain ⟨last, hlast, h⟩ := bind_eq_ok_iff.1 h
    obtain ⟨results, -, h⟩ := bind_eq_ok_iff.1 h
    cases hlast
    cases h
    exact ⟨graph, models, registry, hgraph, hmodels, rfl, by rw [heq], rfl⟩

/-! ## The whole compilation -/

/-- The registry of a compilation is the result of a run that binds exactly the names of the
graph. -/
theorem exists_run_of_compile (h : compile document options = .ok compiled) :
    ∃ calls, compiled.registry = run calls ∧ bindings calls = compiled.graph.names.entries := by
  obtain ⟨graph, models, registry, -, hmodels, names, hregistry, -⟩ := exists_steps_of_compile h
  obtain ⟨calls, noBinding, rfl⟩ := asksFor_modelProperties _ _ _ hmodels
  have binding := bindings_map_bind graph.names.entries
  refine ⟨(graph.names.entries.map fun entry => .bind entry.1 entry.2) ++ calls ++ [.sealUp],
    ?_, ?_⟩
  · rw [Registry.run_concat, run, List.foldl_append, ← run, ← bindNames_eq_run, hregistry]
    rfl
  · rw [bindings] at binding noBinding ⊢
    rw [List.filterMap_append, List.filterMap_append, binding, noBinding, names]
    simp [Call.binding?]

/-- A slot of a compilation refers to a model only if a name of the graph leads to the model. -/
theorem exists_name_of_bound_compile (h : compile document options = .ok compiled) {handle : Handle}
    {id : ModelId} (holds : compiled.registry.descriptor? handle = some (.model (.bound id))) :
    ∃ name, compiled.graph.idOf? name = some id := by
  obtain ⟨calls, hrun, hbindings⟩ := exists_run_of_compile h
  rw [hrun] at holds
  obtain ⟨name, mem⟩ := Registry.exists_binding_of_bound holds
  rw [hbindings] at mem
  exact ⟨name, compiled.graph.names.lookup?_eq_some_iff.2 mem⟩

end Compile

end KubeSchema

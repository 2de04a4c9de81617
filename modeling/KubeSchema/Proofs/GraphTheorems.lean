import KubeSchema.Proofs.CompileTheorems

/-!
# The names of a graph

The first pass keeps a table of the generated names it has given. `Distinct` is the invariant of the
first loop that ties this table to the models: the names in it are those of the models, so the next
name that is free is new. It follows that in the graph of a compilation no two models share a
generated name, that each model is found under its own name, and that no name leads nowhere
(`WellNamed`).
-/

namespace KubeSchema

namespace Resolution

variable {definitions : Table String Definition} {options : Options}

/-! ## Generated names -/

/-- The name that is chosen is free. -/
lemma lookup?_of_firstFree {claimed : ClaimedNames} {name chosen : String} {rest : List String}
    (h : claimed.firstFree name rest = .ok chosen) : claimed.lookup? chosen = none := by
  induction rest generalizing name with
  | nil =>
    rw [ClaimedNames.firstFree] at h
    split at h
    · next free =>
      cases h
      exact free
    · cases h
  | cons next rest ih =>
    rw [ClaimedNames.firstFree] at h
    split at h
    · next free =>
      cases h
      exact free
    · exact ih h

/-- A model is added under a name that was free, which it claims. -/
lemma addModel_cases {progress after : Progress} {name : String} {definition : Definition}
    (h : addModel progress name definition = .ok after) :
    ∃ generatedName, progress.claimed.lookup? generatedName = none ∧
      after = { progress with
        graph := progress.graph.insert (shell name definition generatedName)
        claimed := progress.claimed.insert generatedName name } := by
  rw [addModel] at h
  split at h
  · cases h
  · next generatedName chosen =>
    cases h
    exact ⟨generatedName, lookup?_of_firstFree chosen, rfl⟩

/-- Taking a definition into account leaves the models and claimed names alone, or adds a model. -/
lemma visit_eq_or_addModel {progress after : Progress} {entry : String × Definition}
    (h : visit options progress entry = .ok after) :
    (after.graph = progress.graph ∧ after.claimed = progress.claimed) ∨
      addModel progress entry.1 entry.2 = .ok after := by
  rw [visit] at h
  split at h
  · cases h
    exact .inl ⟨rfl, rfl⟩
  · split at h
    · cases h
      exact .inl ⟨rfl, rfl⟩
    · exact .inr h

/-- The claimed names are the generated names of the models, each held by the definition of its
model, and no two models share one. -/
structure Distinct (progress : Progress) : Prop where
  holders : ∀ name holder, progress.claimed.lookup? name = some holder ↔
    ∃ model ∈ progress.graph.models, model.generatedName = name ∧ model.definitionName = holder
  nodup : (progress.graph.models.map Model.generatedName).Nodup

lemma distinct_start : Distinct Progress.start where
  holders name holder := by
    refine ⟨fun h => (by cases h), ?_⟩
    rintro ⟨model, mem, -⟩
    cases mem
  nodup := List.nodup_nil

/-- One more model. -/
lemma Distinct.addModel {progress after : Progress} (distinct : Distinct progress) {name : String}
    {definition : Definition} (h : addModel progress name definition = .ok after) :
    Distinct after := by
  obtain ⟨generatedName, free, rfl⟩ := addModel_cases h
  -- no model so far has the name, since it would have claimed it
  have new : ∀ model ∈ progress.graph.models, model.generatedName ≠ generatedName := by
    intro model mem same
    have claims := (distinct.holders generatedName model.definitionName).2 ⟨model, mem, same, rfl⟩
    rw [free] at claims
    cases claims
  refine ⟨fun other holder => ?_, ?_⟩
  · show (progress.claimed.insert generatedName name).lookup? other = some holder ↔
      ∃ model ∈ progress.graph.models ++ [shell name definition generatedName],
        model.generatedName = other ∧ model.definitionName = holder
    rw [Table.lookup?_insert_eq_some_iff, distinct.holders]
    constructor
    · rintro (⟨rfl, rfl⟩ | ⟨-, model, mem, hname, hholder⟩)
      · exact ⟨_, List.mem_append_right _ (List.mem_singleton.2 rfl), rfl, rfl⟩
      · exact ⟨model, List.mem_append_left _ mem, hname, hholder⟩
    · rintro ⟨model, mem, hname, hholder⟩
      rcases List.mem_append.1 mem with mem | mem
      · exact .inr ⟨hname ▸ new model mem, model, mem, hname, hholder⟩
      · cases List.mem_singleton.1 mem
        exact .inl ⟨hname.symm, hholder.symm⟩
  · show ((progress.graph.models ++ [shell name definition generatedName]).map
      Model.generatedName).Nodup
    rw [List.map_append]
    refine List.nodup_append.2 ⟨distinct.nodup, List.nodup_singleton _, ?_⟩
    intro old hold last hlast
    obtain ⟨model, mem, rfl⟩ := List.mem_map.1 hold
    rw [List.mem_singleton.1 hlast]
    exact new model mem

lemma distinct_of_foldlM_visit {entries : List (String × Definition)} {progress : Progress}
    (h : entries.foldlM (visit options) Progress.start = .ok progress) : Distinct progress := by
  refine foldlM_invariant (fun _ => Distinct) distinct_start ?_ h
  intro done head tail split state after distinct hvisit
  obtain ⟨hgraph, hclaimed⟩ | hadd := visit_eq_or_addModel hvisit
  · exact ⟨by rw [hgraph, hclaimed]; exact distinct.holders, by rw [hgraph]; exact distinct.nodup⟩
  · exact distinct.addModel hadd

end Resolution

/-! ## Graphs whose names are in order -/

namespace Graph

/-- Each model is found under its own name, each name leads to a model, and no two models share a
generated name. -/
structure WellNamed (graph : Graph) : Prop where
  own : ∀ id model, graph.model? id = some model → graph.idOf? model.definitionName = some id
  named : ∀ name id, graph.idOf? name = some id → ∃ model, graph.model? id = some model
  distinct : (graph.models.map Model.generatedName).Nodup

variable {graph : Graph}

/-- The name of the definition that a model stands for. -/
def definitionName? (graph : Graph) (id : ModelId) : Option String :=
  (graph.model? id).map Model.definitionName

/-- Models of the same names in the same order stand for the same definitions. -/
lemma definitionName?_eq {other : Graph} (definitions : other.models.map Model.definitionName
    = graph.models.map Model.definitionName) (id : ModelId) :
    other.definitionName? id = graph.definitionName? id := by
  rw [definitionName?, definitionName?, Graph.model?, Graph.model?, ← List.getElem?_map,
    ← List.getElem?_map, definitions]

/-- A model is found under the name of its definition. -/
lemma WellNamed.idOf?_of_definitionName? (wellNamed : graph.WellNamed) {id : ModelId}
    {name : String} (h : graph.definitionName? id = some name) : graph.idOf? name = some id := by
  obtain ⟨model, found, rfl⟩ := Option.map_eq_some_iff.1 h
  exact wellNamed.own id model found

lemma generatedName_of_model? {id : ModelId} {model : Model} (h : graph.model? id = some model) :
    graph.generatedName id = model.generatedName := by
  rw [Graph.generatedName, h]
  rfl

/-- Models are told apart by their generated names. -/
lemma WellNamed.eq_of_generatedName_eq (wellNamed : graph.WellNamed) {first second : ModelId}
    {left right : Model} (hfirst : graph.model? first = some left)
    (hsecond : graph.model? second = some right)
    (same : graph.generatedName first = graph.generatedName second) : first = second := by
  obtain ⟨i⟩ := first
  obtain ⟨j⟩ := second
  rw [generatedName_of_model? hfirst, generatedName_of_model? hsecond] at same
  have hi : (graph.models.map Model.generatedName)[i]? = some left.generatedName := by
    rw [List.getElem?_map]
    exact congrArg (Option.map _) hfirst
  have hj : (graph.models.map Model.generatedName)[j]? = some left.generatedName := by
    rw [List.getElem?_map, same]
    exact congrArg (Option.map _) hsecond
  have inUse : i < (graph.models.map Model.generatedName).length :=
    (List.getElem?_eq_some_iff.1 hi).1
  rw [(List.getElem?_inj inUse wellNamed.distinct).1 (hi.trans hj.symm)]

/-- Models are told apart by their definition names. -/
lemma WellNamed.eq_of_definitionName_eq (wellNamed : graph.WellNamed) {first second : Model}
    (hfirst : first ∈ graph.models) (hsecond : second ∈ graph.models)
    (same : first.definitionName = second.definitionName) : first = second := by
  obtain ⟨i, hi⟩ := List.mem_iff_getElem?.1 hfirst
  obtain ⟨j, hj⟩ := List.mem_iff_getElem?.1 hsecond
  have left := wellNamed.own ⟨i⟩ first hi
  have right := wellNamed.own ⟨j⟩ second hj
  rw [same, right] at left
  cases left
  rw [hj] at hi
  exact (Option.some.inj hi).symm

/-- A graph with the same names and models of the same names is as well named. -/
lemma WellNamed.of_eq {other : Graph} (wellNamed : graph.WellNamed)
    (names : other.names = graph.names)
    (definitions : other.models.map Model.definitionName
      = graph.models.map Model.definitionName)
    (generated : other.models.map Model.generatedName
      = graph.models.map Model.generatedName) : other.WellNamed := by
  have idOf : ∀ name, other.idOf? name = graph.idOf? name := by
    intro name
    rw [Graph.idOf?, Graph.idOf?, names]
  refine ⟨fun id model h => ?_, fun name id h => ?_, generated ▸ wellNamed.distinct⟩
  · have same : graph.definitionName? id = some model.definitionName := by
      rw [← definitionName?_eq definitions, definitionName?, h]
      rfl
    rw [idOf]
    exact wellNamed.idOf?_of_definitionName? same
  · rw [idOf] at h
    obtain ⟨shell, hshell⟩ := wellNamed.named name id h
    have same : other.definitionName? id = some shell.definitionName := by
      rw [definitionName?_eq definitions, definitionName?, hshell]
      rfl
    obtain ⟨model, hmodel, -⟩ := Option.map_eq_some_iff.1 same
    exact ⟨model, hmodel⟩

end Graph

namespace Resolution.Resolved

variable {definitions : Table String Definition} {options : Options} {graph : Graph} {name : String}

/-- The name of a model leads to the model of that name. -/
lemma exists_id (resolved : Resolved definitions options graph)
    (mem : name ∈ (keptModels options definitions.entries).map Prod.fst) :
    ∃ id, graph.idOf? name = some id ∧ graph.definitionName? id = some name := by
  rw [← definitionNames_eq resolved.models] at mem
  obtain ⟨model, listed, rfl⟩ := List.mem_map.1 mem
  obtain ⟨index, hindex⟩ := List.mem_iff_getElem?.1 listed
  refine ⟨⟨index⟩, resolved.own ⟨index⟩ model hindex, ?_⟩
  rw [Graph.definitionName?, Graph.model?, hindex]
  rfl

/-- A name found in the graph of the first pass leads to a model. -/
lemma named (resolved : Resolved definitions options graph) {id : ModelId}
    (h : graph.idOf? name = some id) : ∃ model, graph.model? id = some model := by
  have mem : name ∈ graph.names.keys := graph.names.mem_keys_iff.2 ⟨id, h⟩
  rw [resolved.keys, mem_keys_filter_iff] at mem
  rcases mem with isAlias | isModel
  · obtain ⟨target, found, model, -, -, hfound, hmodel, -⟩ := resolved.aliases name isAlias
    rw [h] at hfound
    cases hfound
    exact ⟨model, hmodel⟩
  · obtain ⟨found, hfound, hname⟩ := resolved.exists_id isModel
    rw [h] at hfound
    cases hfound
    obtain ⟨model, hmodel, -⟩ := Option.map_eq_some_iff.1 hname
    exact ⟨model, hmodel⟩

end Resolution.Resolved

theorem wellNamed_of_resolveAll {definitions : Table String Definition} {options : Options}
    {graph : Graph} (h : resolveAll definitions options = .ok graph) : graph.WellNamed := by
  have resolved := Resolution.resolved_of_resolveAll h
  obtain ⟨progress, hvisits, aliased⟩ := Resolution.exists_progress_of_resolveAll h
  refine ⟨resolved.own, fun name id => resolved.named, ?_⟩
  rw [aliased.models]
  exact (Resolution.distinct_of_foldlM_visit hvisits).nodup

namespace Compile

variable {document : Document} {options : Options} {graph : Graph} {compiled : CompiledSchema}

/-- A field that a compilation leaves alone is that of the first pass, for all models. -/
lemma Compilation.map_eq (compilation : Compilation document options graph compiled) {α : Type}
    (field : Model → α) (untouched : ∀ model properties classification,
      field { model with properties, classification } = field model) :
    compiled.graph.models.map field = graph.models.map field := by
  have frame := compilation.frame
  generalize graph.models = shells, compiled.graph.models = models at frame
  induction frame with
  | nil => rfl
  | cons same _ ih =>
    rw [List.map_cons, List.map_cons, ih, same, untouched]

/-- A compilation does not change which definitions models stand for. -/
lemma Compilation.definitionName?_eq (compilation : Compilation document options graph compiled)
    (id : ModelId) : compiled.graph.definitionName? id = graph.definitionName? id :=
  Graph.definitionName?_eq (compilation.map_eq Model.definitionName fun _ _ _ => rfl) id

theorem Compilation.wellNamed (compilation : Compilation document options graph compiled) :
    compiled.graph.WellNamed :=
  (wellNamed_of_resolveAll compilation.resolved).of_eq compilation.names
    (compilation.map_eq Model.definitionName fun _ _ _ => rfl)
    (compilation.map_eq Model.generatedName fun _ _ _ => rfl)

end Compile

end KubeSchema

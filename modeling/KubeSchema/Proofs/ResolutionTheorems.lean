import KubeSchema.Proofs.LoopTheorems
import KubeSchema.Proofs.TableTheorems
import KubeSchema.Resolution
import Mathlib.Data.List.Forall2

/-!
# What the first pass collects

The first pass runs two loops. `Shells` is the invariant of the first one: the models so far are the
shells of the definitions met so far, and the names of the graph are theirs. `Aliased` is the
invariant of the second one: the models stay, and an alias leads where the end of its chain leads.
No alias takes a name away from a model, since the names at the ends of chains are no aliases.
-/

namespace KubeSchema

namespace Resolution

variable {definitions : Table String Definition} {options : Options}

/-! ## Retained definitions -/

/-- The definitions that become models: those kept that are no aliases. -/
def keptModels (options : Options) (entries : List (String × Definition)) :
    List (String × Definition) :=
  entries.filter fun (name, definition) =>
    !options.isIgnored name && definition.aliasTarget?.isNone

/-- The names of the aliases kept. -/
def keptAliases (options : Options) (entries : List (String × Definition)) : List String :=
  (entries.filter fun (name, definition) =>
    !options.isIgnored name && definition.aliasTarget?.isSome).map (·.1)

/-- A model stands for a definition: it has the name, the identity, the summary and the required
keys of the definition. -/
structure StandsFor (entry : String × Definition) (model : Model) : Prop where
  definitionName : model.definitionName = entry.1
  kind : model.kind = (Identity.ofDefinition entry.1 entry.2).kind
  group : model.group = (Identity.ofDefinition entry.1 entry.2).group
  apiVersion : model.apiVersion = (Identity.ofDefinition entry.1 entry.2).apiVersion
  versionQualifier : model.versionQualifier = (Identity.ofDefinition entry.1 entry.2).qualifier
  summary : model.summary = entry.2.description.getD noSummary
  requiredKeys : model.requiredKeys = entry.2.required

lemma standsFor_shell (name : String) (definition : Definition) (generatedName : String) :
    StandsFor (name, definition) (shell name definition generatedName) :=
  ⟨rfl, rfl, rfl, rfl, rfl, rfl, rfl⟩

/-- Models have the names of the definitions they stand for, in their order. -/
lemma definitionNames_eq {entries : List (String × Definition)} {models : List Model}
    (h : List.Forall₂ StandsFor entries models) :
    models.map Model.definitionName = entries.map Prod.fst := by
  induction h with
  | nil => rfl
  | cons stands _ ih => rw [List.map_cons, List.map_cons, stands.definitionName, ih]

lemma mem_keptModels {entries : List (String × Definition)} {name : String}
    {definition : Definition} :
    (name, definition) ∈ keptModels options entries ↔
      (name, definition) ∈ entries ∧ options.isIgnored name = false ∧
        definition.aliasTarget? = none := by
  simp [keptModels]

lemma mem_keptAliases {entries : List (String × Definition)} {name : String} :
    name ∈ keptAliases options entries ↔
      options.isIgnored name = false ∧
        ∃ definition, (name, definition) ∈ entries ∧ definition.aliasTarget?.isSome = true := by
  simp only [keptAliases, List.mem_map, List.mem_filter]
  constructor
  · rintro ⟨⟨other, definition⟩, ⟨mem, h⟩, rfl⟩
    rw [Bool.and_eq_true] at h
    exact ⟨by simpa using h.1, definition, mem, h.2⟩
  · rintro ⟨kept, definition, mem, h⟩
    exact ⟨(name, definition), ⟨mem, by simp [kept, h]⟩, rfl⟩

/-! ## The first loop -/

/-- What taking a definition into account can do, if it succeeds: pass it over, note an alias, or
add a model. -/
lemma visit_cases {progress after : Progress} {name : String} {definition : Definition}
    (h : visit options progress (name, definition) = .ok after) :
    (options.isIgnored name = true ∧ after = progress) ∨
    (options.isIgnored name = false ∧ definition.aliasTarget?.isSome = true ∧
      after.graph = progress.graph ∧ after.aliases = progress.aliases ++ [name]) ∨
    (options.isIgnored name = false ∧ definition.aliasTarget? = none ∧
      after.aliases = progress.aliases ∧
      ∃ model, StandsFor (name, definition) model ∧ after.graph = progress.graph.insert model) := by
  simp only [visit] at h
  split at h
  · next ignored =>
    cases h
    exact .inl ⟨ignored, rfl⟩
  · next kept =>
    have hkept : options.isIgnored name = false := by simpa using kept
    split at h
    · next hsome =>
      cases h
      exact .inr (.inl ⟨hkept, hsome, rfl, rfl⟩)
    · next hnone =>
      rw [addModel] at h
      split at h
      · cases h
      · next generatedName _ =>
        cases h
        have stands := standsFor_shell name definition generatedName
        exact .inr (.inr ⟨hkept, by simpa using hnone, rfl, _, stands, rfl⟩)

/-- The first loop after some definitions: their shells are the models, and the names lead to the
models they name. -/
structure Shells (options : Options) (entries : List (String × Definition)) (progress : Progress) :
    Prop where
  models : List.Forall₂ StandsFor (keptModels options entries) progress.graph.models
  aliases : progress.aliases = keptAliases options entries
  names : ∀ name id, progress.graph.idOf? name = some id ↔
    ∃ model, progress.graph.model? id = some model ∧ model.definitionName = name

lemma model?_insert_eq_some_iff {graph : Graph} {model other : Model} {id : ModelId} :
    (graph.insert model).model? id = some other ↔
      (id = graph.nextId ∧ other = model) ∨ graph.model? id = some other := by
  obtain ⟨index⟩ := id
  rw [Graph.insert, Graph.model?, Graph.model?, getElem?_concat_eq_some_iff, Graph.nextId,
    ModelId.mk.injEq]

/-- One more definition, of a new name. -/
lemma Shells.visit {entries : List (String × Definition)} {progress after : Progress}
    (shells : Shells options entries progress) {name : String} {definition : Definition}
    (new : name ∉ entries.map Prod.fst)
    (h : Resolution.visit options progress (name, definition) = .ok after) :
    Shells options (entries ++ [(name, definition)]) after := by
  -- passed over, an alias, or a model
  obtain ⟨ignored, rfl⟩ | ⟨kept, hsome, hgraph, haliases⟩ |
    ⟨kept, hnone, haliases, model, shell, hgraph⟩ := visit_cases h
  · refine ⟨?_, ?_, shells.names⟩
    · simpa [keptModels, ignored] using shells.models
    · simpa [keptAliases, ignored] using shells.aliases
  · refine ⟨?_, ?_, hgraph ▸ shells.names⟩
    · rw [hgraph]
      simpa [keptModels, kept, hsome, Option.isNone_eq_false_iff.2 hsome] using shells.models
    · rw [haliases, shells.aliases]
      simp [keptAliases, kept, hsome]
  · refine ⟨?_, ?_, fun other id => ?_⟩
    · rw [hgraph]
      have grown : keptModels options (entries ++ [(name, definition)])
          = keptModels options entries ++ [(name, definition)] := by
        simp [keptModels, kept, hnone]
      rw [grown]
      exact List.rel_append shells.models (.cons shell .nil)
    · rw [haliases, shells.aliases]
      simp [keptAliases, kept, hnone]
    · rw [hgraph]
      simp only [model?_insert_eq_some_iff]
      show (progress.graph.names.insert model.definitionName _).lookup? other = some id ↔ _
      rw [Table.lookup?_insert_eq_some_iff, shell.definitionName]
      constructor
      · rintro (⟨rfl, rfl⟩ | ⟨-, found⟩)
        · exact ⟨model, .inl ⟨rfl, rfl⟩, shell.definitionName⟩
        · obtain ⟨old, hold, hname⟩ := (shells.names other id).1 found
          exact ⟨old, .inr hold, hname⟩
      · rintro ⟨old, ⟨rfl, rfl⟩ | hold, hname⟩
        · exact .inl ⟨hname ▸ shell.definitionName, rfl⟩
        · refine .inr ⟨?_, (shells.names other id).2 ⟨old, hold, hname⟩⟩
          -- the name of an older model has been met
          intro same
          have mem : name ∈ progress.graph.models.map Model.definitionName :=
            List.mem_map.2 ⟨old, List.mem_of_getElem? hold, hname.trans same⟩
          rw [definitionNames_eq shells.models] at mem
          obtain ⟨entry, hentry, rfl⟩ := List.mem_map.1 mem
          exact new (List.mem_map.2 ⟨entry, (mem_keptModels.1 hentry).1, rfl⟩)

lemma shells_start : Shells options [] Progress.start where
  models := .nil
  aliases := rfl
  names name id := by
    refine ⟨fun h => (by cases h), ?_⟩
    rintro ⟨model, h, -⟩
    cases h

/-- The first loop over all definitions. -/
lemma shells_of_foldlM_visit {progress : Progress}
    (h : definitions.entries.foldlM (visit options) Progress.start = .ok progress) :
    Shells options definitions.entries progress := by
  refine foldlM_invariant (Shells options) shells_start ?_ h
  intro done head tail split state after shells hvisit
  exact shells.visit (not_mem_keys_of_append_cons definitions.keys_nodup split) hvisit

/-- The names after the first loop are those of the models. -/
lemma Shells.exists_id_iff {entries : List (String × Definition)} {progress : Progress}
    (shells : Shells options entries progress) {name : String} :
    (∃ id, progress.graph.idOf? name = some id) ↔
      name ∈ (keptModels options entries).map Prod.fst := by
  rw [← definitionNames_eq shells.models, List.mem_map]
  constructor
  · rintro ⟨id, hid⟩
    obtain ⟨model, hmodel, hname⟩ := (shells.names name id).1 hid
    exact ⟨model, List.mem_of_getElem? hmodel, hname⟩
  · rintro ⟨model, mem, hname⟩
    obtain ⟨index, hindex⟩ := List.mem_iff_getElem?.1 mem
    exact ⟨⟨index⟩, (shells.names name ⟨index⟩).2 ⟨model, hindex, hname⟩⟩

/-! ## Chains of aliases -/

/-- Following the targets of aliases from one name leads to another. -/
inductive LeadsTo (definitions : Table String Definition) : String → String → Prop
  | here (name : String) : LeadsTo definitions name name
  | next {name between target : String} (step : nextName? definitions name = some between)
    (rest : LeadsTo definitions between target) : LeadsTo definitions name target

/-- A chain ends at a name that is no alias. -/
lemma leadsTo_of_follow {start target : String} {steps : Nat} {met : List String} {current : String}
    (h : follow definitions options start steps met current = .ok target) :
    LeadsTo definitions current target ∧ nextName? definitions target = none := by
  induction steps generalizing met current with
  | zero => cases h
  | succ steps ih =>
    rw [follow] at h
    split at h
    · next stops =>
      cases h
      exact ⟨.here _, stops⟩
    · next between step =>
      -- the three checks fail, or the rest of the chain is followed
      split at h
      · cases h
      · split at h
        · cases h
        · split at h
          · cases h
          · obtain ⟨rest, stops⟩ := ih h
            exact ⟨.next step rest, stops⟩

lemma nextName?_of_mem {name : String} {definition : Definition}
    (mem : (name, definition) ∈ definitions.entries) :
    nextName? definitions name = definition.aliasTarget? := by
  rw [nextName?, definitions.lookup?_eq_some_iff.2 mem]
  rfl

lemma nextName?_of_mem_keptModels {name : String}
    (mem : name ∈ (keptModels options definitions.entries).map Prod.fst) :
    nextName? definitions name = none := by
  obtain ⟨⟨_, definition⟩, hentry, rfl⟩ := List.mem_map.1 mem
  obtain ⟨hdefinition, -, hnone⟩ := mem_keptModels.1 hentry
  rw [nextName?_of_mem hdefinition, hnone]

lemma nextName?_of_mem_keptAliases {name : String}
    (mem : name ∈ keptAliases options definitions.entries) : nextName? definitions name ≠ none := by
  obtain ⟨-, definition, hdefinition, hsome⟩ := mem_keptAliases.1 mem
  rw [nextName?_of_mem hdefinition]
  exact Option.isSome_iff_ne_none.1 hsome

/-! ## The second loop -/

/-- The second loop after some aliases: each of them leads to the model at the end of its chain, and
nothing else has changed. -/
structure Aliased (definitions : Table String Definition) (shells : Graph) (done : List String)
    (graph : Graph) : Prop where
  models : graph.models = shells.models
  others : ∀ name, name ∉ done → graph.idOf? name = shells.idOf? name
  isAlias : ∀ name ∈ done, nextName? definitions name ≠ none
  leads : ∀ name ∈ done, ∃ target id, LeadsTo definitions name target ∧
    nextName? definitions target = none ∧ shells.idOf? target = some id ∧
    graph.idOf? name = some id

lemma aliased_start (shells : Graph) : Aliased definitions shells [] shells where
  models := rfl
  others _ _ := rfl
  isAlias name mem := by cases mem
  leads name mem := by cases mem

/-- One more alias. -/
lemma Aliased.bindAlias {shells graph after : Graph} {done : List String}
    (aliased : Aliased definitions shells done graph) {name : String}
    (isAlias : nextName? definitions name ≠ none)
    (h : Resolution.bindAlias definitions options graph name = .ok after) :
    Aliased definitions shells (done ++ [name]) after := by
  rw [Resolution.bindAlias] at h
  obtain ⟨target, hend, h⟩ := bind_eq_ok_iff.1 h
  obtain ⟨leads, stops⟩ := leadsTo_of_follow hend
  cases found : graph.idOf? target with
  | none =>
    simp only [found] at h
    cases h
  | some id =>
    simp only [found] at h
    cases h
    -- the end of the chain is no alias, so what it leads to is as it was
    have hshells : shells.idOf? target = some id := by
      rw [← aliased.others target fun mem => aliased.isAlias target mem stops]
      exact found
    have hself : (graph.bind name id).idOf? name = some id := graph.names.lookup?_insert_self id
    have hother : ∀ other, other ≠ name → (graph.bind name id).idOf? other = graph.idOf? other :=
      fun other ne => graph.names.lookup?_insert_of_ne ne
    refine ⟨aliased.models, fun other mem => ?_, fun other mem => ?_, fun other mem => ?_⟩
    · simp only [List.mem_append, List.mem_singleton, not_or] at mem
      rw [hother other mem.2, aliased.others other mem.1]
    · rcases List.mem_append.1 mem with mem | mem
      · exact aliased.isAlias other mem
      · exact List.mem_singleton.1 mem ▸ isAlias
    · by_cases same : other = name
      · subst same
        exact ⟨target, id, leads, stops, hshells, hself⟩
      · have mem : other ∈ done := by simpa [same] using mem
        rw [hother other same]
        exact aliased.leads other mem

/-- The second loop over some aliases. -/
lemma aliased_of_foldlM_bindAlias {shells graph : Graph} {names : List String}
    (areAliases : ∀ name ∈ names, nextName? definitions name ≠ none)
    (h : names.foldlM (Resolution.bindAlias definitions options) shells = .ok graph) :
    Aliased definitions shells names graph := by
  refine foldlM_invariant (Aliased definitions shells) (aliased_start shells) ?_ h
  intro done head tail split state after aliased hbind
  have mem : head ∈ names := split ▸ by simp
  exact aliased.bindAlias (areAliases head mem) hbind

/-! ## The graph of the first pass -/

/-- A graph is the result of the first pass over definitions. -/
structure Resolved (definitions : Table String Definition) (options : Options) (graph : Graph) :
    Prop where
  /-- The names are those of the definitions kept. -/
  keys : graph.names.keys = definitions.keys.filter fun name => !options.isIgnored name
  /-- Each definition kept has a model unless it is an alias. -/
  models : List.Forall₂ StandsFor (keptModels options definitions.entries) graph.models
  /-- The models are in order of name. -/
  sorted : (graph.models.map Model.definitionName).Pairwise fun a b => compare a b = .lt
  /-- A model is found under its own name. -/
  own : ∀ id model, graph.model? id = some model → graph.idOf? model.definitionName = some id
  /-- An alias leads where the end of its chain leads. -/
  aliases : ∀ name ∈ keptAliases options definitions.entries, ∃ target id model,
    LeadsTo definitions name target ∧ nextName? definitions target = none ∧
      graph.idOf? name = some id ∧ graph.model? id = some model ∧ model.definitionName = target

/-- A definition kept is that of a model or of an alias. -/
lemma mem_keys_filter_iff {name : String} :
    name ∈ definitions.keys.filter (fun name => !options.isIgnored name) ↔
      name ∈ keptAliases options definitions.entries ∨
        name ∈ (keptModels options definitions.entries).map Prod.fst := by
  rw [List.mem_filter, Table.keys, List.mem_map, mem_keptAliases, List.mem_map]
  constructor
  · rintro ⟨⟨⟨other, definition⟩, mem, rfl⟩, kept⟩
    have kept : options.isIgnored other = false := by simpa using kept
    cases htarget : definition.aliasTarget? with
    | some target => exact .inl ⟨kept, definition, mem, by rw [htarget]; rfl⟩
    | none => exact .inr ⟨_, mem_keptModels.2 ⟨mem, kept, htarget⟩, rfl⟩
  · rintro (⟨kept, definition, mem, -⟩ | ⟨⟨_, definition⟩, mem, rfl⟩)
    · exact ⟨⟨_, mem, rfl⟩, by simpa using kept⟩
    · exact ⟨⟨_, (mem_keptModels.1 mem).1, rfl⟩, by simpa using (mem_keptModels.1 mem).2.1⟩

/-- The first pass is a run of its two loops. -/
lemma exists_progress_of_resolveAll {graph : Graph}
    (h : resolveAll definitions options = .ok graph) :
    ∃ progress, definitions.entries.foldlM (visit options) Progress.start = .ok progress ∧
      Aliased definitions progress.graph progress.aliases graph := by
  rw [resolveAll] at h
  obtain ⟨progress, hvisits, hbinds⟩ := bind_eq_ok_iff.1 h
  refine ⟨progress, hvisits, aliased_of_foldlM_bindAlias (fun name mem => ?_) hbinds⟩
  rw [(shells_of_foldlM_visit hvisits).aliases] at mem
  exact nextName?_of_mem_keptAliases mem

theorem resolved_of_resolveAll {graph : Graph} (h : resolveAll definitions options = .ok graph) :
    Resolved definitions options graph := by
  obtain ⟨progress, hvisits, aliased⟩ := exists_progress_of_resolveAll h
  have shells := shells_of_foldlM_visit hvisits
  -- the names of models are no aliases, so the second loop has left them alone
  have kept : ∀ name ∈ (keptModels options definitions.entries).map Prod.fst,
      graph.idOf? name = progress.graph.idOf? name := fun name mem =>
    aliased.others name fun halias => aliased.isAlias name halias (nextName?_of_mem_keptModels mem)
  have names := definitionNames_eq shells.models
  refine ⟨?_, aliased.models ▸ shells.models, ?_, fun id model hmodel => ?_, fun name mem => ?_⟩
  · refine eq_of_sorted_of_mem_iff graph.names.keys_sorted (definitions.keys_sorted.filter _)
      fun name => ?_
    rw [Table.mem_keys_iff, mem_keys_filter_iff, ← shells.aliases]
    constructor
    · rintro ⟨id, hid⟩
      by_cases mem : name ∈ progress.aliases
      · exact .inl mem
      · exact .inr (shells.exists_id_iff.1 ⟨id, aliased.others name mem ▸ hid⟩)
    · rintro (mem | mem)
      · obtain ⟨-, id, -, -, -, hid⟩ := aliased.leads name mem
        exact ⟨id, hid⟩
      · obtain ⟨id, hid⟩ := shells.exists_id_iff.2 mem
        exact ⟨id, (kept name mem).trans hid⟩
  · rw [aliased.models, names, List.pairwise_map]
    exact definitions.sorted.filter _
  · rw [Graph.model?, aliased.models] at hmodel
    have hid := (shells.names model.definitionName id).2 ⟨model, hmodel, rfl⟩
    rw [kept _ (shells.exists_id_iff.1 ⟨id, hid⟩), hid]
  · rw [← shells.aliases] at mem
    obtain ⟨target, id, leads, stops, hid, hname⟩ := aliased.leads name mem
    obtain ⟨model, hmodel, hdefinition⟩ := (shells.names target id).1 hid
    refine ⟨target, id, model, leads, stops, hname, ?_, hdefinition⟩
    rw [Graph.model?, aliased.models]
    exact hmodel

end Resolution

end KubeSchema

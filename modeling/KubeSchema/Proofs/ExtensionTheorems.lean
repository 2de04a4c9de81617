import KubeSchema.Proofs.CorrespondenceTheorems

/-!
# Adding a definition

A further definition does not disturb the models of the others. Names lead where they led before,
since no chain of aliases passes through a name that was not defined (`carries_of_includes`), so the
types and roles of models are the same up to the positions of models. Generated names are given in
order of definition name, and those given before the turn of the new definition stay
(`mem_models_insert`).
-/

namespace KubeSchema

open KubeSchema.Graph (SameDefinition)

/-! ## Names in more definitions -/

namespace Resolution

variable {options : Options} {left right : Table String Definition} {graph other : Graph}

/-- The second table has all definitions of the first. -/
def Includes (left right : Table String Definition) : Prop :=
  ∀ name definition, left.lookup? name = some definition → right.lookup? name = some definition

lemma includes_insert {name : String} (new : left.lookup? name = none) (definition : Definition) :
    Includes left (left.insert name definition) := by
  intro other found h
  have ne : other ≠ name := by
    rintro rfl
    rw [new] at h
    cases h
  rwa [Table.lookup?_insert_of_ne _ ne]

lemma Includes.mem (includes : Includes left right) {entry : String × Definition}
    (mem : entry ∈ left.entries) : entry ∈ right.entries := by
  rw [← Table.lookup?_eq_some_iff] at mem ⊢
  exact includes _ _ mem

lemma Includes.mem_keptModels (includes : Includes left right) {entry : String × Definition}
    (mem : entry ∈ keptModels options left.entries) :
    entry ∈ keptModels options right.entries := by
  obtain ⟨listed, kept⟩ := Resolution.mem_keptModels.1 mem
  exact Resolution.mem_keptModels.2 ⟨includes.mem listed, kept⟩

lemma Includes.mem_keptAliases (includes : Includes left right) {name : String}
    (mem : name ∈ keptAliases options left.entries) :
    name ∈ keptAliases options right.entries := by
  obtain ⟨kept, definition, listed, isAlias⟩ := Resolution.mem_keptAliases.1 mem
  exact Resolution.mem_keptAliases.2 ⟨kept, definition, includes.mem listed, isAlias⟩

/-- A chain that can be followed can still be followed. -/
lemma Includes.leadsTo (includes : Includes left right) {name target : String}
    (h : LeadsTo left name target) : LeadsTo right name target := by
  induction h with
  | here name => exact .here name
  | next step _ ih =>
    obtain ⟨definition, found, isAlias⟩ := Option.bind_eq_some_iff.1 step
    refine .next ?_ ih
    rw [nextName?, includes _ _ found]
    exact isAlias

/-- A chain has one end. -/
lemma LeadsTo.unique {definitions : Table String Definition} {name first second : String}
    (leadsFirst : LeadsTo definitions name first) (stopsFirst : nextName? definitions first = none)
    (leadsSecond : LeadsTo definitions name second)
    (stopsSecond : nextName? definitions second = none) : first = second := by
  induction leadsFirst with
  | here name =>
    cases leadsSecond with
    | here => rfl
    | next step =>
      rw [stopsFirst] at step
      cases step
  | next step _ ih =>
    cases leadsSecond with
    | here =>
      rw [stopsSecond] at step
      cases step
    | next stepSecond rest =>
      rw [step] at stepSecond
      cases stepSecond
      exact ih stopsFirst rest

/-- With more definitions, names lead to the models they led to. -/
theorem carries_of_includes (includes : Includes left right) (before : Resolved left options graph)
    (after : Resolved right options other) : graph.Carries other := by
  intro name id h
  have mem : name ∈ graph.names.keys := graph.names.mem_keys_iff.2 ⟨id, h⟩
  rw [before.keys, mem_keys_filter_iff] at mem
  rcases mem with isAlias | isModel
  · obtain ⟨target, found, model, leads, stops, hfound, hmodel, hname⟩ :=
      before.aliases name isAlias
    obtain ⟨last, image, imageModel, leadsLast, stopsLast, himage, himageModel, hlast⟩ :=
      after.aliases name (includes.mem_keptAliases isAlias)
    -- the end of the chain is a model, so it is still the end
    have isModel : target ∈ (keptModels options left.entries).map Prod.fst := by
      rw [← definitionNames_eq before.models, ← hname]
      exact List.mem_map.2 ⟨model, List.mem_of_getElem? hmodel, rfl⟩
    obtain ⟨entry, hentry, rfl⟩ := List.mem_map.1 isModel
    have stopsStill : nextName? right entry.1 = none :=
      nextName?_of_mem_keptModels (List.mem_map.2 ⟨entry, includes.mem_keptModels hentry, rfl⟩)
    have same := LeadsTo.unique (includes.leadsTo leads) stopsStill leadsLast stopsLast
    rw [h] at hfound
    cases hfound
    refine ⟨image, himage, entry.1, ?_, ?_⟩
    · rw [Graph.definitionName?, hmodel, Option.map_some, hname]
    · rw [Graph.definitionName?, himageModel, Option.map_some, hlast, same]
  · obtain ⟨entry, hentry, rfl⟩ := List.mem_map.1 isModel
    obtain ⟨found, hfound, hname⟩ := before.exists_id isModel
    obtain ⟨image, himage, hsame⟩ :=
      after.exists_id (List.mem_map.2 ⟨entry, includes.mem_keptModels hentry, rfl⟩)
    rw [h] at hfound
    cases hfound
    exact ⟨image, himage, entry.1, hname, hsame⟩

/-- A name that both tables define alike, or neither does, leads to corresponding models or to none
in both graphs. -/
lemma idOf?_rel (includes : Includes left right) (before : Resolved left options graph)
    (after : Resolved right options other) {name : String}
    (same : right.lookup? name = left.lookup? name) :
    Option.Rel (SameDefinition graph other) (graph.idOf? name) (other.idOf? name) := by
  cases h : graph.idOf? name with
  | some id =>
    obtain ⟨image, himage, sameName⟩ := carries_of_includes includes before after name id h
    rw [himage]
    exact .some sameName
  | none =>
    have unlisted : name ∉ other.names.keys := by
      have absent := graph.names.lookup?_eq_none_iff.1 h
      rw [before.keys, List.mem_filter, Table.mem_keys_iff, ← same] at absent
      rw [after.keys, List.mem_filter, Table.mem_keys_iff]
      exact absent
    rw [Graph.idOf?, other.names.lookup?_eq_none_iff.2 unlisted]
    exact .none

/-! ## Generated names -/

/-- The first loop adds models at the end, for definitions it meets. -/
lemma exists_models_of_foldlM_visit {entries : List (String × Definition)}
    {progress after : Progress} (h : entries.foldlM (visit options) progress = .ok after) :
    ∃ more, after.graph.models = progress.graph.models ++ more ∧
      ∀ model ∈ more, model.definitionName ∈ entries.map Prod.fst := by
  refine foldlM_invariant (fun done state => ∃ more,
    state.graph.models = progress.graph.models ++ more ∧
      ∀ model ∈ more, model.definitionName ∈ done.map Prod.fst) ⟨[], ?_, ?_⟩ ?_ h
  · rw [List.append_nil]
  · intro model mem
    cases mem
  · rintro done ⟨name, definition⟩ tail - state next ⟨more, models, met⟩ hvisit
    have metStill : ∀ model ∈ more,
        model.definitionName ∈ (done ++ [(name, definition)]).map Prod.fst := by
      intro model mem
      rw [List.map_append]
      exact List.mem_append_left _ (met model mem)
    obtain ⟨-, rfl⟩ | ⟨-, -, hgraph, -⟩ | ⟨-, -, -, model, stands, hgraph⟩ := visit_cases hvisit
    · exact ⟨more, models, metStill⟩
    · exact ⟨more, by rw [hgraph, models], metStill⟩
    · refine ⟨more ++ [model], ?_, fun last mem => ?_⟩
      · rw [hgraph, Graph.insert, models, List.append_assoc]
      · rcases List.mem_append.1 mem with mem | mem
        · exact metStill last mem
        · rw [List.mem_singleton.1 mem, stands.definitionName, List.map_append]
          exact List.mem_append_right _ (List.mem_singleton.2 rfl)

/-- The models of definitions whose names come before that of a new one stay as they are, with their
generated names. -/
theorem mem_models_insert {name : String} {definition : Definition}
    (new : left.lookup? name = none) (before : resolveAll left options = .ok graph)
    (after : resolveAll (left.insert name definition) options = .ok other) {model : Model}
    (mem : model ∈ graph.models) (earlier : compare model.definitionName name = .lt) :
    model ∈ other.models := by
  obtain ⟨below, above, split, inserted, larger⟩ :=
    Table.exists_split_insertEntry left.sorted (left.lookup?_eq_none_iff.1 new) definition
  obtain ⟨last, hlast, aliasedBefore⟩ := exists_progress_of_resolveAll before
  obtain ⟨final, hfinal, aliasedAfter⟩ := exists_progress_of_resolveAll after
  have entries : (left.insert name definition).entries = below ++ (name, definition) :: above :=
    inserted
  -- both loops begin with the definitions below the new one
  rw [split, List.foldlM_append] at hlast
  rw [entries, List.foldlM_append] at hfinal
  obtain ⟨middle, hmiddle, hrest⟩ := bind_eq_ok_iff.1 hlast
  obtain ⟨same, hsame, hrestAfter⟩ := bind_eq_ok_iff.1 hfinal
  rw [hmiddle] at hsame
  cases hsame
  obtain ⟨more, models, met⟩ := exists_models_of_foldlM_visit hrest
  obtain ⟨moreAfter, modelsAfter, -⟩ := exists_models_of_foldlM_visit hrestAfter
  rw [aliasedBefore.models, models] at mem
  rw [aliasedAfter.models, modelsAfter]
  rcases List.mem_append.1 mem with mem | mem
  · exact List.mem_append_left _ mem
  · -- the model of a definition above the new one does not come before it
    obtain ⟨entry, hentry, hname⟩ := List.mem_map.1 (met model mem)
    have later := larger entry hentry
    rw [hname, Std.OrientedCmp.gt_of_lt earlier] at later
    cases later

end Resolution

/-! ## Compilations with more definitions -/

open Resolution (keptModels Includes)

namespace Compile

variable {document : Document} {options : Options} {graph : Graph} {compiled : CompiledSchema}

/-- A definition kept has a model, with its properties and its roles. -/
lemma Compilation.exists_model (compilation : Compilation document options graph compiled)
    {entry : String × Definition} (mem : entry ∈ keptModels options document.definitions.entries) :
    ∃ model ∈ compiled.graph.models, CompiledFrom graph compiled.registry entry model ∧
      model.classification = entry.2.roles graph (.ofGraph graph options) := by
  have whole := List.Forall₂.mp (fun _ _ => And.intro) compilation.models compilation.roles
  exact exists_of_forall₂ whole.flip mem

/-- The properties of a model have the types that their schemas stand for by the first pass. -/
lemma CompiledFrom.exists_trees {registry : Registry} {entry : String × Definition} {model : Model}
    (compiled : CompiledFrom graph registry entry model)
    (noneDangling : entry.2.dangling? graph = none) :
    List.Forall₂ (fun schema property => Typed graph entry.2 registry schema property ∧
      ∃ tree, registry.tree? property.2.type = some tree ∧
        schema.2.denote graph.typeOf? = some tree)
      (Properties.inEmissionOrder entry.2) model.properties := by
  refine List.forall₂_iff_zip.2 ⟨compiled.properties.length_eq, fun {schema property} hzip => ?_⟩
  have typed := List.forall₂_zip compiled.properties hzip
  have noneHere := List.findSome?_eq_none_iff.1 noneDangling schema (List.of_mem_zip hzip).1
  exact ⟨typed, typed.exists_tree noneHere⟩

end Compile

open Compile

/-! ## Models that stay -/

/-- Properties of two models, each in its compilation, are the same with types that match. -/
structure Property.Matches (left right : CompiledSchema) (property other : String × Property) :
    Prop where
  wireName : other.1 = property.1
  /-- All but the handle of the type is equal. -/
  fields : other.2 = { property.2 with type := other.2.type }
  type : ∃ tree image, left.registry.tree? property.2.type = some tree ∧
    right.registry.tree? other.2.type = some image ∧
    tree.Matches (SameDefinition left.graph right.graph) image

/-- Two models, each in its compilation, are the same up to their generated names and the positions
of models and types. -/
structure Model.Matches (left right : CompiledSchema) (model other : Model) : Prop where
  /-- All but the generated name, the properties and the roles is equal. -/
  fields : other = { model with
    generatedName := other.generatedName
    properties := other.properties
    classification := other.classification }
  properties : List.Forall₂ (Property.Matches left right) model.properties other.properties
  classification : model.classification.Matches (SameDefinition left.graph right.graph)
    other.classification

variable {options : Options} {document more : Document} {left right : CompiledSchema}
  {graph other : Graph}

/-- Models of one definition differ in their generated names, properties and roles only. -/
lemma Resolution.StandsFor.fields_eq {entry : String × Definition} {model image : Model}
    (first : StandsFor entry model) (second : StandsFor entry image) :
    image = { model with
      generatedName := image.generatedName
      properties := image.properties
      classification := image.classification } := by
  have name := second.definitionName.trans first.definitionName.symm
  have kind := second.kind.trans first.kind.symm
  have group := second.group.trans first.group.symm
  have version := second.apiVersion.trans first.apiVersion.symm
  have qualifier := second.versionQualifier.trans first.versionQualifier.symm
  have summary := second.summary.trans first.summary.symm
  have required := second.requiredKeys.trans first.requiredKeys.symm
  cases image
  simp only [Model.mk.injEq, true_and, and_true]
  exact ⟨name, kind, group, version, qualifier, summary, required⟩

section Matching

variable {entry : String × Definition} {model image : Model}

/-- Models compiled from one definition have matching properties. -/
lemma properties_matches (carries : graph.Carries other)
    (first : CompiledFrom graph left.registry entry model)
    (second : CompiledFrom other right.registry entry image)
    (noneLeft : entry.2.dangling? graph = none) (noneRight : entry.2.dangling? other = none)
    (same : SameDefinition left.graph right.graph = SameDefinition graph other) :
    List.Forall₂ (Property.Matches left right) model.properties image.properties := by
  refine (forall₂_join (first.exists_trees noneLeft) (second.exists_trees noneRight)).imp ?_
  rintro property found ⟨schema, ⟨typed, tree, htree, hdenote⟩, typedFound, last, hlast, hother⟩
  obtain ⟨denoted, hdenoted, related⟩ := carries.denote hdenote
  rw [hother] at hdenoted
  cases hdenoted
  refine ⟨typedFound.wireName.trans typed.wireName.symm, ?_, tree, last, htree, hlast,
    same ▸ related⟩
  rw [typedFound.eq, typed.eq]
  rfl

/-- The properties of a definition that has been compiled have matching types in two graphs. -/
lemma typeOf?_matches (carries : graph.Carries other)
    (first : CompiledFrom graph left.registry entry model)
    (noneLeft : entry.2.dangling? graph = none) (wireName : String) :
    Option.Rel (TypeTree.Matches (SameDefinition graph other)) (entry.2.typeOf? graph wireName)
      (entry.2.typeOf? other wireName) := by
  rw [Definition.typeOf?, Definition.typeOf?]
  cases h : entry.2.properties.lookup? wireName with
  | none => exact .none
  | some schema =>
    have mem := Properties.mem_inEmissionOrder_iff.2 h
    obtain ⟨property, -, -, tree, -, hdenote⟩ :=
      exists_of_forall₂ (first.exists_trees noneLeft).flip mem
    obtain ⟨denoted, hdenoted, related⟩ := carries.denote hdenote
    rw [Option.bind_some, Option.bind_some, hdenote, hdenoted]
    exact .some related

end Matching

/-- With more definitions, each model has a match, if the names of the metadata are defined as
before. -/
theorem exists_matches_of_includes (before : Compilation document options graph left)
    (after : Compilation more options other right)
    (includes : Includes document.definitions more.definitions)
    (objectMeta : more.definitions.lookup? options.objectMeta
      = document.definitions.lookup? options.objectMeta)
    (listMeta : more.definitions.lookup? options.listMeta
      = document.definitions.lookup? options.listMeta)
    {model : Model} (mem : model ∈ left.graph.models) :
    ∃ image ∈ right.graph.models, model.Matches left right image := by
  have resolvedBefore := Resolution.resolved_of_resolveAll before.resolved
  have resolvedAfter := Resolution.resolved_of_resolveAll after.resolved
  have carries := Resolution.carries_of_includes includes resolvedBefore resolvedAfter
  have same : SameDefinition left.graph right.graph = SameDefinition graph other := by
    funext id image
    rw [SameDefinition, SameDefinition, before.definitionName?_eq, after.definitionName?_eq]
  obtain ⟨definition, kept, noneLeft, first, rolesLeft⟩ := before.exists_kept mem
  have keptAfter := includes.mem_keptModels kept
  obtain ⟨image, listed, second, rolesRight⟩ := after.exists_model keptAfter
  refine ⟨image, listed, first.stands.fields_eq second.stands,
    properties_matches carries first second noneLeft (after.noDangling _ keptAfter) same, ?_⟩
  rw [rolesLeft, rolesRight, same]
  refine Definition.roles_matches (typeOf?_matches carries first noneLeft)
    (Resolution.idOf?_rel includes resolvedBefore resolvedAfter objectMeta)
    (Resolution.idOf?_rel includes resolvedBefore resolvedAfter listMeta) ?_
  intro id found mark target hid hmark
  have wellLeft := wellNamed_of_resolveAll before.resolved
  have wellRight := wellNamed_of_resolveAll after.resolved
  exact hid.eq_iff wellLeft wellRight hmark

/-- A model is given with its generated name by a model of the first pass. -/
lemma Compile.Compilation.exists_shell (compilation : Compilation document options graph left)
    {model : Model} (mem : model ∈ left.graph.models) :
    ∃ shell ∈ graph.models, shell.definitionName = model.definitionName ∧
      shell.generatedName = model.generatedName := by
  obtain ⟨shell, listed, frame⟩ := exists_of_forall₂ compilation.frame mem
  exact ⟨shell, listed, by rw [frame], by rw [frame]⟩

/-- **Adding a definition.** If a document compiles with a further definition as well as without it,
each model has a match in the result with it, unless the definition takes the name of the metadata;
and the models of definitions that come before it have their generated names. -/
theorem compile_insert_matches {name : String} {definition : Definition}
    (new : document.definitions.lookup? name = none)
    (notObjectMeta : name ≠ options.objectMeta) (notListMeta : name ≠ options.listMeta)
    (before : compile document options = .ok left)
    (after : compile { document with
      definitions := document.definitions.insert name definition } options = .ok right) :
    ∀ model ∈ left.graph.models, ∃ image ∈ right.graph.models, model.Matches left right image ∧
      (compare model.definitionName name = .lt → image.generatedName = model.generatedName) := by
  intro model mem
  obtain ⟨graph, compilationBefore⟩ := compilation_of_compile before
  obtain ⟨other, compilationAfter⟩ := compilation_of_compile after
  obtain ⟨image, listed, related⟩ := exists_matches_of_includes compilationBefore compilationAfter
    (Resolution.includes_insert new definition)
    (document.definitions.lookup?_insert_of_ne notObjectMeta.symm)
    (document.definitions.lookup?_insert_of_ne notListMeta.symm) mem
  refine ⟨image, listed, related, fun earlier => ?_⟩
  -- the first pass gives both models the name of one shell
  obtain ⟨shell, hshell, hname, hgenerated⟩ := compilationBefore.exists_shell mem
  obtain ⟨last, hlast, hlastName, hlastGenerated⟩ := compilationAfter.exists_shell listed
  have still : shell ∈ other.models := by
    refine Resolution.mem_models_insert new compilationBefore.resolved compilationAfter.resolved
      hshell ?_
    rw [hname]
    exact earlier
  have sameName : last.definitionName = shell.definitionName := by
    rw [hlastName, hname, related.fields]
  have wellNamed := wellNamed_of_resolveAll compilationAfter.resolved
  have one : last = shell := wellNamed.eq_of_definitionName_eq hlast still sameName
  rw [← hlastGenerated, one, hgenerated]

/-- The small document with a definition that takes the generated name of a later one. -/
def crowdedDocument : Document :=
  { sampleDocument with
    definitions := sampleDocument.definitions.insert "c.Early" { gvks := [⟨"", "d", "Chain"⟩] } }

theorem compile_insert_matches_of_sample : ∃ left right,
    compile sampleDocument .standard = .ok left ∧ compile crowdedDocument .standard = .ok right ∧
    ∀ model ∈ left.graph.models, ∃ image ∈ right.graph.models, model.Matches left right image ∧
      (compare model.definitionName "c.Early" = .lt →
        image.generatedName = model.generatedName) := by
  obtain ⟨left, before⟩ := exists_compile_sampleDocument
  obtain ⟨right, after⟩ : ∃ right, compile crowdedDocument .standard = .ok right :=
    exists_ok_of_isSome (by decide +kernel)
  refine ⟨left, right, before, after, ?_⟩
  exact compile_insert_matches (by decide) (by decide) (by decide) before after

end KubeSchema

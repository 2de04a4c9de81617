import KubeSchema.Proofs.ArenaTheorems
import KubeSchema.Proofs.ManifestTheorems

/-!
# Stages of a compilation

`Compile.Stage` lists the sessions that a compilation goes through, one constructor for each of its
loops and for every prefix of the elements the loop has met, whether the compilation fails later or
not. Each of them can be reached by steps (`Compile.Stage.reachable`), so no position in it dangles.
What is written about a compilation afterwards is read at its last stage.
-/

namespace KubeSchema

open Resolution (Progress)

namespace Compile

/-- The sessions of a compilation. -/
inductive Stage (document : Document) (options : Options) : Session → Prop
  /-- Some definitions have been taken into account. -/
  | visiting {done : List (String × Definition)} {progress : Progress}
    (first : done <+: document.definitions.entries)
    (visits : done.foldlM (Resolution.visit options) Progress.start = .ok progress) :
    Stage document options ⟨progress.graph, .initial⟩
  /-- Some aliases lead to models. -/
  | aliasing {progress : Progress} {done : List String} {graph : Graph}
    (visits : document.definitions.entries.foldlM (Resolution.visit options) Progress.start
      = .ok progress)
    (first : done <+: progress.aliases)
    (binds : done.foldlM (Resolution.bindAlias document.definitions options) progress.graph
      = .ok graph) :
    Stage document options ⟨graph, .initial⟩
  /-- Some names have types. -/
  | binding {graph : Graph} {done : List (String × ModelId)}
    (resolved : resolveAll document.definitions options = .ok graph)
    (first : done <+: graph.names.entries) :
    Stage document options
      ⟨graph, done.foldl (fun registry (name, id) => (registry.bindModel name id).2) .initial⟩
  /-- Some models have their properties. -/
  | compiling {graph : Graph} {done rest results : List Model} {registry : Registry}
    (resolved : resolveAll document.definitions options = .ok graph)
    (split : graph.models = done ++ rest)
    (compiled : modelProperties document.definitions (bindNames graph) done
      = .ok (results, registry)) :
    Stage document options ⟨{ graph with models := results ++ rest }, registry⟩
  /-- The next model has some of its properties, or has met its first fault. -/
  | adding {graph : Graph} {done rest results : List Model} {model : Model} {registry : Registry}
    {definition : Definition} {entries : List (String × PropertySchema)}
    (resolved : resolveAll document.definitions options = .ok graph)
    (split : graph.models = done ++ model :: rest)
    (compiled : modelProperties document.definitions (bindNames graph) done
      = .ok (results, registry))
    (found : document.definitions.lookup? model.definitionName = some definition)
    (first : entries <+: Properties.inEmissionOrder definition) :
    Stage document options
      (let (_, model, registry) := Properties.add definition Table.empty
        { model with properties := [] } registry entries
      ⟨{ graph with models := results ++ model :: rest }, registry⟩)
  /-- The registry is closed, and some models have their roles. -/
  | classifying {graph : Graph} {models done rest results : List Model} {registry last : Registry}
    (resolved : resolveAll document.definitions options = .ok graph)
    (compiled : modelProperties document.definitions (bindNames graph) graph.models
      = .ok (models, registry))
    (closed : registry.sealUp = (.ok (), last)) (split : models = done ++ rest)
    (roles : done.mapM (classified last (.ofGraph graph options)) = .ok results) :
    Stage document options ⟨{ graph with models := results ++ rest }, last⟩

end Compile

namespace Session

variable {session : Session} {graph : Graph} {registry after : Registry}
  {before rest models results : List Model} {model : Model}

/-! ## Loops as steps -/

/-- Calls that bind nothing are steps. -/
lemma Reachable.asksFor (reachable : session.Reachable) (asks : session.registry.AsksFor after) :
    Reachable { session with registry := after } := by
  refine asks.invariant (motive := fun after => Reachable { session with registry := after })
    reachable ?_
  intro registry call binds reachable
  refine reachable.step (.call call ?_)
  rintro name id rfl
  cases binds

/-- Replacing the model behind some others. -/
lemma update_append (graph : Graph) (before rest : List Model) (model image : Model) :
    Graph.update { graph with models := before ++ model :: rest } ⟨before.length⟩ image
      = { graph with models := before ++ image :: rest } := by
  simp [Graph.update]

lemma model?_append (graph : Graph) (before rest : List Model) (model : Model) :
    Graph.model? { graph with models := before ++ model :: rest } ⟨before.length⟩ = some model := by
  simp [Graph.model?]

/-- The session behind some models, one model and more models. -/
def around (graph : Graph) (registry : Registry) (before rest : List Model) (model : Model) :
    Session :=
  ⟨{ graph with models := before ++ model :: rest }, registry⟩

/-- Compiling the properties of the model behind some others. -/
lemma Reachable.add (reachable : Reachable (around graph registry before rest model))
    (definition : Definition) {entries : List (String × PropertySchema)}
    (first : entries <+: Properties.inEmissionOrder definition) :
    Reachable
      (let (_, image, after) := Properties.add definition Table.empty
        { model with properties := [] } registry entries
      around graph after before rest image) := by
  have found : (around graph registry before rest model).graph.model? ⟨before.length⟩
      = some model := model?_append graph before rest model
  have step := reachable.step (.compileProperties definition found first)
  unfold around at step ⊢
  dsimp only at step ⊢
  rw [update_append] at step
  exact step

/-- Classifying the model behind some others. -/
lemma Reachable.classify (reachable : Reachable (around graph registry before rest model))
    {metadata : MetadataModels} {classification : Classification}
    (roles : model.classify registry metadata = .ok classification) :
    Reachable (around graph registry before rest { model with classification }) := by
  have found : (around graph registry before rest model).graph.model? ⟨before.length⟩
      = some model := model?_append graph before rest model
  have step := reachable.step (.classify found roles)
  unfold around at step ⊢
  dsimp only at step
  rw [update_append] at step
  exact step

/-- The head is behind the models before it, and then one of those before the tail. -/
lemma around_eq (graph : Graph) (registry : Registry) (before tail rest : List Model)
    (model : Model) :
    around graph registry before (tail ++ rest) model
      = ⟨{ graph with models := (before ++ [model]) ++ (tail ++ rest) }, registry⟩ := by
  unfold around
  rw [← List.append_cons]

/-- Compiling the properties of models behind some others. -/
lemma Reachable.modelProperties {definitions : Table String Definition}
    (reachable : Reachable ⟨{ graph with models := before ++ (models ++ rest) }, registry⟩)
    (compiled : Compile.modelProperties definitions registry models = .ok (results, after)) :
    Reachable ⟨{ graph with models := before ++ (results ++ rest) }, after⟩ := by
  induction models generalizing before registry results with
  | nil =>
    cases compiled
    exact reachable
  | cons model tail ih =>
    have here : Reachable (around graph registry before (tail ++ rest) model) := reachable
    unfold Compile.modelProperties at compiled
    cases found : definitions.lookup? model.definitionName with
    | none =>
      rw [found] at compiled
      obtain ⟨⟨tailResults, last⟩, htail, heq⟩ := bind_eq_ok_iff.1 compiled
      cases heq
      rw [around_eq] at here
      have next := ih here htail
      rw [← around_eq] at next
      exact next
    | some definition =>
      rw [found] at compiled
      have added := here.add definition List.prefix_rfl
      dsimp only at compiled
      rw [← compileProperties] at added
      generalize compileProperties model definition registry = outcome at compiled added
      obtain ⟨result, image, between⟩ := outcome
      cases result with
      | error error => cases compiled
      | ok =>
        obtain ⟨⟨tailResults, last⟩, htail, heq⟩ := bind_eq_ok_iff.1 compiled
        cases heq
        dsimp only at added
        rw [around_eq] at added
        have next := ih added htail
        rw [← around_eq] at next
        exact next

/-- Classifying models behind some others. -/
lemma Reachable.classified {metadata : MetadataModels}
    (reachable : Reachable ⟨{ graph with models := before ++ (models ++ rest) }, registry⟩)
    (roles : models.mapM (Compile.classified registry metadata) = .ok results) :
    Reachable ⟨{ graph with models := before ++ (results ++ rest) }, registry⟩ := by
  induction models generalizing before results with
  | nil =>
    cases roles
    exact reachable
  | cons model tail ih =>
    have here : Reachable (around graph registry before (tail ++ rest) model) := reachable
    rw [List.mapM_cons] at roles
    obtain ⟨image, himage, roles⟩ := bind_eq_ok_iff.1 roles
    obtain ⟨tailResults, htail, heq⟩ := bind_eq_ok_iff.1 roles
    cases heq
    obtain ⟨classification, hclassify, heq⟩ := bind_eq_ok_iff.1 himage
    cases heq
    have step := here.classify hclassify
    rw [around_eq] at step
    have next := ih step htail
    rw [← around_eq] at next
    exact next

end Session

/-! ## Stages as reachable sessions -/

namespace Compile

open Session (Reachable)

variable {document : Document} {options : Options} {graph : Graph}

/-- The shells of definitions refer to nothing. -/
lemma reachable_visiting {done : List (String × Definition)} {progress : Progress}
    (visits : done.foldlM (Resolution.visit options) Progress.start = .ok progress) :
    Reachable ⟨progress.graph, .initial⟩ := by
  refine foldlM_invariant (fun _ progress => Reachable ⟨progress.graph, .initial⟩) .start ?_ visits
  intro _ entry _ _ state after reachable hvisit
  obtain ⟨hgraph, -⟩ | hadd := Resolution.visit_eq_or_addModel hvisit
  · rw [hgraph]
    exact reachable
  · obtain ⟨generatedName, -, rfl⟩ := Resolution.addModel_cases hadd
    refine reachable.step (.insert ⟨fun entry mem => ?_, fun id isItem => ?_⟩)
    · cases mem
    · cases isItem

/-- An alias is bound to a model that a name leads to. -/
lemma reachable_aliasing {definitions : Table String Definition} {shells : Graph}
    {done : List String} (reachable : Reachable ⟨shells, .initial⟩)
    (binds : done.foldlM (Resolution.bindAlias definitions options) shells = .ok graph) :
    Reachable ⟨graph, .initial⟩ := by
  refine foldlM_invariant (fun _ graph => Reachable ⟨graph, .initial⟩) reachable ?_ binds
  intro _ name _ _ state after reachable hbind
  unfold Resolution.bindAlias at hbind
  obtain ⟨target, -, hbind⟩ := bind_eq_ok_iff.1 hbind
  cases found : state.idOf? target with
  | none =>
    rw [found] at hbind
    cases hbind
  | some id =>
    rw [found] at hbind
    cases hbind
    exact reachable.step (.bind name (reachable.sound.names target id found))

/-- The graph of the first pass, with a registry that is still empty. -/
lemma reachable_resolved (resolved : resolveAll document.definitions options = .ok graph) :
    Reachable ⟨graph, .initial⟩ := by
  unfold resolveAll at resolved
  obtain ⟨progress, visits, binds⟩ := bind_eq_ok_iff.1 resolved
  exact reachable_aliasing (reachable_visiting visits) binds

/-- The names of the graph lead to its models. -/
lemma reachable_binding {done : List (String × ModelId)} (reachable : Reachable ⟨graph, .initial⟩)
    (first : done <+: graph.names.entries) :
    Reachable
      ⟨graph, done.foldl (fun registry (name, id) => (registry.bindModel name id).2) .initial⟩ := by
  refine foldl_invariant (fun _ registry => Reachable ⟨graph, registry⟩) reachable ?_
  intro met entry tail split registry bound
  have mem : entry ∈ graph.names.entries := first.subset (split ▸ by simp)
  have inRange := reachable.sound.names entry.1 entry.2 (graph.names.lookup?_eq_some_iff.2 mem)
  refine bound.step (.call (.bind entry.1 entry.2) ?_)
  intro name id same
  cases same
  exact inRange

lemma reachable_bindNames (resolved : resolveAll document.definitions options = .ok graph) :
    Reachable ⟨graph, bindNames graph⟩ :=
  reachable_binding (reachable_resolved resolved) List.prefix_rfl

/-- Compiling the properties of the first models of the graph. -/
lemma reachable_compiling {done rest results : List Model} {registry : Registry}
    (resolved : resolveAll document.definitions options = .ok graph)
    (split : graph.models = done ++ rest)
    (compiled : modelProperties document.definitions (bindNames graph) done
      = .ok (results, registry)) :
    Reachable ⟨{ graph with models := results ++ rest }, registry⟩ := by
  have whole : Reachable ⟨{ graph with models := [] ++ (done ++ rest) }, bindNames graph⟩ := by
    rw [List.nil_append, ← split]
    exact reachable_bindNames resolved
  exact whole.modelProperties compiled

/-- Each stage of a compilation can be reached. -/
theorem Stage.reachable {session : Session} (stage : Stage document options session) :
    session.Reachable := by
  cases stage with
  | visiting first visits => exact reachable_visiting visits
  | aliasing visits first binds => exact reachable_aliasing (reachable_visiting visits) binds
  | binding resolved first => exact reachable_binding (reachable_resolved resolved) first
  | compiling resolved split compiled => exact reachable_compiling resolved split compiled
  | adding resolved split compiled found first =>
    exact (reachable_compiling resolved split compiled).add _ first
  | @classifying graph models done rest results registry last resolved compiled closed split
      roles =>
    have all : graph.models = graph.models ++ [] := (List.append_nil _).symm
    have before := reachable_compiling resolved all compiled
    have sealed := before.step (.call .sealUp fun name id same => by cases same)
    have whole : Reachable ⟨{ graph with models := [] ++ (done ++ rest) }, last⟩ := by
      rw [List.nil_append, ← split]
      unfold Registry.after at sealed
      dsimp only at sealed
      rw [closed, List.append_nil] at sealed
      exact sealed
    exact whole.classified roles

/-- A compilation that succeeds ends with a stage. -/
lemma stage_of_compile {compiled : CompiledSchema} (h : compile document options = .ok compiled) :
    Stage document options ⟨compiled.graph, compiled.registry⟩ := by
  unfold compile at h
  obtain ⟨graph, resolved, h⟩ := bind_eq_ok_iff.1 h
  obtain ⟨⟨models, registry⟩, hmodels, h⟩ := bind_eq_ok_iff.1 h
  dsimp only at h
  cases closed : registry.sealUp with
  | mk result last =>
    rw [closed] at h
    cases result with
    | error error => cases h
    | ok =>
      obtain ⟨sealed, heq, h⟩ := bind_eq_ok_iff.1 h
      cases heq
      obtain ⟨results, roles, h⟩ := bind_eq_ok_iff.1 h
      cases h
      have stage := Stage.classifying resolved hmodels closed (List.append_nil models).symm roles
      rw [List.append_nil] at stage
      exact stage

end Compile

/-! ## Manifests -/

namespace Manifest

/-- An entry is built from positions that exist only: that of its model, those of the types of its
properties and of their elements, and that of the model of the list items. -/
structure ModelEntry.Built (compiled : CompiledSchema) (id : ModelId) (model : Model)
    (entry : ModelEntry) : Prop where
  found : compiled.graph.model? id = some model
  types : List.Forall₂ (fun property shown =>
      compiled.registry.Describes compiled.graph property.2.type shown.typeName)
    model.properties entry.properties
  listItemType : Option.Rel (fun item name =>
      ∃ found, compiled.graph.model? item = some found ∧ name = found.generatedName)
    model.classification.listItemType entry.listItemType

lemma built_ofModel {compiled : CompiledSchema} {ext : String} {id : ModelId} {model : Model}
    (sound : Session.Sound ⟨compiled.graph, compiled.registry⟩)
    (found : compiled.graph.model? id = some model) :
    (ModelEntry.ofModel compiled ext id model).Built compiled id model := by
  have inRange := sound.models model (List.mem_of_getElem? found)
  refine ⟨found, ?_, ?_⟩
  · show List.Forall₂ _ model.properties
      (model.properties.map fun property => PropertyEntry.ofProperty compiled property.2)
    rw [List.forall₂_map_right_iff, List.forall₂_same]
    intro property mem
    exact (sound.describes_iff (inRange.types property mem)).2 rfl
  · show Option.Rel _ _ (model.classification.listItemType.map compiled.graph.generatedName)
    cases isItem : model.classification.listItemType with
    | none => exact .none
    | some item =>
      obtain ⟨image, himage⟩ := Graph.exists_model? (inRange.listItemType item isItem)
      exact .some ⟨image, himage, Graph.generatedName_of_model? himage⟩

/-- Each entry of a manifest is built from positions that exist. -/
lemma built_ofCompiled {compiled : CompiledSchema} (ext : String)
    (sound : Session.Sound ⟨compiled.graph, compiled.registry⟩) :
    List.Forall₂ (fun entry built => built.Built compiled entry.1 entry.2)
      compiled.models (ofCompiled compiled ext).models := by
  show List.Forall₂ _ compiled.models
    (compiled.models.map fun entry => ModelEntry.ofModel compiled ext entry.1 entry.2)
  rw [List.forall₂_map_right_iff, List.forall₂_same]
  intro entry mem
  exact built_ofModel sound (CompiledSchema.mem_models_iff.1 mem)

end Manifest

/-! ## Safety -/

/-- No position in a session dangles, so whatever is looked up by position is there, and following
positions ends. -/
structure Session.Safe (session : Session) : Prop where
  inRange : session.InRange
  types : ∀ handle, handle.index < session.registry.size →
    ∃ descriptor, session.registry.descriptor? handle = some descriptor
  models : ∀ id, id.index < session.graph.models.length →
    ∃ model, session.graph.model? id = some model
  /-- A classification finds the type of each property that it asks for. -/
  properties : ∀ model ∈ session.graph.models, ∀ wireName property,
    model.property? wireName = some property →
      ∃ descriptor, model.descriptor? session.registry wireName = some descriptor
  /-- A classification finds the type of the list items. -/
  listItems : ∀ model ∈ session.graph.models, ∀ element,
    model.listItems? session.registry = some element →
      ∃ descriptor, session.registry.descriptor? element = some descriptor
  describes : ∀ handle, handle.index < session.registry.size → ∀ text,
    session.registry.Describes session.graph handle text ↔
      text = session.registry.describe session.graph handle

lemma Session.Sound.safe {session : Session} (sound : session.Sound) : session.Safe where
  inRange := sound.inRange
  types _ inUse := Registry.exists_descriptor? inUse
  models _ inRange := Graph.exists_model? inRange
  properties model mem wireName property found := by
    obtain ⟨before, after, split, -⟩ := List.lookup_eq_some_iff.1 found
    have listed : (wireName, property) ∈ model.properties := by
      rw [split]
      exact List.mem_append_right _ List.mem_cons_self
    unfold Model.descriptor?
    rw [found, Option.bind_some]
    exact Registry.exists_descriptor? ((sound.models model mem).types _ listed)
  listItems model mem element isItems := by
    unfold Model.listItems? at isItems
    split at isItems
    · next found holds =>
      cases isItems
      obtain ⟨property, -, hdescriptor⟩ := Option.bind_eq_some_iff.1 holds
      exact Registry.exists_descriptor? (sound.coherent.element_lt_size hdescriptor rfl)
    · cases isItems
  describes _ inUse _ := sound.describes_iff inUse

/-- Compiling the properties of a model that is not in the graph leaves all positions in range, in
the model as in the session. -/
lemma Session.Reachable.compileProperties {session : Session} (reachable : session.Reachable)
    {model : Model} (inRange : model.InRange session) (definition : Definition) :
    let (_, image, after) := KubeSchema.compileProperties model definition session.registry
    Reachable { session with registry := after } ∧
      image.InRange { session with registry := after } := by
  have asks := asksFor_compileProperties model definition session.registry
  exact ⟨reachable.asksFor asks, reachable.sound.inRange_add inRange definition _⟩

/-- **Positions.** Whatever is done to a graph and a registry with positions taken from them, no
position dangles, elements come before what is made of them, and the text of each type is found by
following positions. In particular this holds at each stage of a compilation, and each entry of a
manifest is built from positions that exist. -/
theorem positions_in_range :
    (∀ session : Session, session.Reachable → session.Safe ∧
      ∀ (model : Model) (definition : Definition), model.InRange session →
        let (_, image, after) := compileProperties model definition session.registry
        Session.Reachable { session with registry := after } ∧
          image.InRange { session with registry := after }) ∧
    ∀ (document : Document) (options : Options),
      (∀ session, Compile.Stage document options session → session.Reachable) ∧
      ∀ compiled, compile document options = .ok compiled →
        Compile.Stage document options ⟨compiled.graph, compiled.registry⟩ ∧
        ∀ ext, List.Forall₂ (fun entry built => built.Built compiled entry.1 entry.2)
          compiled.models (Manifest.ofCompiled compiled ext).models := by
  refine ⟨fun session reachable => ⟨reachable.sound.safe, fun model definition inRange => ?_⟩,
    fun document options => ?_⟩
  · exact reachable.compileProperties inRange definition
  · refine ⟨fun session stage => stage.reachable, fun compiled h => ?_⟩
    have stage := Compile.stage_of_compile h
    exact ⟨stage, fun ext => Manifest.built_ofCompiled ext stage.reachable.sound⟩

theorem positions_in_range_of_sample : ∃ compiled,
    compile sampleDocument .standard = .ok compiled ∧
    Session.Safe ⟨compiled.graph, compiled.registry⟩ ∧
    List.Forall₂ (fun entry built => built.Built compiled entry.1 entry.2)
      compiled.models (Manifest.ofCompiled compiled "cs").models := by
  obtain ⟨compiled, h⟩ := exists_compile_sampleDocument
  obtain ⟨reached, compilations⟩ := positions_in_range
  obtain ⟨stages, results⟩ := compilations sampleDocument .standard
  obtain ⟨stage, built⟩ := results compiled h
  have safe := (reached _ (stages _ stage)).1
  exact ⟨compiled, h, safe, built "cs"⟩

end KubeSchema

import KubeSchema.Proofs.ClassificationTheorems
import KubeSchema.Proofs.NamesTheorems

/-!
# Compiling a document

`Compile.firstError?` tells the first error of a compilation from the document alone, without a
registry. `compile_cases` shows that a compilation stops there, and that it succeeds otherwise with
a result in which everything is as the document says (`Compilation`). In particular the graph is
that of the first pass, but for the properties and roles of its models.
-/

namespace KubeSchema

open Resolution (keptModels)

variable {document : Document} {options : Options} {compiled : CompiledSchema}

namespace Compile

/-- The first error among retained definitions. A fault of any property counts before any dangling
name, and a dangling name before any conflict of roles. -/
def errorAmong? (graph : Graph) (metadata : MetadataModels) (entries : List (String × Definition)) :
    Option CompileError :=
  ((firstFault? entries).map fun (name, fault) => .invalidDefinition name fault).or
    (((firstDangling? graph entries).map fun (target, name) =>
      .unresolvableReference name target).or
    ((firstConflict? graph metadata entries).map fun (name, fault) =>
      .classificationConflict name fault))

/-- The first error of a compilation. An error of the first pass counts before all others. -/
def firstError? (document : Document) (options : Options) : Option CompileError :=
  match resolveAll document.definitions options with
  | .error error => some error
  | .ok graph =>
    errorAmong? graph (.ofGraph graph options) (keptModels options document.definitions.entries)

/-- The result of a compilation whose first pass gave a graph. -/
structure Compilation (document : Document) (options : Options) (graph : Graph)
    (compiled : CompiledSchema) : Prop where
  resolved : resolveAll document.definitions options = .ok graph
  names : compiled.graph.names = graph.names
  coherent : compiled.registry.Coherent
  noPending : compiled.registry.firstPending? = none
  /-- The names of a model share its slot. -/
  bound : ∀ name id, graph.idOf? name = some id → Registry.wellKnown.lookup name = none →
    ∃ handle, compiled.registry.lookup? name = some handle ∧
      compiled.registry.models.lookup id = some handle
  noDangling : ∀ entry ∈ keptModels options document.definitions.entries,
    entry.2.dangling? graph = none
  models : List.Forall₂ (CompiledFrom graph compiled.registry)
    (keptModels options document.definitions.entries) compiled.graph.models
  roles : List.Forall₂ (fun entry model =>
      model.classification = entry.2.roles graph (.ofGraph graph options))
    (keptModels options document.definitions.entries) compiled.graph.models
  /-- Nothing but properties and roles has been added to the models of the first pass. -/
  frame : List.Forall₂ (fun shell model => model =
      { shell with properties := model.properties, classification := model.classification })
    graph.models compiled.graph.models

lemma firstDangling?_eq_none_iff {graph : Graph} {entries : List (String × Definition)} :
    firstDangling? graph entries = none ↔ ∀ entry ∈ entries, entry.2.dangling? graph = none := by
  rw [firstDangling?, List.findSome?_eq_none_iff]
  simp only [Option.map_eq_none_iff]

/-- Two changes of different fields, one after the other, are a change of both. -/
lemma frame_trans {shells models results : List Model}
    (first : List.Forall₂ (fun shell model => model = { shell with properties := model.properties })
      shells models)
    (second : List.Forall₂
      (fun model result => result = { model with classification := result.classification })
      models results) :
    List.Forall₂ (fun shell result => result =
      { shell with properties := result.properties, classification := result.classification })
      shells results := by
  induction first generalizing results with
  | nil =>
    cases second
    exact .nil
  | cons hfirst _ ih =>
    cases second with
    | cons hsecond rest =>
      refine .cons ?_ (ih rest)
      rw [hsecond, hfirst]

end Compile

open Compile

/-- A compilation stops at the first error of the document, and succeeds if there is none. -/
theorem compile_cases (document : Document) (options : Options) :
    (∃ error, firstError? document options = some error ∧
      compile document options = .error error) ∨
    (firstError? document options = none ∧ ∃ graph compiled,
      compile document options = .ok compiled ∧ Compilation document options graph compiled) := by
  rw [firstError?, compile]
  cases resolved : resolveAll document.definitions options with
  | error error => exact .inl ⟨error, rfl, rfl⟩
  | ok graph =>
    have stand := (Resolution.resolved_of_resolveAll resolved).models
    have listed : ∀ entry ∈ keptModels options document.definitions.entries,
        entry ∈ document.definitions.entries :=
      fun entry mem => (Resolution.mem_keptModels.1 mem).1
    have binds := binds_bindNames graph
    simp only [errorAmong?]
    -- the second pass starts with all names bound
    obtain ⟨name, fault, hfault, herror⟩ | ⟨hfault, models, registry, hmodels, second⟩ :=
      modelProperties_cases stand listed (serves_bindNames graph)
    · refine .inl ⟨.invalidDefinition name fault, by rw [hfault]; rfl, ?_⟩
      simp only [bind, Except.bind, herror]
    · -- nothing was pending before the second pass, so the first dangling name is the first pending
      have pending : registry.firstPending? = firstDangling? graph
          (keptModels options document.definitions.entries) := by
        rw [second.pending, binds.noPending, Option.none_or]
      -- sealing reports it
      obtain ⟨target, name, hpending, hseal⟩ | ⟨hpending, hseal⟩ := registry.sealUp_cases
      · refine .inl ⟨.unresolvableReference name target, ?_, ?_⟩
        · rw [hfault, ← pending, hpending]
          rfl
        · simp only [bind, Except.bind, hmodels, hseal]
      · have noDangling := firstDangling?_eq_none_iff.1 (pending.symm.trans hpending)
        have coherent := second.serves.coherent.closed
        have typed := second.compiled.imp fun _ _ typed => typed.extends registry.extends_closed
        rw [hfault, ← pending, hpending]
        -- with nothing dangling, the definitions decide the roles
        obtain ⟨name, fault, hconflict, herror⟩ | ⟨hconflict, results, hok, third⟩ :=
          classified_cases typed coherent noDangling
        · refine .inl ⟨.classificationConflict name fault, by rw [hconflict]; rfl, ?_⟩
          simp only [bind, Except.bind, hmodels, hseal, herror]
        · refine .inr ⟨by rw [hconflict]; rfl, graph,
            ⟨{ graph with models := results }, registry.closed, .ofPaths document.paths⟩, ?_,
            resolved, rfl, coherent, hpending, second.serves.bound, noDangling, third.compiled,
            third.roles, frame_trans second.frame third.frame⟩
          simp only [bind, Except.bind, pure, Except.pure, hmodels, hseal, hok]

/-- **First error.** Whether a compilation succeeds, and otherwise its error, is decided by the
document: an error of the first pass counts before a faulty property, a faulty property before a
dangling reference, and a dangling reference before a conflict of roles. -/
theorem compile_outcome_iff (document : Document) (options : Options) :
    (∀ error, compile document options = .error error ↔
      firstError? document options = some error) ∧
    ((∃ compiled, compile document options = .ok compiled) ↔
      firstError? document options = none) := by
  obtain ⟨error, hfirst, heq⟩ | ⟨hfirst, graph, compiled, heq, -⟩ := compile_cases document options
  · rw [hfirst, heq]
    refine ⟨fun other => ?_, ?_⟩
    · rw [Except.error.injEq, Option.some.injEq]
    · simp
  · rw [hfirst, heq]
    refine ⟨fun other => ?_, fun _ => rfl, fun _ => ⟨compiled, rfl⟩⟩
    simp

/-! ## What a compilation gives -/

/-- A compilation that succeeds gives what the document says. -/
theorem compilation_of_compile (h : compile document options = .ok compiled) :
    ∃ graph, Compilation document options graph compiled := by
  obtain ⟨error, -, heq⟩ | ⟨-, graph, result, heq, compilation⟩ := compile_cases document options
  · rw [h] at heq
    cases heq
  · rw [h] at heq
    cases heq
    exact ⟨graph, compilation⟩

namespace Compile

/-- What is related to a list's elements one by one is related to each of them. -/
lemma exists_of_forall₂ {α β : Type} {r : α → β → Prop} {left : List α} {right : List β} {b : β}
    (h : List.Forall₂ r left right) (mem : b ∈ right) : ∃ a ∈ left, r a b := by
  induction h with
  | nil => cases mem
  | cons related _ ih =>
    rcases List.mem_cons.1 mem with rfl | mem
    · exact ⟨_, List.mem_cons_self, related⟩
    · obtain ⟨a, hmem, related⟩ := ih mem
      exact ⟨a, List.mem_cons_of_mem _ hmem, related⟩

/-- The type of a name depends on the names of a graph only. -/
lemma Compilation.typeOf?_eq {graph : Graph}
    (compilation : Compilation document options graph compiled) :
    compiled.graph.typeOf? = graph.typeOf? := by
  funext name
  rw [Graph.typeOf?, Graph.typeOf?, Graph.idOf?, Graph.idOf?, compilation.names]

/-- What is related to the same list on both sides is related through its elements. -/
lemma forall₂_join {α β γ : Type} {r : α → β → Prop} {s : α → γ → Prop} {middle : List α}
    {left : List β} {right : List γ} (first : List.Forall₂ r middle left)
    (second : List.Forall₂ s middle right) :
    List.Forall₂ (fun b c => ∃ a, r a b ∧ s a c) left right := by
  induction first generalizing right with
  | nil =>
    cases second
    exact .nil
  | cons hfirst _ ih =>
    cases second with
    | cons hsecond rest => exact .cons ⟨_, hfirst, hsecond⟩ (ih rest)

/-- A model has the properties and the roles of the definition of its name, in which nothing
dangles. -/
lemma Compilation.exists_kept {graph : Graph} {model : Model}
    (compilation : Compilation document options graph compiled)
    (mem : model ∈ compiled.graph.models) :
    ∃ definition,
      (model.definitionName, definition) ∈ keptModels options document.definitions.entries ∧
      definition.dangling? graph = none ∧
      CompiledFrom graph compiled.registry (model.definitionName, definition) model ∧
      model.classification = definition.roles graph (.ofGraph graph options) := by
  have whole := List.Forall₂.mp (fun _ _ => And.intro) compilation.models compilation.roles
  obtain ⟨⟨name, definition⟩, hentry, from_definition, roles⟩ := exists_of_forall₂ whole mem
  obtain rfl : model.definitionName = name := from_definition.stands.definitionName
  exact ⟨definition, hentry, compilation.noDangling _ hentry, from_definition, roles⟩

/-- A model comes from the definition of its name, in which nothing dangles. -/
lemma Compilation.exists_definition {graph : Graph} {model : Model}
    (compilation : Compilation document options graph compiled)
    (mem : model ∈ compiled.graph.models) :
    ∃ definition, document.definitions.lookup? model.definitionName = some definition ∧
      definition.dangling? graph = none ∧
      CompiledFrom graph compiled.registry (model.definitionName, definition) model := by
  obtain ⟨definition, hentry, noDangling, from_definition, -⟩ := compilation.exists_kept mem
  have listed := (Resolution.mem_keptModels.1 hentry).1
  exact ⟨definition, document.definitions.lookup?_eq_some_iff.2 listed, noDangling,
    from_definition⟩

end Compile

/-! ## The graph of a compilation -/

/-- A schema that is a reference to a definition. -/
def referTo (name : String) : PropertySchema := { reference := some (definitionsLead ++ name) }

/-- A schema of objects with values of a schema. -/
def mapOf (value : PropertySchema) : PropertySchema :=
  { typeName := some "object", additional := some (.schema value) }

/-- A small document: two definitions that refer to each other, one of them through an alias of an
alias, one that refers to itself, and one that refers to a definition that is passed over. -/
def sampleDocument : Document where
  definitions := .ofList [
    ("a.Leaf", { properties := .ofList [("parents", mapOf (referTo "c.Older"))] }),
    ("b.Node", { properties := .ofList [
      ("leaves", { typeName := some "array", items := some (referTo "a.Leaf") })] }),
    ("c.Alias", { reference := some (definitionsLead ++ "b.Node") }),
    ("c.Older", { reference := some (definitionsLead ++ "c.Alias") }),
    ("d.Chain", { properties := .ofList [("next", referTo "d.Chain")] }),
    ("e.Event", { properties := .ofList [("since", referTo WellKnown.time)] }),
    (WellKnown.time, {})]

/-- **Definitions in the graph.** The first pass gives each definition kept its place in the graph,
and a compilation keeps that graph but for the properties and roles of the models. -/
theorem resolveAll_determines_graph {definitions : Table String Definition} {graph : Graph}
    (h : resolveAll definitions options = .ok graph) :
    Resolution.Resolved definitions options graph ∧
    ∀ paths compiled, compile ⟨definitions, paths⟩ options = .ok compiled →
      compiled.graph.names = graph.names ∧
      List.Forall₂ (fun shell model => model =
        { shell with properties := model.properties, classification := model.classification })
        graph.models compiled.graph.models := by
  refine ⟨Resolution.resolved_of_resolveAll h, fun paths compiled hcompile => ?_⟩
  obtain ⟨other, compilation⟩ := compilation_of_compile hcompile
  have same : resolveAll definitions options = .ok other := compilation.resolved
  rw [h] at same
  cases same
  exact ⟨compilation.names, compilation.frame⟩

lemma exists_compile_sampleDocument :
    ∃ compiled, compile sampleDocument .standard = .ok compiled :=
  exists_ok_of_isSome (by decide +kernel)

theorem resolveAll_determines_graph_of_sample : ∃ graph compiled,
    resolveAll sampleDocument.definitions .standard = .ok graph ∧
    compile sampleDocument .standard = .ok compiled ∧
    Resolution.Resolved sampleDocument.definitions .standard graph ∧
    compiled.graph.names = graph.names := by
  obtain ⟨graph, hgraph⟩ : ∃ graph,
      resolveAll sampleDocument.definitions .standard = .ok graph :=
    exists_ok_of_isSome (by decide +kernel)
  obtain ⟨compiled, hcompiled⟩ := exists_compile_sampleDocument
  have determined := resolveAll_determines_graph hgraph
  exact ⟨graph, compiled, hgraph, hcompiled, determined.1,
    (determined.2 Table.empty compiled hcompiled).1⟩

end KubeSchema

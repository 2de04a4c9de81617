import KubeSchema.Compile
import KubeSchema.Proofs.ResolutionTheorems
import KubeSchema.Proofs.ServeTheorems

/-!
# Compiling the properties of all models

The second pass goes through the models in order of name and through the properties of each in
emission order, and hands one registry on all the way. Whether it fails depends on the document only
(`Properties.firstFault?`). If it does not fail, each property has the type that its schema stands
for in the last registry (`Typed`), and the first dangling name of all is the first pending one.
-/

namespace KubeSchema

variable {graph : Graph} {registry before after : Registry}

namespace Properties

lemma inEmissionOrder_perm (definition : Definition) :
    (inEmissionOrder definition).Perm definition.properties.entries :=
  List.mergeSort_perm _ _

lemma mem_inEmissionOrder_iff {definition : Definition} {wireName : String}
    {schema : PropertySchema} :
    (wireName, schema) ∈ inEmissionOrder definition ↔
      definition.properties.lookup? wireName = some schema := by
  rw [(inEmissionOrder_perm definition).mem_iff, Table.lookup?_eq_some_iff]

/-! ## Faults of a definition -/

/-- The fault of a property that comes after others: an identifier that one of them has, or a chain
that stops at a fault. -/
def fault? (earlier : List String) (entry : String × PropertySchema) : Option DefinitionFault :=
  match earlier.find? fun first => Naming.sanitize first == Naming.sanitize entry.1 with
  | some first => some (.nameClash first entry.1 (Naming.sanitize entry.1))
  | none => entry.2.stop.fault? entry.1

/-- The fault of the first faulty property. -/
def firstFault? (earlier : List String) :
    List (String × PropertySchema) → Option DefinitionFault
  | [] => none
  | entry :: rest => (fault? earlier entry).or (firstFault? (earlier ++ [entry.1]) rest)

/-- The table of claimed identifiers after some properties. -/
def Claims (claimed : Table String String) (earlier : List String) : Prop :=
  ∀ name, claimed.lookup? name = earlier.find? fun first => Naming.sanitize first == name

lemma claims_empty : Claims Table.empty [] := fun _ => rfl

lemma Claims.insert {claimed : Table String String} {earlier : List String}
    (claims : Claims claimed earlier) {wireName : String}
    (free : claimed.lookup? (Naming.sanitize wireName) = none) :
    Claims (claimed.insert (Naming.sanitize wireName) wireName) (earlier ++ [wireName]) := by
  intro name
  rw [List.find?_append, ← claims name]
  by_cases same : name = Naming.sanitize wireName
  · subst same
    rw [Table.lookup?_insert_self, free]
    simp
  · have other : (Naming.sanitize wireName == name) = false := by
      rw [beq_eq_false_iff_ne]
      exact Ne.symm same
    rw [Table.lookup?_insert_of_ne _ same, List.find?_cons_of_neg (by simp [other])]
    simp

end Properties

/-! ## The type of a property -/

/-- A property compiled from a schema: it has the type that the schema stands for, and if the chain
of the schema ends in a reference, the handle of the name is at the end of the type. -/
structure Typed (graph : Graph) (definition : Definition) (registry : Registry)
    (entry : String × PropertySchema) (property : String × Property) : Prop where
  wireName : property.1 = entry.1
  eq : property.2 = Properties.property definition entry.1 entry.2 property.2.type
  type : ∃ tree, registry.tree? property.2.type = some tree ∧
    entry.2.denote (fun name => some (graph.typeOrPending name)) = some tree
  reference : ∀ name, entry.2.stop = .reference name → ∃ handle,
    registry.lookup? name = some handle ∧
      registry.elementAt? entry.2.wrappers.length property.2.type = some handle

/-- A typed property stays typed while the registry grows. -/
lemma Typed.extends {definition : Definition} {entry : String × PropertySchema}
    {property : String × Property} (typed : Typed graph definition before entry property)
    (growth : before.Extends after) : Typed graph definition after entry property where
  wireName := typed.wireName
  eq := typed.eq
  type := by
    obtain ⟨tree, htree, hdenote⟩ := typed.type
    exact ⟨tree, growth.tree? htree, hdenote⟩
  reference name h := by
    obtain ⟨handle, found, hinner⟩ := typed.reference name h
    exact ⟨handle, growth.names _ _ found, growth.elementAt? hinner⟩

/-- A property that refers to no dangling name has the type its schema stands for by the graph. -/
lemma Typed.exists_tree {definition : Definition} {entry : String × PropertySchema}
    {property : String × Property} (typed : Typed graph definition registry entry property)
    (noneDangling : graph.dangling? entry.2 = none) :
    ∃ tree, registry.tree? property.2.type = some tree ∧
      entry.2.denote graph.typeOf? = some tree := by
  obtain ⟨tree, htree, hdenote⟩ := typed.type
  rw [denote_typeOrPending noneDangling] at hdenote
  exact ⟨tree, htree, hdenote⟩

/-- A property without a fault is typed. -/
lemma typed_of_resolve (serves : registry.Serves graph) (definition : Definition)
    (wireName : String) {context : Registry.Context} {schema : PropertySchema} {handle : Handle}
    (heq : registry.resolve context schema = (.ok handle, after)) :
    Typed graph definition after (wireName, schema)
      (wireName, Properties.property definition wireName schema handle) where
  wireName := rfl
  eq := rfl
  type := by
    have resolving := Registry.resolving_resolve serves.coherent context schema
    obtain ⟨fault, -, hfault⟩ | ⟨-, found, last, hfound, htree⟩ :=
      Registry.resolve_cases serves context schema
    · rw [heq] at hfault
      cases hfault
    · rw [heq] at resolving hfound
      cases hfound
      obtain ⟨tree, hhandle⟩ := Registry.tree?_isSome resolving.coherent (resolving.inUse _ rfl)
      exact ⟨tree, hhandle, htree ▸ hhandle⟩
  reference name h := Registry.elementAt?_resolve serves.coherent h heq

/-! ## The properties of one model -/

namespace Properties

/-- The first dangling name among properties. -/
def firstDangling? (graph : Graph) (entries : List (String × PropertySchema)) : Option String :=
  entries.findSome? fun entry => graph.dangling? entry.2

/-- Some properties of a definition have been compiled between two registries. -/
structure Compiled (graph : Graph) (definitionName : String) (definition : Definition)
    (before after : Registry) (entries : List (String × PropertySchema))
    (properties : List (String × Property)) : Prop where
  serves : after.Serves graph
  growth : before.Extends after
  typed : List.Forall₂ (Typed graph definition after) entries properties
  pending : after.firstPending? = before.firstPending?.or
    ((firstDangling? graph entries).map fun name => (name, definitionName))

/-- A property whose schema is resolved is added, and the rest goes on with one more claimed
identifier. -/
lemma add_cons_of_ok {definition : Definition} {claimed : Table String String} {model : Model}
    {wireName : String} {schema : PropertySchema} {handle : Handle}
    {rest : List (String × PropertySchema)}
    (free : claimed.lookup? (Naming.sanitize wireName) = none)
    (h : before.resolve ⟨model.definitionName, wireName⟩ schema = (.ok handle, after)) :
    add definition claimed model before ((wireName, schema) :: rest)
      = add definition (claimed.insert (Naming.sanitize wireName) wireName)
        { model with properties :=
            model.properties ++ [(wireName, property definition wireName schema handle)] }
        after rest := by
  rw [add]
  simp only [free, h]

/-- A property that is compiled comes before the rest. -/
lemma Compiled.cons {definitionName wireName : String} {definition : Definition}
    {between : Registry} {schema : PropertySchema} {handle : Handle}
    {rest : List (String × PropertySchema)} {properties : List (String × Property)}
    (serves : before.Serves graph)
    (h : before.resolve ⟨definitionName, wireName⟩ schema = (.ok handle, between))
    (compiled : Compiled graph definitionName definition between after rest properties) :
    Compiled graph definitionName definition before after ((wireName, schema) :: rest)
      ((wireName, property definition wireName schema handle) :: properties) := by
  have growth :=
    (Registry.resolving_resolve serves.coherent ⟨definitionName, wireName⟩ schema).growth
  have pending := Registry.firstPending?_resolve serves ⟨definitionName, wireName⟩ schema
  have typed := typed_of_resolve serves definition wireName h
  rw [h] at growth pending
  refine ⟨compiled.serves, growth.trans compiled.growth,
    .cons (typed.extends compiled.growth) compiled.typed, ?_⟩
  rw [compiled.pending, pending, Option.or_assoc]
  congr 1
  rw [firstDangling?, firstDangling?, List.findSome?_cons]
  cases graph.dangling? schema <;> rfl

/-- Adding properties fails at the first fault, and otherwise compiles all of them. -/
theorem add_cases (definition : Definition) (entries : List (String × PropertySchema))
    {claimed : Table String String} {earlier : List String} (claims : Claims claimed earlier)
    (serves : registry.Serves graph) (model : Model) :
    (∃ fault rest, firstFault? earlier entries = some fault ∧
      add definition claimed model registry entries
        = (.error (.invalidDefinition model.definitionName fault), rest)) ∨
    (firstFault? earlier entries = none ∧ ∃ properties after,
      add definition claimed model registry entries
        = (.ok (), { model with properties := model.properties ++ properties }, after) ∧
      Compiled graph model.definitionName definition registry after entries properties) := by
  -- each property starts with the identifiers, model and registry that the ones before it leave
  induction entries generalizing claimed earlier registry model with
  | nil =>
    refine .inr ⟨rfl, [], registry, by simp [add], serves, .refl _, .nil, ?_⟩
    exact Option.or_none.symm
  | cons entry rest ih =>
    obtain ⟨wireName, schema⟩ := entry
    have hfind := claims (Naming.sanitize wireName)
    cases free : claimed.lookup? (Naming.sanitize wireName) with
    | some first =>
      -- the identifier is taken, which counts before the type
      rw [free] at hfind
      refine .inl ⟨.nameClash first wireName (Naming.sanitize wireName), (model, registry), ?_, ?_⟩
      · simp only [firstFault?, fault?, ← hfind]
        rfl
      · rw [add]
        simp only [free]
    | none =>
      rw [free] at hfind
      have hfault : fault? earlier (wireName, schema) = schema.stop.fault? wireName := by
        simp only [fault?, ← hfind]
      rw [firstFault?, hfault]
      -- the identifier is free, so the chain of the schema decides
      obtain ⟨fault, hstop, heq⟩ | ⟨hstop, handle, between, heq, -⟩ :=
        Registry.resolve_cases serves ⟨model.definitionName, wireName⟩ schema
      · refine .inl ⟨fault, (model, registry), by rw [hstop]; rfl, ?_⟩
        rw [add]
        simp only [free, heq]
      · have between_serves :=
          Registry.serves_resolve serves ⟨model.definitionName, wireName⟩ schema
        rw [heq] at between_serves
        rw [hstop, Option.none_or, add_cons_of_ok free heq]
        obtain ⟨fault, last, hrest, herror⟩ | ⟨hrest, properties, after, hok, compiled⟩ :=
          ih (claims.insert free) between_serves
            { model with properties :=
                model.properties ++ [(wireName, property definition wireName schema handle)] }
        · exact .inl ⟨fault, last, hrest, herror⟩
        · refine .inr ⟨hrest, (wireName, property definition wireName schema handle) :: properties,
            after, ?_, compiled.cons serves heq⟩
          rw [hok, List.append_assoc]
          rfl

end Properties

/-- The fault of the first faulty property of a definition, in emission order. -/
def Definition.fault? (definition : Definition) : Option DefinitionFault :=
  Properties.firstFault? [] (Properties.inEmissionOrder definition)

/-- The first dangling name among the properties of a definition, in emission order. -/
def Definition.dangling? (definition : Definition) (graph : Graph) : Option String :=
  Properties.firstDangling? graph (Properties.inEmissionOrder definition)

/-- A model gets the properties of its definition in place of those it has, or its first fault. -/
theorem compileProperties_cases (serves : registry.Serves graph) (model : Model)
    (definition : Definition) :
    (∃ fault rest, definition.fault? = some fault ∧
      compileProperties model definition registry
        = (.error (.invalidDefinition model.definitionName fault), rest)) ∨
    (definition.fault? = none ∧ ∃ properties after,
      compileProperties model definition registry = (.ok (), { model with properties }, after) ∧
      Properties.Compiled graph model.definitionName definition registry after
        (Properties.inEmissionOrder definition) properties) :=
  Properties.add_cases definition (Properties.inEmissionOrder definition) Properties.claims_empty
    serves { model with properties := [] }

/-! ## The properties of all models -/

namespace Compile

open Resolution (StandsFor)

/-- The first fault among definitions, and the definition that has it. -/
def firstFault? (entries : List (String × Definition)) : Option (String × DefinitionFault) :=
  entries.findSome? fun entry => entry.2.fault?.map fun fault => (entry.1, fault)

/-- The first dangling name among definitions, and the definition that refers to it. -/
def firstDangling? (graph : Graph) (entries : List (String × Definition)) :
    Option (String × String) :=
  entries.findSome? fun entry => (entry.2.dangling? graph).map fun name => (name, entry.1)

/-- A model stands for a definition and has its properties, all of them typed. -/
structure CompiledFrom (graph : Graph) (registry : Registry) (entry : String × Definition)
    (model : Model) : Prop where
  stands : StandsFor entry model
  properties : List.Forall₂ (Typed graph entry.2 registry) (Properties.inEmissionOrder entry.2)
    model.properties

lemma CompiledFrom.extends {entry : String × Definition} {model : Model}
    (compiled : CompiledFrom graph before entry model) (growth : before.Extends after) :
    CompiledFrom graph after entry model :=
  ⟨compiled.stands, compiled.properties.imp fun _ _ typed => typed.extends growth⟩

/-- The properties of some models have been compiled between two registries. -/
structure Compiled (graph : Graph) (before after : Registry) (entries : List (String × Definition))
    (models results : List Model) : Prop where
  serves : after.Serves graph
  growth : before.Extends after
  compiled : List.Forall₂ (CompiledFrom graph after) entries results
  frame : List.Forall₂ (fun model result => result = { model with properties := result.properties })
    models results
  pending : after.firstPending? = before.firstPending?.or (firstDangling? graph entries)

/-- Compiling the properties of all models fails at the first fault of their definitions, and
otherwise compiles all of them. -/
theorem modelProperties_cases {definitions : Table String Definition}
    {entries : List (String × Definition)} {models : List Model}
    (stand : List.Forall₂ StandsFor entries models)
    (listed : ∀ entry ∈ entries, entry ∈ definitions.entries) (serves : registry.Serves graph) :
    (∃ name fault, firstFault? entries = some (name, fault) ∧
      modelProperties definitions registry models = .error (.invalidDefinition name fault)) ∨
    (firstFault? entries = none ∧ ∃ results after,
      modelProperties definitions registry models = .ok (results, after) ∧
      Compiled graph registry after entries models results) := by
  -- the registry is handed on from model to model, and serves the graph all the way
  induction stand generalizing registry with
  | nil => exact .inr ⟨rfl, [], registry, rfl, serves, .refl _, .nil, .nil, Option.or_none.symm⟩
  | @cons entry model entries models stands _ ih =>
    obtain ⟨name, definition⟩ := entry
    have hname : model.definitionName = name := stands.definitionName
    have found : definitions.lookup? model.definitionName = some definition := by
      rw [hname, definitions.lookup?_eq_some_iff]
      exact listed _ List.mem_cons_self
    obtain ⟨fault, rest, hfault, heq⟩ | ⟨hfault, properties, between, heq, first⟩ :=
      compileProperties_cases serves model definition
    · refine .inl ⟨name, fault, ?_, ?_⟩
      · rw [firstFault?, List.findSome?_cons, hfault]
        rfl
      · rw [modelProperties]
        simp only [found, heq]
        rw [hname]
    · have step : firstFault? ((name, definition) :: entries) = firstFault? entries := by
        rw [firstFault?, List.findSome?_cons, hfault]
        rfl
      rw [step, modelProperties]
      simp only [found, heq]
      obtain ⟨other, fault, hrest, herror⟩ | ⟨hrest, results, after, hok, compiled⟩ :=
        ih (fun entry mem => listed entry (List.mem_cons_of_mem _ mem)) first.serves
      · exact .inl ⟨other, fault, hrest, by rw [herror]; rfl⟩
      · refine .inr ⟨hrest, { model with properties } :: results, after, by rw [hok]; rfl,
          compiled.serves, first.growth.trans compiled.growth, .cons ?_ compiled.compiled,
          .cons rfl compiled.frame, ?_⟩
        · have whole : CompiledFrom graph between (name, definition) { model with properties } :=
            ⟨{ stands with }, first.typed⟩
          exact whole.extends compiled.growth
        · rw [compiled.pending, first.pending, Option.or_assoc, hname]
          congr 1
          rw [firstDangling?, firstDangling?, List.findSome?_cons, Definition.dangling?]
          cases Properties.firstDangling? graph (Properties.inEmissionOrder definition) <;> rfl

end Compile

end KubeSchema

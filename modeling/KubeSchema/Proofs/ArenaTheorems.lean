import KubeSchema.Proofs.HistoryTheorems

/-!
# Positions in graph and registry

Models and types are stored in lists that only grow, and everything else refers to them by position:
the tables of names, the tables of shared slots, the elements of arrays and maps, properties, bound
references and roles. A session is a graph with its registry, and `Step` is all that is ever done to
one. `Sound` is the invariant that no position in a session dangles; each step keeps it
(`Step.sound`), so it holds of all sessions that can be reached. Since elements come before what is
made of them, types can be shown by following positions without a bound (`Describes`).
-/

namespace KubeSchema

/-- Puts a model in the place of another. -/
def Graph.update (graph : Graph) (id : ModelId) (model : Model) : Graph :=
  { graph with models := graph.models.set id.index model }

/-- A graph and a registry of its types. -/
structure Session where
  graph : Graph
  registry : Registry

lemma Descriptor.model?_eq_some_iff {descriptor : Descriptor} {id : ModelId} :
    descriptor.model? = some id ↔ descriptor = .model (.bound id) := by
  rcases descriptor with type | element | element | (model | ⟨name, definition⟩) <;> simp [model?]

/-- A model refers to types and models of a session. -/
structure Model.InRange (session : Session) (model : Model) : Prop where
  types : ∀ entry ∈ model.properties, entry.2.type.index < session.registry.size
  listItemType : ∀ id, model.classification.listItemType = some id →
    id.index < session.graph.models.length

namespace Session

/-- The session without models and with the well-known names only. -/
def start : Session := ⟨Graph.empty, Registry.initial⟩

/-! ## Steps -/

/-- What can be done to a session. -/
inductive Step : Session → Session → Prop
  /-- A model is added that refers to types and models of the session, if to any. -/
  | insert {session : Session} {model : Model} (inRange : model.InRange session) :
    Step session { session with graph := session.graph.insert model }
  | bind {session : Session} {id : ModelId} (name : String)
    (inRange : id.index < session.graph.models.length) :
    Step session { session with graph := session.graph.bind name id }
  /-- The registry is called; a name is bound to a model of the graph only. -/
  | call {session : Session} (call : Registry.Call)
    (inRange : ∀ name id, call = .bind name id → id.index < session.graph.models.length) :
    Step session { session with registry := session.registry.after call }
  /-- The properties of a model are compiled, as far as one of them. -/
  | compileProperties {session : Session} {id : ModelId} {model : Model} (definition : Definition)
    {entries : List (String × PropertySchema)} (found : session.graph.model? id = some model)
    (first : entries <+: Properties.inEmissionOrder definition) :
    Step session
      (let (_, model, registry) := Properties.add definition Table.empty
        { model with properties := [] } session.registry entries
      ⟨session.graph.update id model, registry⟩)
  /-- A model gets the roles that it has by its properties. -/
  | classify {session : Session} {id : ModelId} {model : Model} {metadata : MetadataModels}
    {classification : Classification} (found : session.graph.model? id = some model)
    (roles : model.classify session.registry metadata = .ok classification) :
    Step session
      { session with graph := session.graph.update id { model with classification } }

/-- The sessions that steps lead to. -/
inductive Reachable : Session → Prop
  | start : Reachable start
  | step {before after : Session} (reachable : Reachable before) (step : Step before after) :
    Reachable after

/-! ## Soundness -/

/-- Nothing in a session dangles. -/
structure Sound (session : Session) : Prop where
  coherent : session.registry.Coherent
  models : ∀ model ∈ session.graph.models, model.InRange session
  names : ∀ name id, session.graph.idOf? name = some id → id.index < session.graph.models.length
  links : ∀ handle id, session.registry.descriptor? handle = some (.model (.bound id)) →
    id.index < session.graph.models.length

lemma sound_start : start.Sound where
  coherent := Registry.coherent_initial
  models model mem := by cases mem
  names name id found := by cases found
  links handle id holds := by
    obtain ⟨type, same⟩ := Registry.descriptor?_initial holds
    cases same

end Session

variable {session : Session} {id : ModelId} {model : Model}

/-- What is in range stays so while types and models are added. -/
lemma Model.InRange.mono {after : Session} (inRange : model.InRange session)
    (types : session.registry.size ≤ after.registry.size)
    (models : session.graph.models.length ≤ after.graph.models.length) : model.InRange after where
  types entry mem := Nat.lt_of_lt_of_le (inRange.types entry mem) types
  listItemType id h := Nat.lt_of_lt_of_le (inRange.listItemType id h) models

namespace Session

/-! ## Steps of the graph -/

lemma Sound.insert (sound : session.Sound) (inRange : model.InRange session) :
    Sound { session with graph := session.graph.insert model } := by
  have length : (session.graph.insert model).models.length = session.graph.models.length + 1 := by
    simp [Graph.insert]
  have grows : session.graph.models.length ≤ (session.graph.insert model).models.length := by
    omega
  refine ⟨sound.coherent, fun other mem => ?_, fun name id found => ?_, fun handle id holds => ?_⟩
  · have inRangeBefore : other.InRange session := by
      rcases List.mem_append.1 mem with old | new
      · exact sound.models other old
      · exact List.mem_singleton.1 new ▸ inRange
    exact inRangeBefore.mono (Nat.le_refl _) grows
  · show id.index < (session.graph.insert model).models.length
    rw [length]
    rcases (Table.lookup?_insert_eq_some_iff _).1 found with ⟨-, rfl⟩ | ⟨-, old⟩
    · exact Nat.lt_succ_self _
    · exact Nat.lt_succ_of_lt (sound.names name id old)
  · exact Nat.lt_of_lt_of_le (sound.links handle id holds) grows

lemma Sound.bind (sound : session.Sound) (name : String)
    (inRange : id.index < session.graph.models.length) :
    Sound { session with graph := session.graph.bind name id } := by
  refine ⟨sound.coherent, fun other mem => ?_, fun other found h => ?_, sound.links⟩
  · exact (sound.models other mem).mono (Nat.le_refl _) (Nat.le_refl _)
  · rcases (Table.lookup?_insert_eq_some_iff _).1 h with ⟨-, rfl⟩ | ⟨-, old⟩
    · exact inRange
    · exact sound.names other found old

/-- A model may take the place of another. -/
lemma Sound.update (sound : session.Sound) (id : ModelId) (inRange : model.InRange session) :
    Sound { session with graph := session.graph.update id model } := by
  have length : (session.graph.update id model).models.length = session.graph.models.length :=
    List.length_set
  refine ⟨sound.coherent, fun other mem => ?_, fun name found h => ?_, fun handle found h => ?_⟩
  · have inRangeBefore : other.InRange session := by
      rcases List.mem_or_eq_of_mem_set mem with old | rfl
      · exact sound.models other old
      · exact inRange
    exact inRangeBefore.mono (Nat.le_refl _) length.ge
  · exact Nat.lt_of_lt_of_le (sound.names name found h) length.ge
  · exact Nat.lt_of_lt_of_le (sound.links handle found h) length.ge

/-! ## Steps of the registry -/

/-- A call adds a bound reference only for the name that it binds. -/
lemma Sound.call (sound : session.Sound) {call : Registry.Call}
    (inRange : ∀ name id, call = .bind name id → id.index < session.graph.models.length) :
    Sound { session with registry := session.registry.after call } := by
  have change := Registry.change_after sound.coherent call
  refine ⟨change.coherent, fun model mem => ?_, sound.names, fun handle id holds => ?_⟩
  · exact (sound.models model mem).mono change.keeps.size_le (Nat.le_refl _)
  · rcases change.origin handle _ holds with old | ⟨-, plain⟩ | - | ⟨-, binds⟩ | ⟨-, binds, -⟩
    · exact sound.links handle id old
    · exact absurd rfl (plain _)
    · exact inRange _ id binds
    · exact inRange _ id binds

/-- Calls that bind nothing. -/
lemma Sound.asksFor (sound : session.Sound) {after : Registry}
    (asks : session.registry.AsksFor after) : Sound { session with registry := after } := by
  refine asks.invariant (motive := fun after => Sound { session with registry := after }) sound ?_
  intro registry call binds sound
  refine sound.call ?_
  rintro name id rfl
  cases binds

end Session

/-! ## Properties and roles -/

namespace Properties

/-- Adding properties changes nothing else in a model, and the types of all its properties are in
use, also after a failure. -/
lemma inUse_add (definition : Definition) (entries : List (String × PropertySchema)) :
    ∀ (claimed : Table String String) (model : Model) (registry : Registry), registry.Coherent →
      (∀ entry ∈ model.properties, entry.2.type.index < registry.size) →
      ∃ properties,
        (add definition claimed model registry entries).2.1 = { model with properties } ∧
        ∀ entry ∈ properties,
          entry.2.type.index < (add definition claimed model registry entries).2.2.size := by
  induction entries with
  | nil =>
    intro claimed model registry _ inUse
    exact ⟨model.properties, rfl, inUse⟩
  | cons entry rest ih =>
    intro claimed model registry coherent inUse
    obtain ⟨wireName, schema⟩ := entry
    have resolving :=
      Registry.resolving_resolve coherent ⟨model.definitionName, wireName⟩ schema
    unfold add
    dsimp only
    cases claimed.lookup? (Naming.sanitize wireName) with
    | some first => exact ⟨model.properties, rfl, inUse⟩
    | none =>
      dsimp only
      generalize registry.resolve ⟨model.definitionName, wireName⟩ schema = outcome at resolving ⊢
      obtain ⟨result, after⟩ := outcome
      have grows : registry.size ≤ after.size := resolving.growth.size_le
      have still : ∀ entry ∈ model.properties, entry.2.type.index < after.size :=
        fun entry mem => Nat.lt_of_lt_of_le (inUse entry mem) grows
      cases result with
      | error error => exact ⟨model.properties, rfl, still⟩
      | ok type =>
        -- the property that is added has the type just given
        have next : ∀ entry ∈ model.properties ++
            [(wireName, property definition wireName schema type)],
            entry.2.type.index < after.size := by
          intro entry mem
          rcases List.mem_append.1 mem with old | new
          · exact still entry old
          · rw [List.mem_singleton.1 new]
            exact resolving.inUse type rfl
        obtain ⟨properties, frame, inUse⟩ := ih (claimed.insert (Naming.sanitize wireName) wireName)
          { model with properties := model.properties ++
              [(wireName, property definition wireName schema type)] } after resolving.coherent next
        exact ⟨properties, frame, inUse⟩

end Properties

namespace Session

/-- A model whose properties are compiled refers to types of the registry after that. -/
lemma Sound.inRange_add (sound : session.Sound) (inRange : model.InRange session)
    (definition : Definition) (entries : List (String × PropertySchema)) :
    let (_, image, after) := Properties.add definition Table.empty
      { model with properties := [] } session.registry entries
    image.InRange { session with registry := after } := by
  obtain ⟨properties, frame, inUse⟩ := Properties.inUse_add definition entries Table.empty
    { model with properties := [] } session.registry sound.coherent (fun entry mem => by cases mem)
  refine ⟨?_, ?_⟩
  · rw [frame]
    exact inUse
  · rw [frame]
    exact inRange.listItemType

lemma Sound.compileProperties (sound : session.Sound) (definition : Definition)
    (entries : List (String × PropertySchema)) (found : session.graph.model? id = some model) :
    Sound
      (let (_, model, registry) := Properties.add definition Table.empty
        { model with properties := [] } session.registry entries
      ⟨session.graph.update id model, registry⟩) := by
  have asks := Properties.asksFor_add definition Table.empty { model with properties := [] }
    session.registry entries
  have inRange := sound.models model (List.mem_of_getElem? found)
  exact (sound.asksFor asks).update id (sound.inRange_add inRange definition entries)

/-- The model of list items is that of a bound reference. -/
lemma Sound.classify (sound : session.Sound) {metadata : MetadataModels}
    {classification : Classification} (found : session.graph.model? id = some model)
    (roles : model.classify session.registry metadata = .ok classification) :
    Sound { session with graph := session.graph.update id { model with classification } } := by
  have inRange := sound.models model (List.mem_of_getElem? found)
  refine sound.update id ⟨inRange.types, fun item isItem => ?_⟩
  have items : classification.listItemType =
      ((model.listItems? session.registry).bind session.registry.descriptor?).bind
        Descriptor.model? := by
    unfold Model.classify at roles
    dsimp only at roles
    split at roles
    · cases roles
    · split at roles
      · cases roles
      · cases roles
        rfl
  rw [isItem] at items
  obtain ⟨descriptor, hdescriptor, isModel⟩ := Option.bind_eq_some_iff.1 items.symm
  obtain ⟨element, -, holds⟩ := Option.bind_eq_some_iff.1 hdescriptor
  rw [Descriptor.model?_eq_some_iff.1 isModel] at holds
  exact sound.links element item holds

/-! ## Runs -/

theorem Step.sound {before after : Session} (step : Step before after) (sound : before.Sound) :
    after.Sound := by
  cases step with
  | insert inRange => exact sound.insert inRange
  | bind name inRange => exact sound.bind name inRange
  | call call inRange => exact sound.call inRange
  | compileProperties definition found first => exact sound.compileProperties definition _ found
  | classify found roles => exact sound.classify found roles

/-- Nothing dangles in a session that steps lead to. -/
theorem Reachable.sound (reachable : session.Reachable) : session.Sound := by
  induction reachable with
  | start => exact sound_start
  | step _ step ih => exact step.sound ih

/-! ## What soundness gives -/

/-- Each place in a session refers to a type or a model that exists, and elements come first. -/
structure InRange (session : Session) : Prop where
  names : ∀ name handle, session.registry.lookup? name = some handle →
    handle.index < session.registry.size
  intrinsics : ∀ type handle, session.registry.intrinsics.lookup type = some handle →
    handle.index < session.registry.size
  shared : ∀ id handle, session.registry.models.lookup id = some handle →
    handle.index < session.registry.size
  properties : ∀ model ∈ session.graph.models, ∀ entry ∈ model.properties,
    entry.2.type.index < session.registry.size
  elements : ∀ handle descriptor element, session.registry.descriptor? handle = some descriptor →
    descriptor.element? = some element →
    element.index < handle.index ∧ element.index < session.registry.size
  modelNames : ∀ name id, session.graph.idOf? name = some id →
    id.index < session.graph.models.length
  links : ∀ handle id, session.registry.descriptor? handle = some (.model (.bound id)) →
    id.index < session.graph.models.length
  metadata : ∀ options id, (MetadataModels.ofGraph session.graph options).objectMeta = some id ∨
    (MetadataModels.ofGraph session.graph options).listMeta = some id →
    id.index < session.graph.models.length
  listItemTypes : ∀ model ∈ session.graph.models, ∀ id,
    model.classification.listItemType = some id → id.index < session.graph.models.length

lemma Sound.inRange (sound : session.Sound) : session.InRange where
  names name handle found := sound.coherent.lt_size found
  intrinsics type handle found :=
    Registry.lt_size_of_descriptor? ((sound.coherent.intrinsic type handle).1 found)
  shared id handle found := Registry.lt_size_of_descriptor? (sound.coherent.model id handle found)
  properties model mem := (sound.models model mem).types
  elements handle descriptor element holds isElement :=
    ⟨sound.coherent.element handle descriptor element holds isElement,
      sound.coherent.element_lt_size holds isElement⟩
  modelNames := sound.names
  links := sound.links
  metadata options id found := by
    rcases found with found | found
    · exact sound.names options.objectMeta id found
    · exact sound.names options.listMeta id found
  listItemTypes model mem := (sound.models model mem).listItemType

end Session

/-! ## Showing types -/

/-- What a wrapper puts around the text of its elements. -/
def Wrapper.text : Wrapper → String → String
  | array, text => "array<" ++ text ++ ">"
  | map, text => "map<string, " ++ text ++ ">"

lemma TypeTree.render_wrapper (modelName : ModelId → String) (wrapper : Wrapper)
    (element : TypeTree) :
    (wrapper.tree element).render modelName = wrapper.text (element.render modelName) := by
  cases wrapper <;> rfl

namespace Registry

/-- The text of a type by its positions alone. A position that does not exist has no text, nor does
a type that is part of itself. -/
inductive Describes (registry : Registry) (graph : Graph) : Handle → String → Prop
  | intrinsic {handle : Handle} {type : Intrinsic}
    (holds : registry.descriptor? handle = some (.intrinsic type)) :
    Describes registry graph handle type.name
  | array {handle element : Handle} {text : String}
    (holds : registry.descriptor? handle = some (.array element))
    (inner : Describes registry graph element text) :
    Describes registry graph handle ("array<" ++ text ++ ">")
  | map {handle element : Handle} {text : String}
    (holds : registry.descriptor? handle = some (.map element))
    (inner : Describes registry graph element text) :
    Describes registry graph handle ("map<string, " ++ text ++ ">")
  | bound {handle : Handle} {id : ModelId} {model : Model}
    (holds : registry.descriptor? handle = some (.model (.bound id)))
    (found : graph.model? id = some model) :
    Describes registry graph handle model.generatedName
  | pending {handle : Handle} {name definition : String}
    (holds : registry.descriptor? handle = some (.model (.pending name definition))) :
    Describes registry graph handle name

variable {registry : Registry} {graph : Graph} {handle element : Handle}

lemma describe_of_wrapper (coherent : registry.Coherent) {wrapper : Wrapper}
    (holds : registry.descriptor? handle = some (wrapper.descriptor element)) :
    registry.describe graph handle = wrapper.text (registry.describe graph element) := by
  have isElement : (wrapper.descriptor element).element? = some element := by
    cases wrapper <;> rfl
  obtain ⟨tree, htree⟩ := tree?_isSome coherent (coherent.element_lt_size holds isElement)
  unfold describe
  rw [tree?_of_wrapper coherent holds, htree]
  exact TypeTree.render_wrapper graph.generatedName wrapper tree

lemma describe_of_bound {id : ModelId} {model : Model}
    (holds : registry.descriptor? handle = some (.model (.bound id)))
    (found : graph.model? id = some model) :
    registry.describe graph handle = model.generatedName := by
  unfold describe
  rw [tree?_of_bound holds]
  show graph.generatedName id = model.generatedName
  unfold Graph.generatedName
  rw [found]
  rfl

/-- The text by positions is the text of the tree. -/
lemma Describes.eq_describe (coherent : registry.Coherent) {text : String}
    (describes : registry.Describes graph handle text) :
    text = registry.describe graph handle := by
  induction describes with
  | intrinsic holds =>
    unfold describe
    rw [tree?_of_intrinsic holds]
    rfl
  | array holds _ inner =>
    have wrapped : registry.descriptor? _ = some (Wrapper.array.descriptor _) := holds
    rw [describe_of_wrapper coherent wrapped, inner]
    rfl
  | map holds _ inner =>
    have wrapped : registry.descriptor? _ = some (Wrapper.map.descriptor _) := holds
    rw [describe_of_wrapper coherent wrapped, inner]
    rfl
  | bound holds found => exact (describe_of_bound holds found).symm
  | pending holds =>
    unfold describe
    rw [tree?_of_pending holds]
    rfl

end Registry

/-- A position in range has a model. -/
lemma Graph.exists_model? {graph : Graph} (inRange : id.index < graph.models.length) :
    ∃ model, graph.model? id = some model :=
  ⟨graph.models[id.index], List.getElem?_eq_getElem inRange⟩

/-- A position in range has a type. -/
lemma Registry.exists_descriptor? {registry : Registry} {handle : Handle}
    (inRange : handle.index < registry.size) :
    ∃ descriptor, registry.descriptor? handle = some descriptor :=
  ⟨registry.slots[handle.index], List.getElem?_eq_getElem inRange⟩

/-- Following positions ends, since elements have smaller positions. -/
lemma Session.Sound.exists_describes (sound : session.Sound) {handle : Handle}
    (inUse : handle.index < session.registry.size) :
    ∃ text, session.registry.Describes session.graph handle text := by
  obtain ⟨index⟩ := handle
  induction index using Nat.strong_induction_on with
  | _ index ih =>
    obtain ⟨descriptor, holds⟩ := Registry.exists_descriptor? inUse
    have element : ∀ element, descriptor.element? = some element →
        ∃ text, session.registry.Describes session.graph element text := fun element isElement =>
      ih element.index (sound.coherent.element _ _ _ holds isElement)
        (sound.coherent.element_lt_size holds isElement)
    rcases descriptor with type | inner | inner | (id | ⟨name, definition⟩)
    · exact ⟨_, .intrinsic holds⟩
    · obtain ⟨text, describes⟩ := element inner rfl
      exact ⟨_, .array holds describes⟩
    · obtain ⟨text, describes⟩ := element inner rfl
      exact ⟨_, .map holds describes⟩
    · obtain ⟨model, found⟩ := Graph.exists_model? (sound.links _ id holds)
      exact ⟨_, .bound holds found⟩
    · exact ⟨_, .pending holds⟩

/-- In a sound session each type has one text. -/
theorem Session.Sound.describes_iff (sound : session.Sound) {handle : Handle}
    (inUse : handle.index < session.registry.size) {text : String} :
    session.registry.Describes session.graph handle text ↔
      text = session.registry.describe session.graph handle := by
  refine ⟨fun describes => describes.eq_describe sound.coherent, fun same => ?_⟩
  obtain ⟨other, describes⟩ := sound.exists_describes inUse
  rw [same, ← describes.eq_describe sound.coherent]
  exact describes

end KubeSchema

import KubeSchema.Proofs.CompileTheorems

/-!
# References by other names of a model

A reference may go by any name that leads to the same model, at any depth of a property. A
compilation binds all names of a model to one slot before it resolves the first property
(`Registry.Serves.bound`), so it finds the same handle under each of them and goes on with the same
registry. Two documents that differ in such names only (`Document.Redirected`) have the same
outcome.
-/

namespace KubeSchema

universe u v

/-! ## Tables with related values -/

/-- Lists with related elements are sorted alike by orders that do not see the difference. -/
lemma forall₂_mergeSort {α β : Type u} {r : α → β → Prop} {le : α → α → Bool} {ge : β → β → Bool}
    {left : List α} {right : List β} (related : List.Forall₂ r left right)
    (same : ∀ a b c d, r a b → r c d → le a c = ge b d) :
    List.Forall₂ r (left.mergeSort le) (right.mergeSort ge) := by
  have length := related.length_eq
  have fst : (left.zip right).map Prod.fst = left := List.map_fst_zip length.le
  have snd : (left.zip right).map Prod.snd = right := List.map_snd_zip length.ge
  have pairs : ∀ pair ∈ left.zip right, r pair.1 pair.2 :=
    fun pair mem => List.forall₂_zip related mem
  -- both lists are sorted by sorting the pairs of their elements
  let order (a b : α × β) : Bool := le a.1 b.1
  have sortedLeft : ((left.zip right).mergeSort order).map Prod.fst = left.mergeSort le := by
    rw [List.map_mergeSort (f := Prod.fst) (s := le) (fun a _ b _ => rfl), fst]
  have sortedRight : ((left.zip right).mergeSort order).map Prod.snd = right.mergeSort ge := by
    rw [List.map_mergeSort (f := Prod.snd) (s := ge)
      (fun a ha b hb => same _ _ _ _ (pairs a ha) (pairs b hb)), snd]
  rw [← sortedLeft, ← sortedRight, List.forall₂_map_left_iff, List.forall₂_map_right_iff,
    List.forall₂_same]
  intro pair mem
  exact pairs pair (List.mem_mergeSort.1 mem)

namespace Table

/-- Two tables have the same keys, with related values. -/
def Related {κ : Type u} {α β : Type v} [Ord κ] (r : α → β → Prop) (left : Table κ α)
    (right : Table κ β) : Prop :=
  List.Forall₂ (fun a b => a.1 = b.1 ∧ r a.2 b.2) left.entries right.entries

namespace Related

variable {κ : Type u} {α β : Type v} [Ord κ] {r : α → β → Prop} {left : Table κ α}
  {right : Table κ β}

lemma refl {r : α → α → Prop} (reflexive : ∀ value, r value value) (table : Table κ α) :
    table.Related r table :=
  List.forall₂_same.2 fun entry _ => ⟨rfl, reflexive entry.2⟩

lemma size (related : left.Related r right) : left.size = right.size :=
  List.Forall₂.length_eq related

lemma isEmpty (related : left.Related r right) : left.isEmpty = right.isEmpty := by
  have length : left.entries.length = right.entries.length := related.size
  rw [Table.isEmpty, Table.isEmpty, Bool.eq_iff_iff, List.isEmpty_iff_length_eq_zero,
    List.isEmpty_iff_length_eq_zero, length]

/-- A key finds related values, or nothing in both tables. -/
lemma lookup? (related : left.Related r right) (key : κ) :
    Option.Rel r (left.lookup? key) (right.lookup? key) := by
  unfold Related at related
  unfold Table.lookup?
  generalize left.entries = entries at related
  generalize right.entries = others at related
  induction related with
  | nil => exact .none
  | @cons entry other _ _ same _ ih =>
    rw [List.find?_cons, List.find?_cons, same.1]
    cases compare key other.1 == .eq with
    | true => exact .some same.2
    | false => exact ih

lemma contains (related : left.Related r right) (key : κ) :
    left.contains key = right.contains key := by
  have found := related.lookup? key
  unfold Table.contains
  generalize left.lookup? key = value at found
  generalize right.lookup? key = other at found
  cases found with
  | some => rfl
  | none => rfl

/-- Related values may be bound to one key. -/
lemma insert [Std.TransOrd κ] (related : left.Related r right) (key : κ) {value : α} {other : β}
    (same : r value other) : (left.insert key value).Related r (right.insert key other) := by
  unfold Related at related ⊢
  unfold Table.insert
  dsimp only
  generalize left.entries = entries at related
  generalize right.entries = others at related
  induction related with
  | nil => exact .cons ⟨rfl, same⟩ .nil
  | @cons entry image _ _ head tail ih =>
    unfold insertEntry
    rw [head.1]
    cases compare key image.1 with
    | lt => exact .cons ⟨rfl, same⟩ (.cons head tail)
    | eq => exact .cons ⟨rfl, same⟩ tail
    | gt => exact .cons head ih

end Related

end Table

/-! ## Names of one model -/

/-- Two names lead to one model. -/
def Graph.SameModel (graph : Graph) (name other : String) : Prop :=
  ∃ id, graph.idOf? name = some id ∧ graph.idOf? other = some id

lemma Graph.SameModel.trans {graph : Graph} {first second third : String}
    (before : graph.SameModel first second) (after : graph.SameModel second third) :
    graph.SameModel first third := by
  obtain ⟨id, hfirst, hsecond⟩ := before
  obtain ⟨other, hother, hthird⟩ := after
  rw [hsecond] at hother
  cases hother
  exact ⟨id, hfirst, hthird⟩

/-! ## Schemas -/

/-- References in a schema go by other names, where `same` says which name may stand for which. -/
inductive PropertySchema.Redirected (same : String → String → Prop) :
    PropertySchema → PropertySchema → Prop
  | refl (schema : PropertySchema) : Redirected same schema schema
  | reference {schema : PropertySchema} {reference other : String}
    (refers : schema.reference = some reference)
    (names : same (referenceName reference) (referenceName other)) :
    Redirected same schema { schema with reference := some other }
  | items {schema node other : PropertySchema} (holds : schema.items = some node)
    (inside : Redirected same node other) :
    Redirected same schema { schema with items := some other }
  | additional {schema node other : PropertySchema}
    (holds : schema.additional = some (.schema node)) (inside : Redirected same node other) :
    Redirected same schema { schema with additional := some (.schema other) }
  | trans {first second third : PropertySchema} (before : Redirected same first second)
    (after : Redirected same second third) : Redirected same first third

/-- Two chains stop alike, but for the name that they refer to. -/
inductive ChainStop.Redirected (same : String → String → Prop) : ChainStop → ChainStop → Prop
  | refl (stop : ChainStop) : Redirected same stop stop
  | reference {name other : String} (names : same name other) :
    Redirected same (.reference name) (.reference other)

namespace PropertySchema

variable {same : String → String → Prop} {schema node other : PropertySchema}

lemma wrappers_items (holds : schema.items = some node) (inside : other.wrappers = node.wrappers) :
    { schema with items := some other }.wrappers = schema.wrappers := by
  cases schema
  subst holds
  unfold wrappers
  dsimp only
  rw [inside]

lemma wrappers_additional (holds : schema.additional = some (.schema node))
    (inside : other.wrappers = node.wrappers) :
    { schema with additional := some (.schema other) }.wrappers = schema.wrappers := by
  cases schema
  subst holds
  unfold wrappers
  dsimp only
  rw [inside]

lemma stop_items (holds : schema.items = some node)
    (inside : ChainStop.Redirected same node.stop other.stop) :
    ChainStop.Redirected same schema.stop { schema with items := some other }.stop := by
  cases schema
  subst holds
  unfold stop
  dsimp only
  -- the items count for arrays only, and only where nothing outranks the type name
  split
  · exact .refl _
  · split
    · exact .refl _
    · split
      · exact .refl _
      · exact inside
      · exact .refl _
      · exact .refl _

lemma stop_additional (holds : schema.additional = some (.schema node))
    (inside : ChainStop.Redirected same node.stop other.stop) :
    ChainStop.Redirected same schema.stop
      { schema with additional := some (.schema other) }.stop := by
  cases schema
  subst holds
  unfold stop
  dsimp only
  split
  · exact .refl _
  · split
    · exact .refl _
    · split
      · exact .refl _
      · exact .refl _
      · exact inside
      · exact .refl _

namespace Redirected

/-- Nothing but references, items and values changes. -/
lemma fields (redirected : schema.Redirected same other) :
    other = { schema with
      reference := other.reference
      items := other.items
      additional := other.additional } := by
  induction redirected with
  | refl schema =>
    cases schema
    rfl
  | reference => rfl
  | items => rfl
  | additional => rfl
  | trans _ _ before after =>
    rw [before] at after
    exact after

/-- The chain keeps its wrappers. -/
lemma wrappers (redirected : schema.Redirected same other) :
    other.wrappers = schema.wrappers := by
  induction redirected with
  | refl => rfl
  | reference refers => rw [wrappers_of_reference refers, wrappers_of_reference rfl]
  | items holds _ inside => exact wrappers_items holds inside
  | additional holds _ inside => exact wrappers_additional holds inside
  | trans _ _ before after => exact after.trans before

/-- The chain stops alike, but for the name of a model that it refers to. -/
lemma stop {graph : Graph}
    (leads : ∀ name further, same name further → graph.SameModel name further)
    (redirected : schema.Redirected same other) :
    ChainStop.Redirected graph.SameModel schema.stop other.stop := by
  induction redirected with
  | refl => exact .refl _
  | reference refers names =>
    rw [stop_of_reference refers, stop_of_reference rfl]
    exact .reference (leads _ _ names)
  | items holds _ inside => exact stop_items holds inside
  | additional holds _ inside => exact stop_additional holds inside
  | @trans first second third _ _ before after =>
    generalize first.stop = left at before
    generalize second.stop = middle at before after
    generalize third.stop = right at after
    cases before with
    | refl => exact after
    | reference names =>
      cases after with
      | refl => exact .reference names
      | reference namesAfter => exact .reference (names.trans namesAfter)

end Redirected

end PropertySchema

/-! ## Resolving -/

section Serving

variable {same : String → String → Prop} {graph : Graph} {registry : Registry}

/-- A graph in which no name is that of a built-in type. -/
def Graph.IsPlain (graph : Graph) : Prop :=
  ∀ name id, graph.idOf? name = some id → Registry.wellKnown.lookup name = none

/-- The names of a model share its handle. -/
lemma Registry.Serves.exists_shared (serves : registry.Serves graph) (plain : graph.IsPlain)
    {name other : String} (names : graph.SameModel name other) :
    ∃ handle, registry.lookup? name = some handle ∧ registry.lookup? other = some handle := by
  obtain ⟨id, hname, hother⟩ := names
  obtain ⟨handle, found, shared⟩ := serves.bound name id hname (plain name id hname)
  obtain ⟨image, foundOther, sharedOther⟩ := serves.bound other id hother (plain other id hother)
  rw [shared] at sharedOther
  cases sharedOther
  exact ⟨handle, found, foundOther⟩

/-- A schema whose references go by other names of their models is resolved alike. -/
theorem Registry.resolve_eq_of_redirected (serves : registry.Serves graph) (plain : graph.IsPlain)
    (leads : ∀ name further, same name further → graph.SameModel name further) (context : Context)
    {schema other : PropertySchema} (redirected : schema.Redirected same other) :
    registry.resolve context schema = registry.resolve context other := by
  have stops := redirected.stop leads
  rw [resolve_eq, resolve_eq, redirected.wrappers]
  congr 1
  generalize schema.stop = stop at stops
  generalize other.stop = otherStop at stops
  cases stops with
  | refl => rfl
  | reference names =>
    obtain ⟨handle, found, foundOther⟩ := serves.exists_shared plain names
    unfold resolveStop resolveReference
    dsimp only
    rw [found, foundOther]

end Serving

/-! ## Definitions -/

/-- References in the properties of a definition go by other names. -/
structure Definition.Redirected (same : String → String → Prop) (definition other : Definition) :
    Prop where
  /-- All but the properties is equal. -/
  fields : other = { definition with properties := other.properties }
  properties : definition.properties.Related (PropertySchema.Redirected same) other.properties

lemma Definition.Redirected.aliasTarget? {same : String → String → Prop}
    {definition other : Definition} (redirected : definition.Redirected same other) :
    other.aliasTarget? = definition.aliasTarget? := by
  unfold Definition.aliasTarget?
  rw [redirected.fields, redirected.properties.isEmpty]

namespace Resolution

variable {same : String → String → Prop} {options : Options}
  {left right : Table String Definition}

/-- A redirected definition has the same shell. -/
lemma visit_eq {definition other : Definition} (redirected : definition.Redirected same other)
    (progress : Progress) (name : String) :
    visit options progress (name, definition) = visit options progress (name, other) := by
  have target := redirected.aliasTarget?
  unfold visit
  dsimp only
  rw [target]
  rw [redirected.fields]
  rfl

lemma follow_eq_of_redirected (related : left.Related (Definition.Redirected same) right)
    {start : String} {steps : Nat} {met : List String} {current : String} :
    follow left options start steps met current = follow right options start steps met current := by
  induction steps generalizing met current with
  | zero => rfl
  | succ steps ih =>
    have next : nextName? left current = nextName? right current := by
      have found := related.lookup? current
      unfold nextName?
      generalize left.lookup? current = definition at found
      generalize right.lookup? current = other at found
      cases found with
      | none => rfl
      | some redirected => exact redirected.aliasTarget?.symm
    unfold follow
    rw [next]
    simp only [related.contains, ih]

/-- The first pass does not see where the references of properties go. -/
theorem resolveAll_eq_of_redirected (related : left.Related (Definition.Redirected same) right) :
    resolveAll left options = resolveAll right options := by
  have visits : left.entries.foldlM (visit options) Progress.start
      = right.entries.foldlM (visit options) Progress.start := by
    refine foldlM_eq_of_forall₂ related fun entry other ⟨name, redirected⟩ progress => ?_
    obtain ⟨name, definition⟩ := entry
    obtain ⟨_, other⟩ := other
    cases name
    exact visit_eq redirected progress name
  have binds : bindAlias left options = bindAlias right options := by
    funext graph name
    unfold bindAlias chainEnd
    rw [related.size, follow_eq_of_redirected related]
  unfold resolveAll
  rw [visits, binds]

end Resolution

/-! ## Properties -/

namespace Properties

variable {same : String → String → Prop} {definition other : Definition} {graph : Graph}
  {registry : Registry}

/-- Redirected definitions list redirected properties in the same order. -/
lemma inEmissionOrder_related (redirected : definition.Redirected same other) :
    List.Forall₂ (fun a b => a.1 = b.1 ∧ a.2.Redirected same b.2)
      (inEmissionOrder definition) (inEmissionOrder other) := by
  have related := redirected.properties
  unfold Table.Related at related
  unfold inEmissionOrder
  refine forall₂_mergeSort related fun a b c d same other => ?_
  rw [same.1, other.1]

/-- A property does not tell where its schema refers to. -/
lemma property_eq (redirected : definition.Redirected same other) {schema image : PropertySchema}
    (inside : schema.Redirected same image) (wireName : String) (type : Handle) :
    property definition wireName schema type = property other wireName image type := by
  rw [redirected.fields, inside.fields]
  rfl

/-- Redirected properties are added alike. -/
lemma add_eq (plain : graph.IsPlain)
    (leads : ∀ name further, same name further → graph.SameModel name further)
    (redirected : definition.Redirected same other)
    {entries images : List (String × PropertySchema)}
    (related : List.Forall₂ (fun a b => a.1 = b.1 ∧ a.2.Redirected same b.2) entries images)
    (serves : registry.Serves graph) (claimed : Table String String) (model : Model) :
    add definition claimed model registry entries = add other claimed model registry images := by
  induction related generalizing registry claimed model with
  | nil => rfl
  | @cons entry image _ _ head _ ih =>
    obtain ⟨wireName, schema⟩ := entry
    obtain ⟨_, target⟩ := image
    obtain ⟨rfl, inside⟩ := head
    have resolved := Registry.resolve_eq_of_redirected serves plain leads
      ⟨model.definitionName, wireName⟩ inside
    have served := Registry.serves_resolve serves ⟨model.definitionName, wireName⟩ target
    unfold add
    dsimp only
    rw [resolved]
    cases claimed.lookup? (Naming.sanitize wireName) with
    | some first => rfl
    | none =>
      dsimp only
      generalize registry.resolve _ target = outcome at served
      obtain ⟨result, after⟩ := outcome
      cases result with
      | error error => rfl
      | ok type =>
        dsimp only
        rw [property_eq redirected inside]
        exact ih served _ _

end Properties

/-! ## Compilations -/

namespace Compile

variable {same : String → String → Prop} {graph : Graph} {registry : Registry}

/-- Models get the same properties from redirected definitions. -/
lemma modelProperties_eq_of_redirected {left right : Table String Definition}
    (plain : graph.IsPlain)
    (leads : ∀ name further, same name further → graph.SameModel name further)
    (related : left.Related (Definition.Redirected same) right) (serves : registry.Serves graph)
    (models : List Model) :
    modelProperties left registry models = modelProperties right registry models := by
  induction models generalizing registry with
  | nil => rfl
  | cons model rest ih =>
    have found := related.lookup? model.definitionName
    unfold modelProperties
    generalize left.lookup? model.definitionName = definition at found
    generalize right.lookup? model.definitionName = other at found
    cases found with
    | none =>
      dsimp only
      rw [ih serves]
    | @some definition other redirected =>
      have added : compileProperties model definition registry
          = compileProperties model other registry :=
        Properties.add_eq plain leads redirected (Properties.inEmissionOrder_related redirected)
          serves _ _
      dsimp only
      rw [added]
      -- after a success the registry serves the graph still, so the rest goes on alike
      obtain ⟨fault, last, -, herror⟩ | ⟨-, properties, after, hok, compiled⟩ :=
        compileProperties_cases serves model other
      · rw [herror]
      · rw [hok]
        dsimp only
        rw [ih compiled.serves]

/-- Where the names of the built-in types are passed over, none of them is in the graph. -/
lemma isPlain_of_resolveAll {definitions : Table String Definition} {options : Options}
    (stock : ∀ name ∈ Options.stockIgnored, options.isIgnored name = true)
    (resolved : resolveAll definitions options = .ok graph) : graph.IsPlain := by
  intro name id found
  have listed : name ∈ graph.names.keys := graph.names.mem_keys_iff.2 ⟨id, found⟩
  rw [(Resolution.resolved_of_resolveAll resolved).keys, List.mem_filter] at listed
  have kept : options.isIgnored name = false := by simpa using listed.2
  have stocked : ∀ entry ∈ Registry.wellKnown, entry.1 ∈ Options.stockIgnored := by decide
  by_contra known
  obtain ⟨type, htype⟩ := Option.ne_none_iff_exists'.1 known
  have mem := (lookup_eq_some_iff_mem Registry.wellKnown_keys_nodup).1 htype
  rw [stock name (stocked _ mem)] at kept
  cases kept

end Compile

/-- Documents with the same paths that differ in some references of properties, at any depth. -/
structure Document.Redirected (same : String → String → Prop) (left right : Document) : Prop where
  definitions : left.definitions.Related (Definition.Redirected same) right.definitions
  paths : right.paths = left.paths

/-- **Names of one model.** If the stock names are passed over, then references of properties may go
by any other name that the first pass lets lead to the same model: the outcome is the same graph,
registry and bindings, or the same error. -/
theorem compile_eq_of_redirected {left right : Document} {options : Options}
    (stock : ∀ name ∈ Options.stockIgnored, options.isIgnored name = true)
    (redirected : left.Redirected (fun name other => ∃ graph,
      resolveAll left.definitions options = .ok graph ∧ graph.SameModel name other) right) :
    compile left options = compile right options := by
  have first : resolveAll left.definitions options = resolveAll right.definitions options :=
    Resolution.resolveAll_eq_of_redirected redirected.definitions
  unfold compile
  rw [← first, redirected.paths]
  cases resolved : resolveAll left.definitions options with
  | error error => rfl
  | ok graph =>
    have leads : ∀ name other, (∃ found, resolveAll left.definitions options = .ok found ∧
        found.SameModel name other) → graph.SameModel name other := by
      rintro name other ⟨found, hfound, names⟩
      rw [resolved] at hfound
      cases hfound
      exact names
    have plain := Compile.isPlain_of_resolveAll stock resolved
    have second := Compile.modelProperties_eq_of_redirected plain leads redirected.definitions
      (Compile.serves_bindNames graph) graph.models
    simp only [bind, Except.bind, second]

/-- The small document, with the values of a property of leaves under a given name. -/
def parentedDocument (name : String) : Document :=
  { sampleDocument with
    definitions := sampleDocument.definitions.insert "a.Leaf"
      { properties := Table.empty.insert "parents" (mapOf (referTo name)) } }

/-- An alias of an alias leads where the name at the end of its chain leads. -/
lemma sameModel_parentedDocument : ∃ graph,
    resolveAll (parentedDocument "c.Older").definitions .standard = .ok graph ∧
      graph.SameModel "c.Older" "b.Node" := by
  have checked : (resolveAll (parentedDocument "c.Older").definitions .standard).toOption.any
      (fun graph => decide (graph.idOf? "c.Older" = some ⟨1⟩ ∧ graph.idOf? "b.Node" = some ⟨1⟩))
        = true := by
    decide +kernel
  obtain ⟨graph, resolved, leads⟩ := exists_ok_of_any checked
  exact ⟨graph, resolved, ⟨1⟩, of_decide_eq_true leads⟩

theorem compile_eq_of_redirected_of_parented : ∃ compiled,
    compile (parentedDocument "c.Older") .standard = .ok compiled ∧
    compile (parentedDocument "b.Node") .standard = .ok compiled := by
  obtain ⟨compiled, h⟩ : ∃ compiled,
      compile (parentedDocument "c.Older") .standard = .ok compiled :=
    exists_ok_of_isSome (by decide +kernel)
  have stock : ∀ name ∈ Options.stockIgnored, Options.standard.isIgnored name = true := by decide
  have redirected : (parentedDocument "c.Older").Redirected (fun name other => ∃ graph,
      resolveAll (parentedDocument "c.Older").definitions .standard = .ok graph ∧
        graph.SameModel name other) (parentedDocument "b.Node") := by
    refine ⟨?_, rfl⟩
    -- one definition differs, in the schema of the values of one property
    apply Table.Related.insert (.refl (fun definition => ⟨rfl, .refl .refl _⟩) _)
    refine ⟨rfl, Table.Related.insert (.refl .refl _) _ (.additional rfl (.reference rfl ?_))⟩
    have name : referenceName (definitionsLead ++ "c.Older") = "c.Older" := by decide
    have other : referenceName (definitionsLead ++ "b.Node") = "b.Node" := by decide
    rw [name, other]
    exact sameModel_parentedDocument
  exact ⟨compiled, h, (compile_eq_of_redirected stock redirected).symm.trans h⟩

end KubeSchema

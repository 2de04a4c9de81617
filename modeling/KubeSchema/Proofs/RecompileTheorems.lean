import KubeSchema.Proofs.HandleTheorems
import KubeSchema.Proofs.HistoryTheorems
import KubeSchema.Proofs.PropertyListTheorems

/-!
# Compiling a model again

Once the properties of a model have been compiled, every chain of the definition stops at a name or
a built-in type that the registry knows (`Represents`). So compiling them again finds all stops
where they are (`resolveStop_of_holdsStop`), before or after sealing, and adds nothing but the
wrappers around them, which are new each time (`wrapAll_eq_withSlots`). The second property list
differs from the first in the handles of arrays and maps only (`Retyped`).
-/

namespace KubeSchema

/-- The descriptor is one that the wrapper makes. -/
def Wrapper.Makes (wrapper : Wrapper) (descriptor : Descriptor) : Prop :=
  ∃ element, descriptor = wrapper.descriptor element

lemma Wrapper.isCollection_descriptor (wrapper : Wrapper) (element : Handle) :
    (wrapper.descriptor element).isCollection = true := by
  cases wrapper <;> rfl

/-- The name of a type does not lead to an array or a map. -/
lemma Descriptor.NamedBy.isCollection {descriptor : Descriptor} {name : String}
    (named : descriptor.NamedBy name) : descriptor.isCollection = false := by
  rcases descriptor with type | element | element | link
  · rfl
  · exact named.elim
  · exact named.elim
  · rfl

namespace Registry

variable {registry before after : Registry} {handle inner outer first second : Handle}
  {wrappers : List Wrapper} {context : Context} {schema : PropertySchema} {stop : ChainStop}

/-! ## Slots behind those of a registry -/

/-- The registry with further slots. -/
def withSlots (registry : Registry) (added : List Descriptor) : Registry :=
  { registry with slots := registry.slots ++ added }

@[simp] lemma withSlots_nil (registry : Registry) : registry.withSlots [] = registry := by
  rw [withSlots, List.append_nil]

@[simp] lemma withSlots_withSlots (registry : Registry) (added further : List Descriptor) :
    (registry.withSlots added).withSlots further = registry.withSlots (added ++ further) := by
  rw [withSlots, withSlots, withSlots, List.append_assoc]

@[simp] lemma size_withSlots (registry : Registry) (added : List Descriptor) :
    (registry.withSlots added).size = registry.size + added.length :=
  List.length_append

lemma extends_withSlots (registry : Registry) (added : List Descriptor) :
    registry.Extends (registry.withSlots added) :=
  ⟨List.prefix_append _ _, fun _ _ found => found⟩

/-! ## Resolving what is known -/

/-- A stop that has a handle is resolved to it, and the registry stays as it is. -/
lemma resolveStop_of_holdsStop (coherent : registry.Coherent)
    (holds : registry.HoldsStop inner stop) :
    registry.resolveStop context stop = (.ok inner, registry) := by
  cases stop with
  | reference name =>
    have found : registry.lookup? name = some inner := holds
    rw [resolveStop, resolveReference, found]
  | intrinsic type =>
    have known := (coherent.intrinsic type inner).2 holds
    rw [resolveStop, intrinsic, known]
    rfl
  | arrayWithoutItems => exact holds.elim
  | unsupportedType typeName => exact holds.elim

/-- A stop has one handle. -/
lemma HoldsStop.unique (coherent : registry.Coherent) (left : registry.HoldsStop first stop)
    (right : registry.HoldsStop second stop) : first = second := by
  let context : Context := ⟨"", ""⟩
  have same : registry.resolveStop context stop = (.ok first, registry) :=
    resolveStop_of_holdsStop coherent left
  rw [resolveStop_of_holdsStop coherent right] at same
  cases same
  rfl

/-- The stop of a chain is no array and no map. -/
lemma HoldsStop.exists_descriptor? (coherent : registry.Coherent)
    (holds : registry.HoldsStop inner stop) :
    ∃ descriptor, registry.descriptor? inner = some descriptor ∧
      descriptor.isCollection = false := by
  cases stop with
  | reference name =>
    obtain ⟨descriptor, found, named⟩ := coherent.named name inner holds
    exact ⟨descriptor, found, named.isCollection⟩
  | intrinsic type => exact ⟨_, holds, rfl⟩
  | arrayWithoutItems => exact holds.elim
  | unsupportedType typeName => exact holds.elim

/-- Wrapping adds one slot for each wrapper, the innermost first. -/
lemma wrapAll_eq_withSlots (wrappers : List Wrapper) (inner : Handle) (registry : Registry) :
    ∃ outer added, wrapAll wrappers (.ok inner, registry) = (.ok outer, registry.withSlots added) ∧
      List.Forall₂ Wrapper.Makes wrappers.reverse added ∧
      (registry.withSlots added).Unwraps wrappers outer inner ∧
      (wrappers ≠ [] → registry.size ≤ outer.index) := by
  induction wrappers with
  | nil =>
    refine ⟨inner, [], ?_, .nil, rfl, fun nonempty => absurd rfl nonempty⟩
    rw [withSlots_nil]
    rfl
  | cons wrapper rest ih =>
    obtain ⟨outer, added, heq, made, unwraps, -⟩ := ih
    have pushed : ((registry.withSlots added).push (wrapper.descriptor outer)).2
        = registry.withSlots (added ++ [wrapper.descriptor outer]) := by
      rw [← withSlots_withSlots]
      rfl
    have growth := Extends.push (registry.withSlots added) (wrapper.descriptor outer)
    have holds : ((registry.withSlots added).push (wrapper.descriptor outer)).2.descriptor?
        ⟨(registry.withSlots added).size⟩ = some (wrapper.descriptor outer) := descriptor?_push_self
    refine ⟨⟨(registry.withSlots added).size⟩, added ++ [wrapper.descriptor outer], ?_, ?_, ?_, ?_⟩
    · rw [wrapAll_cons, heq, ← pushed]
      rfl
    · rw [List.reverse_cons]
      exact List.rel_append made (.cons ⟨outer, rfl⟩ .nil)
    · rw [← pushed]
      exact ⟨outer, holds, unwraps.kept growth.keeps⟩
    · intro _
      rw [size_withSlots]
      exact Nat.le_add_right _ _

/-! ## Handles of one type -/

/-- Two handles are of one type: one handle, unless it is that of an array or a map, which are made
anew. -/
structure SameUpToWrappers (before after : Registry) (first second : Handle) : Prop where
  tree : ∃ tree, before.tree? first = some tree ∧ after.tree? second = some tree
  handle : ∃ descriptor, before.descriptor? first = some descriptor ∧
    if descriptor.isCollection = true then before.size ≤ second.index else second = first

lemma SameUpToWrappers.extends {last : Registry}
    (same : SameUpToWrappers before after first second) (growth : after.Extends last) :
    SameUpToWrappers before last first second where
  tree := by
    obtain ⟨tree, hfirst, hsecond⟩ := same.tree
    exact ⟨tree, hfirst, growth.tree? hsecond⟩
  handle := same.handle

/-- Of two handles that lead to one stop through the same wrappers, the second is new if there are
any wrappers, and otherwise both are that of the stop. -/
lemma Unwraps.exists_descriptor? {last : Registry} (coherent : registry.Coherent)
    (unwraps : registry.Unwraps wrappers first inner) (again : last.Unwraps wrappers second inner)
    (holds : registry.HoldsStop inner stop)
    (new : wrappers ≠ [] → registry.size ≤ second.index) :
    ∃ descriptor, registry.descriptor? first = some descriptor ∧
      if descriptor.isCollection = true then registry.size ≤ second.index else second = first := by
  cases wrappers with
  | nil =>
    obtain rfl : first = inner := unwraps
    obtain rfl : second = first := again
    obtain ⟨descriptor, found, plain⟩ := holds.exists_descriptor? coherent
    refine ⟨descriptor, found, ?_⟩
    rw [plain]
    rfl
  | cons wrapper rest =>
    obtain ⟨element, found, -⟩ := unwraps
    refine ⟨_, found, ?_⟩
    rw [if_pos (wrapper.isCollection_descriptor element)]
    exact new (List.cons_ne_nil wrapper rest)

/-- A schema that has a handle is resolved again to one of the same type, and new are only its
wrappers. -/
theorem resolve_again {start later : Registry} (coherent : start.Coherent)
    (still : later.Coherent) (growth : start.Extends later)
    (represents : start.Represents schema handle) (context : Context) :
    ∃ other added, later.resolve context schema = (.ok other, later.withSlots added) ∧
      List.Forall₂ Wrapper.Makes schema.wrappers.reverse added ∧
      SameUpToWrappers start (later.withSlots added) handle other := by
  obtain ⟨inner, unwraps, holds⟩ := represents
  obtain ⟨other, added, heq, made, unwrapsAgain, new⟩ :=
    wrapAll_eq_withSlots schema.wrappers inner later
  have resolved : later.resolve context schema = (.ok other, later.withSlots added) := by
    rw [resolve_eq, resolveStop_of_holdsStop still (holds.kept growth.keeps), heq]
  refine ⟨other, added, resolved, made, ⟨?_, ?_⟩⟩
  · -- both handles lead through the same wrappers to the handle of the stop
    have whole := (resolving_resolve still context schema).coherent
    rw [resolved] at whole
    obtain ⟨descriptor, hinner, -⟩ := holds.exists_descriptor? coherent
    obtain ⟨tree, htree⟩ := tree?_isSome coherent (lt_size_of_descriptor? hinner)
    have treeAgain := (growth.trans (extends_withSlots later added)).tree? htree
    refine ⟨schema.wrappers.foldr Wrapper.tree tree, ?_, ?_⟩
    · rw [unwraps.tree? coherent, htree]
      rfl
    · rw [unwrapsAgain.tree? whole, treeAgain]
      rfl
  · exact unwraps.exists_descriptor? coherent unwrapsAgain holds fun nonempty =>
      growth.size_le.trans (new nonempty)

/-- Calls that bind nothing keep what all calls keep. -/
lemma AsksFor.keeps (asks : before.AsksFor after) (coherent : before.Coherent) :
    after.Coherent ∧ before.Keeps after := by
  refine asks.invariant (motive := fun after => after.Coherent ∧ before.Keeps after)
    ⟨coherent, .refl before⟩ ?_
  rintro registry call - ⟨coherent, keeps⟩
  have change := change_after coherent call
  exact ⟨change.coherent, keeps.trans change.keeps⟩

end Registry

open Registry (run Call)

/-! ## Property lists -/

/-- Two listed properties agree in everything but the handles of arrays and maps. -/
structure Retyped (before after : Registry) (first second : String × Property) : Prop where
  key : second.1 = first.1
  fields : second.2 = { first.2 with type := second.2.type }
  type : Registry.SameUpToWrappers before after first.2.type second.2.type

namespace Properties

variable {definition : Definition} {claimed : Table String String} {model result : Model}
  {before after : Registry} {entries : List (String × PropertySchema)}

/-- The wrappers along the chains of some properties, for each chain the innermost first. -/
def layers (entries : List (String × PropertySchema)) : List Wrapper :=
  entries.flatMap fun entry => entry.2.wrappers.reverse

/-- Properties that have been added once are added again on top of every later registry, and new
are only wrappers. -/
lemma add_again (coherent : before.Coherent)
    (h : add definition claimed model before entries = (.ok (), result, after)) :
    ∃ firsts, result = { model with properties := model.properties ++ firsts } ∧
      ∀ (start later : Registry) (other : Model), start.Coherent → after.Keeps start →
        later.Coherent → start.Extends later →
        ∃ seconds added, add definition claimed other later entries
            = (.ok (), { other with properties := other.properties ++ seconds },
              later.withSlots added) ∧
          List.Forall₂ Wrapper.Makes (layers entries) added ∧
          List.Forall₂ (Retyped start (later.withSlots added)) firsts seconds := by
  induction entries generalizing claimed model before with
  | nil =>
    rw [add] at h
    cases h
    refine ⟨[], by rw [List.append_nil], ?_⟩
    intro start later other _ _ _ _
    refine ⟨[], [], ?_, .nil, .nil⟩
    rw [add, List.append_nil, Registry.withSlots_nil]
  | cons entry rest ih =>
    obtain ⟨wireName, schema⟩ := entry
    obtain ⟨free, type, between, resolved, further⟩ := add_cons_eq_ok h
    have resolving :=
      Registry.resolving_resolve coherent ⟨model.definitionName, wireName⟩ schema
    have represents : between.Represents schema type := by
      have read := congrArg Prod.fst resolved
      have represents := Registry.represents_resolve coherent read
      rwa [resolved] at represents
    rw [resolved] at resolving
    have asks := asksFor_add definition (claimed.insert (Naming.sanitize wireName) wireName)
      { model with properties :=
          model.properties ++ [(wireName, property definition wireName schema type)] }
      between rest
    rw [further] at asks
    obtain ⟨-, keeps⟩ := asks.keeps resolving.coherent
    obtain ⟨firsts, hresult, again⟩ := ih resolving.coherent further
    refine ⟨(wireName, property definition wireName schema type) :: firsts, ?_, ?_⟩
    · rw [hresult, List.append_assoc]
      rfl
    · intro start later other hstart later_keeps hlater growth
      obtain ⟨handle, wrapped, resolvedAgain, made, same⟩ :=
        Registry.resolve_again hstart hlater growth
          (represents.kept (keeps.trans later_keeps)) ⟨other.definitionName, wireName⟩
      have whole := (Registry.resolving_resolve hlater ⟨other.definitionName, wireName⟩ schema)
      rw [resolvedAgain] at whole
      obtain ⟨seconds, added, hadd, madeLater, retyped⟩ := again start (later.withSlots wrapped)
        { other with properties :=
            other.properties ++ [(wireName, property definition wireName schema handle)] }
        hstart later_keeps whole.coherent (growth.trans whole.growth)
      have grows := Registry.extends_withSlots (later.withSlots wrapped) added
      rw [Registry.withSlots_withSlots] at hadd retyped grows
      refine ⟨(wireName, property definition wireName schema handle) :: seconds,
        wrapped ++ added, ?_, ?_, .cons ⟨rfl, rfl, same.extends grows⟩ retyped⟩
      · rw [add_cons_of_ok free resolvedAgain, hadd, List.append_assoc]
        rfl
      · exact List.rel_append made madeLater

end Properties

variable {calls : List Call} {model result : Model} {definition : Definition}
  {after start : Registry}

/-- **Compiling again.** If the properties of a model are compiled, they can be compiled again, also
after sealing. The property list is the same but for the handles of arrays and maps, which are new
and of the same types; the registry gains exactly the wrappers along the chains of the definition,
one slot each, and nothing else changes in it. -/
theorem compileProperties_again
    (h : compileProperties model definition (run calls) = (.ok (), result, after))
    (next : start = after ∨ after.sealUp = (.ok (), start)) :
    ∃ again added,
      compileProperties result definition start = (.ok (), again, start.withSlots added) ∧
      again = { result with properties := again.properties } ∧
      List.Forall₂ (Retyped start (start.withSlots added)) result.properties again.properties ∧
      List.Forall₂ Wrapper.Makes (Properties.layers (Properties.inEmissionOrder definition)) added := by
  have coherent := Registry.coherent_run calls
  obtain ⟨firsts, hresult, again⟩ := Properties.add_again coherent h
  have asks := asksFor_compileProperties model definition (run calls)
  rw [h] at asks
  obtain ⟨settled, -⟩ := asks.keeps coherent
  have sealed : start.Coherent ∧ after.Keeps start := by
    rcases next with rfl | sealed
    · exact ⟨settled, .refl start⟩
    · have change := Registry.change_after settled .sealUp
      rw [Registry.after, sealed] at change
      exact ⟨change.coherent, change.keeps⟩
  obtain ⟨seconds, added, hadd, made, retyped⟩ :=
    again start start { result with properties := [] } sealed.1 sealed.2 sealed.1 (.refl start)
  refine ⟨{ result with properties := seconds }, added, hadd, rfl, ?_, made⟩
  rw [hresult]
  exact retyped

/-- A map of lists of parts. -/
def drawersSchema : PropertySchema where
  typeName := some "object"
  additional := some (.schema {
    typeName := some "array"
    items := some { reference := some "#/definitions/a.v1.Part" } })

/-- Two properties with three wrappers between them, and one without. -/
def cabinetDefinition : Definition where
  properties := .ofList [
    ("drawers", drawersSchema), ("kind", { typeName := some "string" }),
    ("labels", { typeName := some "array", items := some { typeName := some "string" } })]

lemma inEmissionOrder_cabinetDefinition :
    Properties.inEmissionOrder cabinetDefinition = cabinetDefinition.properties.entries := by
  apply Properties.inEmissionOrder_eq (.refl _)
  decide +kernel

/-- The three wrappers are made again after sealing. -/
theorem compileProperties_again_of_cabinet : ∃ result after start again added,
    compileProperties shelfModel cabinetDefinition (run [.bind "a.v1.Part" ⟨0⟩])
      = (.ok (), result, after) ∧
    after.sealUp = (.ok (), start) ∧
    compileProperties result cabinetDefinition start = (.ok (), again, start.withSlots added) ∧
    List.Forall₂ (Retyped start (start.withSlots added)) result.properties again.properties ∧
    List.Forall₂ Wrapper.Makes [.array, .map, .array] added := by
  have checked :
      (compileProperties shelfModel cabinetDefinition (run [.bind "a.v1.Part" ⟨0⟩])).1.isOk
        = true ∧
      (compileProperties shelfModel cabinetDefinition
        (run [.bind "a.v1.Part" ⟨0⟩])).2.2.firstPending? = none := by
    unfold compileProperties
    rw [inEmissionOrder_cabinetDefinition]
    decide +kernel
  have layers : Properties.layers (Properties.inEmissionOrder cabinetDefinition)
      = [.array, .map, .array] := by
    rw [inEmissionOrder_cabinetDefinition]
    decide +kernel
  cases h : compileProperties shelfModel cabinetDefinition (run [.bind "a.v1.Part" ⟨0⟩]) with
  | mk outcome rest =>
    obtain ⟨result, after⟩ := rest
    rw [h] at checked
    cases outcome with
    | error error => cases checked.1
    | ok _ =>
      have sealed : after.sealUp = (.ok (), { after with isSealed := true }) := by
        rw [Registry.sealUp, checked.2]
      obtain ⟨again, added, heq, -, retyped, made⟩ := compileProperties_again h (.inr sealed)
      rw [layers] at made
      exact ⟨result, after, _, again, added, rfl, sealed, heq, retyped, made⟩

end KubeSchema

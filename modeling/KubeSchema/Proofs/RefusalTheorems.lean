import KubeSchema.Proofs.HandleTheorems

/-!
# What resolving refuses

Resolving follows a schema inwards, through the items of arrays and the values of maps (`Leads`). It
refuses an array without items and a type name that is none of the known ones (`Faulty`), and after
sealing also a reference to an unknown name (`RefersTo`), and nothing else. These three are said of
the schemas themselves and not of the stop that the resolver reads off them;
`fault?_stop_eq_some_iff` and `stop_eq_reference_iff` bring the two together. A refusal leaves the
registry alone, and a success only adds to it (`ResolvesExactly`).
-/

namespace KubeSchema

/-! ## Following a schema -/

/-- The type names that a schema may have. -/
def knownTypeNames : List String := ["array", "object", "integer", "number", "string", "boolean"]

/-- A name that is neither an array nor an object is a primitive, or none of the known ones. -/
lemma Intrinsic.ofPrimitive?_eq_none_iff {name : String} {format : Option String}
    (noArray : name ≠ "array") (noObject : name ≠ "object") :
    ofPrimitive? name format = none ↔ name ∉ knownTypeNames := by
  unfold ofPrimitive?
  split <;> simp_all [knownTypeNames]

namespace PropertySchema

variable {schema inner last : PropertySchema} {name property : String}

/-- The type of a schema is decided by its type name: it has no reference and no mark for an integer
or a string. -/
structure HasType (schema : PropertySchema) (name : String) : Prop where
  reference : schema.reference = none
  intOrString : schema.intOrString = false
  typeName : schema.typeName = some name

/-- Following a schema inwards leads to another one. -/
inductive Leads : PropertySchema → PropertySchema → Prop
  | refl (schema : PropertySchema) : Leads schema schema
  | items {schema inner last : PropertySchema} (typed : schema.HasType "array")
    (holds : schema.items = some inner) (further : Leads inner last) : Leads schema last
  | values {schema inner last : PropertySchema} (typed : schema.HasType "object")
    (holds : schema.additional = some (.schema inner)) (further : Leads inner last) :
    Leads schema last

/-- Following the schema of a property meets something that has no type. -/
inductive Faulty (property : String) (schema : PropertySchema) : DefinitionFault → Prop
  | arrayWithoutItems {last : PropertySchema} (leads : schema.Leads last)
    (typed : last.HasType "array") (missing : last.items = none) :
    Faulty property schema (.arrayWithoutItems property)
  | unsupportedType {last : PropertySchema} {name : String} (leads : schema.Leads last)
    (typed : last.HasType name) (unknown : name ∉ knownTypeNames) :
    Faulty property schema (.unsupportedType property name)

/-- Following the schema ends at a reference to a name. -/
def RefersTo (schema : PropertySchema) (name : String) : Prop :=
  ∃ last reference, schema.Leads last ∧ last.reference = some reference ∧
    referenceName reference = name

/-! ## The stop of a chain -/

lemma HasType.eq_with (typed : schema.HasType name) :
    schema = { schema with reference := none, intOrString := false, typeName := some name } := by
  rw [← typed.reference, ← typed.intOrString, ← typed.typeName]
  cases schema
  rfl

lemma HasType.stop_of_items (typed : schema.HasType "array") (holds : schema.items = some inner) :
    schema.stop = inner.stop := by
  rw [typed.eq_with, holds, stop.eq_def]
  rfl

lemma HasType.stop_of_values (typed : schema.HasType "object")
    (holds : schema.additional = some (.schema inner)) : schema.stop = inner.stop := by
  rw [typed.eq_with, holds, stop.eq_def]
  rfl

lemma HasType.stop_of_missing (typed : schema.HasType "array") (missing : schema.items = none) :
    schema.stop = .arrayWithoutItems := by
  rw [typed.eq_with, missing, stop.eq_def]
  rfl

lemma HasType.stop_of_unknown (typed : schema.HasType name) (unknown : name ∉ knownTypeNames) :
    schema.stop = .unsupportedType name := by
  have noArray : name ≠ "array" := fun same => unknown (by simp [same, knownTypeNames])
  have noObject : name ≠ "object" := fun same => unknown (by simp [same, knownTypeNames])
  have notPrimitive : Intrinsic.ofPrimitive? name schema.format = none :=
    (Intrinsic.ofPrimitive?_eq_none_iff noArray noObject).2 unknown
  rw [typed.eq_with, stop.eq_def]
  simp [notPrimitive]

/-- All schemas along a chain have one stop. -/
lemma Leads.stop_eq (leads : schema.Leads last) : schema.stop = last.stop := by
  induction leads with
  | refl schema => rfl
  | items typed holds _ ih => exact (typed.stop_of_items holds).trans ih
  | values typed holds _ ih => exact (typed.stop_of_values holds).trans ih

/-- Where following a schema ends, and the stop that is read off there. -/
inductive EndsIn (schema : PropertySchema) : ChainStop → Prop
  | reference {last : PropertySchema} {reference : String} (leads : schema.Leads last)
    (refers : last.reference = some reference) : EndsIn schema (.reference (referenceName reference))
  | intrinsic (type : Intrinsic) : EndsIn schema (.intrinsic type)
  | arrayWithoutItems {last : PropertySchema} (leads : schema.Leads last)
    (typed : last.HasType "array") (missing : last.items = none) : EndsIn schema .arrayWithoutItems
  | unsupportedType {last : PropertySchema} {name : String} (leads : schema.Leads last)
    (typed : last.HasType name) (unknown : name ∉ knownTypeNames) :
    EndsIn schema (.unsupportedType name)

lemma EndsIn.of_step {stop : ChainStop} (ends : inner.EndsIn stop)
    (step : ∀ last, inner.Leads last → schema.Leads last) : schema.EndsIn stop := by
  cases ends with
  | reference leads refers => exact .reference (step _ leads) refers
  | intrinsic type => exact .intrinsic type
  | arrayWithoutItems leads typed missing => exact .arrayWithoutItems (step _ leads) typed missing
  | unsupportedType leads typed unknown => exact .unsupportedType (step _ leads) typed unknown

lemma HasType.endsIn_of_items (typed : schema.HasType "array") (holds : schema.items = some inner)
    (ends : inner.EndsIn inner.stop) : schema.EndsIn schema.stop := by
  rw [typed.stop_of_items holds]
  exact ends.of_step fun last leads => .items typed holds leads

lemma HasType.endsIn_of_values (typed : schema.HasType "object")
    (holds : schema.additional = some (.schema inner)) (ends : inner.EndsIn inner.stop) :
    schema.EndsIn schema.stop := by
  rw [typed.stop_of_values holds]
  exact ends.of_step fun last leads => .values typed holds leads

lemma HasType.endsIn_of_missing (typed : schema.HasType "array") (missing : schema.items = none) :
    schema.EndsIn schema.stop := by
  rw [typed.stop_of_missing missing]
  exact .arrayWithoutItems (.refl schema) typed missing

lemma HasType.endsIn_of_unknown (typed : schema.HasType name) (unknown : name ∉ knownTypeNames) :
    schema.EndsIn schema.stop := by
  rw [typed.stop_of_unknown unknown]
  exact .unsupportedType (.refl schema) typed unknown

/-- Following a schema ends where the resolver stops. -/
theorem endsIn_stop (schema : PropertySchema) : schema.EndsIn schema.stop := by
  induction schema using Registry.resolve.induct with
  | case1 =>
    rw [stop_of_reference rfl]
    exact .reference (.refl _) rfl
  | case2 =>
    rw [stop.eq_def]
    exact .intrinsic _
  | case3 _ _ _ _ _ _ _ unmarked =>
    simp only [stop, unmarked]
    exact .intrinsic _
  | case4 _ _ _ _ _ _ unmarked items ih =>
    exact HasType.endsIn_of_items ⟨rfl, by simpa using unmarked, rfl⟩ rfl ih
  | case5 _ _ _ _ _ _ unmarked =>
    exact HasType.endsIn_of_missing ⟨rfl, by simpa using unmarked, rfl⟩ rfl
  | case6 _ _ _ _ _ _ unmarked value ih =>
    exact HasType.endsIn_of_values ⟨rfl, by simpa using unmarked, rfl⟩ rfl ih
  | case7 _ _ _ _ _ _ unmarked =>
    simp only [stop, unmarked]
    exact .intrinsic _
  | case8 _ _ _ _ _ _ _ unmarked noSchema notAny =>
    simp only [stop, unmarked]
    exact .intrinsic _
  | case9 _ _ _ _ _ _ _ unmarked typeName noArray noObject type primitive =>
    simp_all only [stop]
    exact .intrinsic _
  | case10 _ _ _ _ _ _ _ unmarked typeName noArray noObject unknown =>
    have unknown := (Intrinsic.ofPrimitive?_eq_none_iff noArray noObject).1 unknown
    exact HasType.endsIn_of_unknown ⟨rfl, by simpa using unmarked, rfl⟩ unknown

/-- A chain stops at a fault exactly when following the schema meets one. -/
theorem fault?_stop_eq_some_iff {fault : DefinitionFault} :
    schema.stop.fault? property = some fault ↔ schema.Faulty property fault := by
  constructor
  · intro stops
    have ends := schema.endsIn_stop
    generalize schema.stop = stop at stops ends
    cases ends with
    | reference leads refers => cases stops
    | intrinsic type => cases stops
    | arrayWithoutItems leads typed missing =>
      cases stops
      exact .arrayWithoutItems leads typed missing
    | unsupportedType leads typed unknown =>
      cases stops
      exact .unsupportedType leads typed unknown
  · intro faulty
    cases faulty with
    | arrayWithoutItems leads typed missing =>
      rw [leads.stop_eq, typed.stop_of_missing missing]
      rfl
    | unsupportedType leads typed unknown =>
      rw [leads.stop_eq, typed.stop_of_unknown unknown]
      rfl

/-- A chain stops at a reference exactly when following the schema ends at one. -/
theorem stop_eq_reference_iff : schema.stop = .reference name ↔ schema.RefersTo name := by
  constructor
  · intro stops
    have ends := schema.endsIn_stop
    rw [stops] at ends
    cases ends with
    | reference leads refers => exact ⟨_, _, leads, refers, rfl⟩
  · rintro ⟨last, reference, leads, refers, rfl⟩
    rw [leads.stop_eq, stop_of_reference refers]

end PropertySchema

/-! ## What the resolver answers -/

namespace Registry

variable {registry : Registry} {context : Context}

/-- A chain's stop has a fault, or refers to an unknown name when those are refused, or is resolved;
and never two of these. -/
lemma resolveStop_answers (registry : Registry) (context : Context) (stop : ChainStop) :
    (∃ fault, stop.fault? context.property = some fault ∧
      registry.resolveStop context stop
        = (.error (.invalidDefinition context.definition fault), registry)) ∨
    (∃ name, stop = .reference name ∧ registry.isSealed = true ∧ registry.lookup? name = none ∧
      registry.resolveStop context stop
        = (.error (.unresolvableReference context.definition name), registry)) ∨
    (stop.fault? context.property = none ∧
      (∀ name, stop = .reference name → registry.isSealed = true →
        registry.lookup? name ≠ none) ∧
      ∃ handle after, registry.resolveStop context stop = (.ok handle, after)) := by
  cases stop with
  | reference name =>
    rw [resolveStop]
    obtain ⟨handle, found, heq⟩ | ⟨unknown, isSealed, heq⟩ | ⟨-, isOpen, heq⟩ :=
      resolveReference_cases registry context name
    · refine .inr (.inr ⟨rfl, ?_, handle, registry, heq⟩)
      rintro other ⟨⟩ -
      simp [found]
    · exact .inr (.inl ⟨name, rfl, isSealed, unknown, heq⟩)
    · refine .inr (.inr ⟨rfl, ?_, _, _, heq⟩)
      rintro other - isSealed
      rw [isOpen] at isSealed
      cases isSealed
  | intrinsic type => exact .inr (.inr ⟨rfl, fun name same => (by cases same), _, _, rfl⟩)
  | arrayWithoutItems => exact .inl ⟨_, rfl, rfl⟩
  | unsupportedType typeName => exact .inl ⟨_, rfl, rfl⟩

/-- When a resolver answers what. `faulty` says which faults are met, and `refersTo` which name is
referred to. -/
structure ResolvesExactly (before : Registry) (context : Context)
    (faulty : DefinitionFault → Prop) (refersTo : String → Prop) (outcome : Outcome Handle) :
    Prop where
  /-- A definition is invalid exactly when it has a fault. -/
  invalid : ∀ definition fault, outcome.1 = .error (.invalidDefinition definition fault) ↔
    definition = context.definition ∧ faulty fault
  /-- A reference is refused exactly when its name is unknown and unknown names are refused. -/
  unresolvable : ∀ definition name,
    outcome.1 = .error (.unresolvableReference definition name) ↔
      definition = context.definition ∧ refersTo name ∧ before.isSealed = true ∧
        before.lookup? name = none
  /-- In all other cases there is a type. -/
  resolved : (∃ handle, outcome.1 = .ok handle) ↔ (∀ fault, ¬ faulty fault) ∧
    ∀ name, refersTo name → before.isSealed = true → before.lookup? name ≠ none
  /-- A failure leaves every table as it was. -/
  atomic : ∀ error, outcome.1 = .error error → outcome.2 = before
  /-- A success leaves the types that are there as they are, and adds others behind them. -/
  slots : ∀ handle, outcome.1 = .ok handle → before.slots <+: outcome.2.slots
  /-- A success leaves the names that are there as they are. -/
  names : ∀ handle, outcome.1 = .ok handle → ∀ name found,
    before.lookup? name = some found → outcome.2.lookup? name = some found

/-- The faults and the reference may be described in other words. -/
lemma ResolvesExactly.congr {faulty other : DefinitionFault → Prop}
    {refersTo named : String → Prop} {outcome : Outcome Handle}
    (exactly : registry.ResolvesExactly context faulty refersTo outcome)
    (faults : ∀ fault, faulty fault ↔ other fault) (names : ∀ name, refersTo name ↔ named name) :
    registry.ResolvesExactly context other named outcome := by
  obtain rfl : faulty = other := funext fun fault => propext (faults fault)
  obtain rfl : refersTo = named := funext fun name => propext (names name)
  exact exactly

/-- Wrappers around the stop of a chain make no difference to the answer. -/
lemma resolvesExactly_chain (coherent : registry.Coherent) (context : Context)
    (wrappers : List Wrapper) (stop : ChainStop) :
    registry.ResolvesExactly context (fun fault => stop.fault? context.property = some fault)
      (fun name => stop = .reference name)
      (wrapAll wrappers (registry.resolveStop context stop)) := by
  have resolving := (resolving_resolveStop coherent context stop).wrapAll wrappers
  suffices answers : _ ∧ _ ∧ _ from
    ⟨answers.1, answers.2.1, answers.2.2, resolving.atomic, fun _ _ => resolving.growth.slots,
      fun _ _ => resolving.growth.names⟩
  obtain ⟨fault, hfault, heq⟩ | ⟨name, rfl, isSealed, unknown, heq⟩ |
    ⟨noFault, known, inner, between, heq⟩ := resolveStop_answers registry context stop
  · have noReference : ∀ name, stop ≠ .reference name := by
      rintro name rfl
      cases hfault
    rw [heq, wrapAll_error]
    refine ⟨fun definition other => ?_, fun definition name => ?_, ?_⟩
    · simp [hfault, eq_comm]
    · simp [noReference]
    · simp [hfault]
  · rw [heq, wrapAll_error]
    refine ⟨fun definition other => ?_, fun definition target => ?_, ?_⟩
    · simp [ChainStop.fault?]
    · constructor
      · intro refused
        cases refused
        exact ⟨rfl, rfl, isSealed, unknown⟩
      · rintro ⟨rfl, ⟨⟩, -, -⟩
        rfl
    · simp [ChainStop.fault?, isSealed, unknown]
  · obtain ⟨outer, last, hwrap, -, -⟩ := exists_wrapAll_ok wrappers inner between
    rw [heq, hwrap]
    refine ⟨fun definition other => ?_, fun definition target => ?_, ?_⟩
    · simp [noFault]
    · simp only [reduceCtorEq, false_iff]
      rintro ⟨-, refers, isSealed, unknown⟩
      exact known target refers isSealed unknown
    · simpa [noFault] using known

/-- **Refusals.** After every run of calls, a schema is refused exactly when following it meets a
fault, or ends at a reference to an unknown name after sealing, and a name exactly in the latter
case. A refusal changes nothing; a success keeps all types and names. -/
theorem resolvesExactly_run (calls : List Call) (context : Context) :
    (∀ schema : PropertySchema, (run calls).ResolvesExactly context
      (schema.Faulty context.property) schema.RefersTo ((run calls).resolve context schema)) ∧
    ∀ name, (run calls).ResolvesExactly context (fun _ => False) (fun target => target = name)
      ((run calls).resolveReference context name) := by
  have coherent := coherent_run calls
  constructor
  · intro schema
    rw [resolve_eq]
    have exactly := resolvesExactly_chain coherent context schema.wrappers schema.stop
    exact exactly.congr (fun _ => PropertySchema.fault?_stop_eq_some_iff)
      fun _ => PropertySchema.stop_eq_reference_iff
  · intro name
    have exactly := resolvesExactly_chain coherent context [] (.reference name)
    refine exactly.congr (fun fault => ?_) fun target => ?_
    · simp [ChainStop.fault?]
    · rw [ChainStop.reference.injEq]
      exact eq_comm

end Registry

end KubeSchema

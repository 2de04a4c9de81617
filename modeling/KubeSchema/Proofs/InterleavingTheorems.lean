import KubeSchema.Proofs.HandleTheorems
import KubeSchema.Proofs.SealTheorems

/-!
# Binding before or after use

Names are bound to models and schemas are resolved in some order, and then the registry is sealed.
The registry depends on the order: a name may be pending for a while or not at all, and handles are
numbered differently. What comes out does not. Sealing succeeds when the names at which the schemas
stop have types by the assignment (`sealUp_eq_ok_iff_of_interleaves`), resolving fails at faults
only, and in the end a handle has the type that its schema stands for by the assignment
(`tree?_of_answers`). None of these mentions the order, so that any two orders agree.
-/

namespace KubeSchema

/-- A schema stands for the same type by names that agree at its stop. -/
lemma PropertySchema.denote_congr {schema : PropertySchema} {left right : String → Option TypeTree}
    (h : ∀ name, schema.stop = .reference name → left name = right name) :
    schema.denote left = schema.denote right := by
  rw [denote_eq, denote_eq]
  congr 1
  cases hstop : schema.stop with
  | reference name => exact h name hstop
  | intrinsic type => rfl
  | arrayWithoutItems => rfl
  | unsupportedType typeName => rfl

namespace Registry

variable {calls : List Call} {name : String} {handle : Handle} {context : Context}
  {schema : PropertySchema} {outcome : Except CompileError Handle}

/-- The type of a name, where `modelOf?` gives the models of names: a well-known name has its
built-in type whatever its model. -/
def typeBy (modelOf? : String → Option ModelId) (name : String) : Option TypeTree :=
  match wellKnown.lookup name with
  | some type => some (.intrinsic type)
  | none => (modelOf? name).map .model

/-- The call is made in the run and gives the outcome. -/
def Answers (calls : List Call) (context : Context) (schema : PropertySchema)
    (outcome : Except CompileError Handle) : Prop :=
  ∃ before later, calls = before ++ .resolve context schema :: later ∧
    ((run before).resolve context schema).1 = outcome

/-- The run binds each name to its model and resolves the schemas, in any order. -/
def Interleaves (assigned : Table String ModelId) (schemas : List (Context × PropertySchema))
    (calls : List Call) : Prop :=
  calls.Perm (assigned.entries.map (fun entry => .bind entry.1 entry.2) ++
    schemas.map fun entry => .resolve entry.1 entry.2)

/-! ## Runs in which nothing is pending -/

lemma isSealed_run (unsealed : .sealUp ∉ calls) : (run calls).isSealed = false := by
  induction calls using List.reverseRecOn with
  | nil => exact isSealed_initial
  | append_singleton calls call ih =>
    have isOpen := ih fun mem => unsealed (List.mem_append_left _ mem)
    refine (change_run calls call).isOpen isOpen ?_
    rintro rfl
    exact unsealed (List.mem_append_right _ List.mem_cons_self)

/-- While unknown names are allowed, nothing is pending when the names referred to are well-known
or bound. -/
lemma firstPending?_eq_none_iff_of_isOpen (isOpen : (run calls).isSealed = false) :
    (run calls).firstPending? = none ↔ ∀ name definition, (name, definition) ∈ references calls →
      wellKnown.lookup name = none → ∃ id, (bindings calls).lookup name = some id := by
  have remembers := remembers_run calls
  rw [firstPending?_eq_none_iff]
  constructor
  · intro settled name definition mem unknown
    have referred : ((references calls).lookup name).isSome = true :=
      List.lookup_isSome_iff.2 ⟨_, mem, beq_self_eq_true name⟩
    obtain ⟨first, hfirst⟩ := Option.isSome_iff_exists.1 referred
    obtain ⟨handle, found⟩ := remembers.referred isOpen name first hfirst
    obtain ⟨link, hlink, holds⟩ := remembers.link name handle unknown found
    cases link with
    | bound id => exact ⟨id, linkOf?_eq_bound_iff.1 hlink⟩
    | pending other origin => exact absurd holds (settled handle other origin)
  · intro bound handle name definition holds
    have unknown := remembers.coherent.lookup_wellKnown_of_pending holds
    obtain ⟨-, unbound, first⟩ := linkOf?_eq_pending_iff.1 (remembers.linkOf?_of_pending holds)
    obtain ⟨front, rest, hreferences, -⟩ := List.lookup_eq_some_iff.1 first
    have mem : (name, definition) ∈ references calls := by simp [hreferences]
    obtain ⟨id, hid⟩ := bound name definition mem unknown
    rw [unbound] at hid
    cases hid

/-- When nothing is pending, the names that have types have those of their first bindings. -/
lemma tree?_of_lookup?_run (settled : (run calls).firstPending? = none)
    (found : (run calls).lookup? name = some handle) :
    (run calls).tree? handle = typeBy (fun name => (bindings calls).lookup name) name := by
  have remembers := remembers_run calls
  rw [typeBy]
  cases known : wellKnown.lookup name with
  | some type =>
    obtain ⟨other, hother, holds⟩ := remembers.coherent.wellKnown name type known
    rw [found] at hother
    cases hother
    exact tree?_of_intrinsic holds
  | none =>
    obtain ⟨link, hlink, holds⟩ := remembers.link name handle known found
    cases link with
    | bound id =>
      rw [tree?_of_bound holds, linkOf?_eq_bound_iff.1 hlink]
      rfl
    | pending other definition =>
      exact absurd holds (firstPending?_eq_none_iff.1 settled handle other definition)

/-! ## What an interleaving gives -/

namespace Interleaves

variable {assigned : Table String ModelId} {schemas : List (Context × PropertySchema)}

lemma unsealed (interleaves : Interleaves assigned schemas calls) : .sealUp ∉ calls := by
  intro mem
  rw [interleaves.mem_iff] at mem
  simp at mem

/-- The names are bound to their models. -/
lemma lookup_bindings (interleaves : Interleaves assigned schemas calls) (name : String) :
    (bindings calls).lookup name = assigned.lookup? name := by
  refine Table.lookup_of_perm assigned ?_
  have hbind : (assigned.entries.map fun entry => Call.bind entry.1 entry.2).filterMap
      Call.binding? = assigned.entries := by
    rw [List.filterMap_map]
    exact List.filterMap_some
  have hresolve : (schemas.map fun entry => Call.resolve entry.1 entry.2).filterMap
      Call.binding? = [] := by
    rw [List.filterMap_map]
    exact List.filterMap_none _
  have perm := interleaves.filterMap Call.binding?
  rwa [List.filterMap_append, hbind, hresolve, List.append_nil] at perm

/-- The names referred to are those at which the schemas stop. -/
lemma mem_references_iff (interleaves : Interleaves assigned schemas calls) {definition : String} :
    (name, definition) ∈ references calls ↔ ∃ entry ∈ schemas,
      entry.2.stop = .reference name ∧ entry.1.definition = definition := by
  have hcalls : ∀ call, call ∈ calls ↔ (∃ entry ∈ assigned.entries, .bind entry.1 entry.2 = call) ∨
      ∃ entry ∈ schemas, .resolve entry.1 entry.2 = call := by
    intro call
    rw [interleaves.mem_iff, List.mem_append, List.mem_map, List.mem_map]
  rw [references, List.mem_filterMap]
  constructor
  · rintro ⟨call, mem, refers⟩
    rcases (hcalls call).1 mem with ⟨entry, -, rfl⟩ | ⟨entry, hentry, rfl⟩
    · cases refers
    · obtain ⟨other, hother, same⟩ := Option.map_eq_some_iff.1 refers
      cases same
      exact ⟨entry, hentry, ChainStop.name?_eq_some_iff.1 hother, rfl⟩
  · rintro ⟨entry, hentry, hstop, rfl⟩
    refine ⟨_, (hcalls _).2 (.inr ⟨entry, hentry, rfl⟩), ?_⟩
    rw [Call.reference?, hstop]
    rfl

end Interleaves

variable {assigned : Table String ModelId} {schemas : List (Context × PropertySchema)}

lemma typeBy_eq_none_iff {modelOf? : String → Option ModelId} :
    typeBy modelOf? name = none ↔ wellKnown.lookup name = none ∧ modelOf? name = none := by
  rw [typeBy]
  cases wellKnown.lookup name <;> simp

/-- Sealing succeeds when the names at which the schemas stop have types by the assignment. -/
theorem sealUp_eq_ok_iff_of_interleaves (interleaves : Interleaves assigned schemas calls) :
    (run calls).sealUp.1 = .ok () ↔ ∀ entry ∈ schemas, ∀ name, entry.2.stop = .reference name →
      typeBy assigned.lookup? name ≠ none := by
  rw [sealUp_eq_ok_iff, firstPending?_eq_none_iff_of_isOpen (isSealed_run interleaves.unsealed)]
  simp only [interleaves.mem_references_iff, interleaves.lookup_bindings, Ne, typeBy_eq_none_iff]
  constructor
  · intro bound entry hentry name hstop ⟨unknown, unassigned⟩
    obtain ⟨id, hid⟩ := bound name _ ⟨entry, hentry, hstop, rfl⟩ unknown
    rw [unassigned] at hid
    cases hid
  · rintro typed name definition ⟨entry, hentry, hstop, -⟩ unknown
    exact Option.ne_none_iff_exists'.1 fun unassigned =>
      typed entry hentry name hstop ⟨unknown, unassigned⟩

/-- Resolving fails at faults only. -/
theorem exists_ok_iff_of_answers (interleaves : Interleaves assigned schemas calls)
    (answers : Answers calls context schema outcome) :
    (∃ handle, outcome = .ok handle) ↔ schema.stop.fault? context.property = none := by
  obtain ⟨before, later, rfl, rfl⟩ := answers
  have unsealed : .sealUp ∉ before := fun mem =>
    interleaves.unsealed (List.mem_append_left _ mem)
  exact exists_resolve_ok_iff (isSealed_run unsealed)

/-- In the end a handle has the type that its schema stands for by the assignment. -/
theorem tree?_of_answers (interleaves : Interleaves assigned schemas calls)
    (ok : (run calls).sealUp.1 = .ok ()) (answers : Answers calls context schema (.ok handle)) :
    ∃ tree, schema.denote (typeBy assigned.lookup?) = some tree ∧
      (run (calls ++ [.sealUp])).tree? handle = some tree := by
  have coherent := coherent_run (calls ++ [.sealUp])
  have represents : (run (calls ++ [.sealUp])).Represents schema handle := by
    obtain ⟨before, later, rfl, resolved⟩ := answers
    have start : (run (before ++ [.resolve context schema])).Represents schema handle := by
      rw [run_concat]
      exact represents_resolve (coherent_run before) resolved
    have lasting := start.kept (keeps_run _ (later ++ [.sealUp]))
    rwa [← List.append_assoc, ← List.append_cons] at lasting
  -- the names that have types in the end have those of the assignment
  have named : ∀ name found, (run (calls ++ [.sealUp])).lookup? name = some found →
      (run (calls ++ [.sealUp])).tree? found = typeBy assigned.lookup? name := by
    intro name found hfound
    have hbindings : (fun name => (bindings (calls ++ [.sealUp])).lookup name)
        = assigned.lookup? := by
      funext name
      rw [lookup_bindings_concat, interleaves.lookup_bindings]
      exact Option.or_none
    rw [tree?_of_lookup?_run (isSealed_of_sealUp ok).2 hfound, hbindings]
  have same : (run (calls ++ [.sealUp])).tree? handle
      = schema.denote (typeBy assigned.lookup?) := by
    rw [represents.tree?_eq_denote coherent]
    refine PropertySchema.denote_congr fun name hstop => ?_
    obtain ⟨inner, -, found⟩ := represents
    rw [hstop] at found
    have hfound : (run (calls ++ [.sealUp])).lookup? name = some inner := found
    rw [typeOf?, hfound]
    exact named name inner hfound
  obtain ⟨tree, htree⟩ := tree?_isSome coherent (represents.lt_size coherent)
  exact ⟨tree, same.symm.trans htree, htree⟩

/-- **Binding before or after use.** Whatever the order in which names are bound and schemas are
resolved, sealing succeeds or not, each schema is resolved or not, and after sealing the handles of
each schema have the same type, the one that the schema stands for by the models of the names. -/
theorem interleavings_agree {first second : List Call}
    (hfirst : Interleaves assigned schemas first) (hsecond : Interleaves assigned schemas second) :
    ((run first).sealUp.1 = .ok () ↔ (run second).sealUp.1 = .ok ()) ∧
    ∀ context schema left right, Answers first context schema left →
      Answers second context schema right →
      ((∃ handle, left = .ok handle) ↔ ∃ handle, right = .ok handle) ∧
      ((run first).sealUp.1 = .ok () → ∀ handle other, left = .ok handle → right = .ok other →
        ∃ tree, schema.denote (typeBy assigned.lookup?) = some tree ∧
          (run (first ++ [.sealUp])).tree? handle = some tree ∧
          (run (second ++ [.sealUp])).tree? other = some tree) := by
  have sealing : (run first).sealUp.1 = .ok () ↔ (run second).sealUp.1 = .ok () := by
    rw [sealUp_eq_ok_iff_of_interleaves hfirst, sealUp_eq_ok_iff_of_interleaves hsecond]
  refine ⟨sealing, fun context schema left right hleft hright => ⟨?_, ?_⟩⟩
  · rw [exists_ok_iff_of_answers hfirst hleft, exists_ok_iff_of_answers hsecond hright]
  · rintro ok handle other rfl rfl
    obtain ⟨tree, hdenote, htree⟩ := tree?_of_answers hfirst ok hleft
    obtain ⟨same, hsame, hother⟩ := tree?_of_answers hsecond (sealing.1 ok) hright
    rw [hdenote] at hsame
    cases hsame
    exact ⟨tree, hdenote, htree, hother⟩

/-- Two names with their models. -/
def sampleModels : Table String ModelId := ⟨[("a.Later", ⟨7⟩), ("b.Other", ⟨3⟩)], by decide +kernel⟩

/-- An array of references to one of the names. -/
def sampleSchema : PropertySchema where
  typeName := some "array"
  items := some { reference := some "#/definitions/a.Later" }

def sampleContext : Context := ⟨"c.User", "list"⟩

/-- The names are bound before the schema is resolved. -/
def bindFirst : List Call :=
  [.bind "a.Later" ⟨7⟩, .bind "b.Other" ⟨3⟩, .resolve sampleContext sampleSchema]

/-- The schema is resolved before the names are bound. -/
def resolveFirst : List Call :=
  [.resolve sampleContext sampleSchema, .bind "b.Other" ⟨3⟩, .bind "a.Later" ⟨7⟩]

/-- Here the two runs give different handles, of arrays of the same model. -/
theorem interleavings_agree_of_sample :
    Interleaves sampleModels [(sampleContext, sampleSchema)] bindFirst ∧
    Interleaves sampleModels [(sampleContext, sampleSchema)] resolveFirst ∧
    Answers bindFirst sampleContext sampleSchema (.ok ⟨6⟩) ∧
    Answers resolveFirst sampleContext sampleSchema (.ok ⟨5⟩) ∧
    (run (bindFirst ++ [.sealUp])).tree? ⟨6⟩ = (run (resolveFirst ++ [.sealUp])).tree? ⟨5⟩ := by
  have hfirst : Interleaves sampleModels [(sampleContext, sampleSchema)] bindFirst := .refl _
  have hsecond : Interleaves sampleModels [(sampleContext, sampleSchema)] resolveFirst :=
    List.reverse_perm bindFirst
  have outcomes :
      ((run [.bind "a.Later" ⟨7⟩, .bind "b.Other" ⟨3⟩]).resolve sampleContext sampleSchema).1
        = .ok ⟨6⟩ ∧
      (initial.resolve sampleContext sampleSchema).1 = .ok ⟨5⟩ ∧
      (run bindFirst).firstPending? = none := by
    decide +kernel
  have left : Answers bindFirst sampleContext sampleSchema (.ok ⟨6⟩) :=
    ⟨[.bind "a.Later" ⟨7⟩, .bind "b.Other" ⟨3⟩], [], rfl, outcomes.1⟩
  have right : Answers resolveFirst sampleContext sampleSchema (.ok ⟨5⟩) :=
    ⟨[], [.bind "b.Other" ⟨3⟩, .bind "a.Later" ⟨7⟩], rfl, outcomes.2.1⟩
  have ok : (run bindFirst).sealUp.1 = .ok () := sealUp_eq_ok_iff.2 outcomes.2.2
  obtain ⟨-, types⟩ := (interleavings_agree hfirst hsecond).2 _ _ _ _ left right
  obtain ⟨tree, -, hleft, hright⟩ := types ok _ _ rfl rfl
  exact ⟨hfirst, hsecond, left, right, hleft.trans hright.symm⟩

end Registry

end KubeSchema

import KubeSchema.Proofs.RunTheorems

/-!
# Handles keep their meaning

What a name leads to can be told from the list of calls alone: a well-known name to its built-in
type, any other name to the model that the first binding gives it, and before that to a reference
that is pending for the first definition that refers to it (`linkOf?`, `remembers_run`). From this
and from what single calls keep follows `Stable`: in every run a handle is given out once and for
all, and a slot changes at most once, when its pending name is bound.
-/

namespace KubeSchema.Registry

variable {calls : List Call} {call : Call} {registry : Registry} {name : String}

/-! ## What a run says about a name -/

/-- The model that a run first binds a name to, or else the definition that first refers to it. -/
def linkOf? (calls : List Call) (name : String) : Option ModelLink :=
  (((bindings calls).lookup name).map .bound).or
    (((references calls).lookup name).map (.pending name))

/-- The first call that says something of a name counts. -/
lemma lookup_filterMap_concat {β : Type} (part : Call → Option (String × β)) (calls : List Call)
    (call : Call) (name : String) :
    ((calls ++ [call]).filterMap part).lookup name
      = ((calls.filterMap part).lookup name).or ((part call).toList.lookup name) := by
  rw [List.filterMap_append, List.lookup_append]
  cases h : part call <;> simp [h]

lemma lookup_filterMap_concat_eq_some_iff {β : Type} {part : Call → Option (String × β)}
    {value : β} :
    ((calls ++ [call]).filterMap part).lookup name = some value ↔
      (calls.filterMap part).lookup name = some value ∨
        (calls.filterMap part).lookup name = none ∧ part call = some (name, value) := by
  rw [lookup_filterMap_concat, Option.or_eq_some_iff]
  refine or_congr_right (and_congr_right fun _ => ?_)
  cases part call with
  | none => simp
  | some entry =>
    rw [Option.toList_some, lookup_cons_eq_some_iff, Option.some.injEq, Prod.ext_iff]
    simp [eq_comm]

lemma lookup_bindings_concat (calls : List Call) (call : Call) (name : String) :
    (bindings (calls ++ [call])).lookup name
      = ((bindings calls).lookup name).or (call.binding?.toList.lookup name) :=
  lookup_filterMap_concat Call.binding? calls call name

/-- A name is bound for the first time only if no earlier call binds it. -/
lemma lookup_bindings_concat_eq_some_iff {id : ModelId} :
    (bindings (calls ++ [call])).lookup name = some id ↔ (bindings calls).lookup name = some id ∨
      (bindings calls).lookup name = none ∧ call = .bind name id := by
  rw [bindings, bindings, lookup_filterMap_concat_eq_some_iff]
  cases call <;> simp [Call.binding?]

/-- A name is referred to for the first time only if no earlier call refers to it. -/
lemma lookup_references_concat_eq_some_iff {definition : String} :
    (references (calls ++ [call])).lookup name = some definition ↔
      (references calls).lookup name = some definition ∨
        (references calls).lookup name = none ∧ call.reference? = some (name, definition) :=
  lookup_filterMap_concat_eq_some_iff

lemma linkOf?_eq_bound_iff {id : ModelId} :
    linkOf? calls name = some (.bound id) ↔ (bindings calls).lookup name = some id := by
  rw [linkOf?]
  cases (bindings calls).lookup name <;> simp

lemma linkOf?_eq_pending_iff {other definition : String} :
    linkOf? calls name = some (.pending other definition) ↔ name = other ∧
      (bindings calls).lookup name = none ∧ (references calls).lookup name = some definition := by
  rw [linkOf?]
  cases (bindings calls).lookup name with
  | some id => simp
  | none => cases (references calls).lookup name <;> simp

/-- A link stays as it is, unless it is pending and the call binds the name. -/
lemma linkOf?_concat {link : ModelLink} (h : linkOf? calls name = some link)
    (unfilled : ∀ id, call = .bind name id → ∃ model, link = .bound model) :
    linkOf? (calls ++ [call]) name = some link := by
  cases link with
  | bound id =>
    have first := linkOf?_eq_bound_iff.1 h
    exact linkOf?_eq_bound_iff.2 (lookup_bindings_concat_eq_some_iff.2 (.inl first))
  | pending other definition =>
    obtain ⟨rfl, unbound, first⟩ := linkOf?_eq_pending_iff.1 h
    have stillUnbound : (bindings (calls ++ [call])).lookup name = none := by
      refine Option.eq_none_iff_forall_ne_some.2 fun id hid => ?_
      rcases lookup_bindings_concat_eq_some_iff.1 hid with old | ⟨-, binds⟩
      · rw [unbound] at old
        cases old
      · obtain ⟨model, same⟩ := unfilled id binds
        cases same
    exact linkOf?_eq_pending_iff.2
      ⟨rfl, stillUnbound, lookup_references_concat_eq_some_iff.2 (.inl first)⟩

/-! ## The registry remembers what the run says -/

/-- A registry in which names have the types that a run says. -/
structure Remembers (calls : List Call) (registry : Registry) : Prop where
  coherent : registry.Coherent
  bound : ∀ name id, (bindings calls).lookup name = some id →
    ∃ handle, registry.lookup? name = some handle
  referred : registry.isSealed = false → ∀ name definition,
    (references calls).lookup name = some definition →
      ∃ handle, registry.lookup? name = some handle
  link : ∀ name handle, wellKnown.lookup name = none → registry.lookup? name = some handle →
    ∃ link, linkOf? calls name = some link ∧ registry.descriptor? handle = some (.model link)

lemma remembers_initial : Remembers [] initial where
  coherent := coherent_initial
  bound _ _ h := by cases h
  referred _ _ _ h := by cases h
  link name handle unknown found := by
    obtain ⟨type, known, -⟩ := lookup?_initial_eq_some_iff.1 found
    rw [unknown] at known
    cases known

namespace Remembers

variable {after : Registry} {handle : Handle}

/-- A name without a type has not been bound. -/
lemma unbound (remembers : Remembers calls registry) (unknown : registry.lookup? name = none) :
    (bindings calls).lookup name = none := by
  refine Option.eq_none_iff_forall_ne_some.2 fun id h => ?_
  obtain ⟨handle, found⟩ := remembers.bound name id h
  rw [unknown] at found
  cases found

/-- A name without a type has not been referred to, unless unknown names are refused. -/
lemma unreferred (remembers : Remembers calls registry) (isOpen : registry.isSealed = false)
    (unknown : registry.lookup? name = none) : (references calls).lookup name = none := by
  refine Option.eq_none_iff_forall_ne_some.2 fun definition h => ?_
  obtain ⟨handle, found⟩ := remembers.referred isOpen name definition h
  rw [unknown] at found
  cases found

/-- A pending name has been referred to, first by the definition that its slot holds, and not been
bound. -/
lemma linkOf?_of_pending (remembers : Remembers calls registry) {definition : String}
    (holds : registry.descriptor? handle = some (.model (.pending name definition))) :
    linkOf? calls name = some (.pending name definition) := by
  have found := remembers.coherent.pending handle name definition holds
  have unknown := remembers.coherent.lookup_wellKnown_of_pending holds
  obtain ⟨link, hlink, hholds⟩ := remembers.link name handle unknown found
  rw [holds] at hholds
  cases hholds
  exact hlink

/-- What a call does to a name that has a type. -/
lemma link_old (remembers : Remembers calls registry) (change : registry.Change call after)
    (unknown : wellKnown.lookup name = none) (old : registry.lookup? name = some handle) :
    ∃ link, linkOf? (calls ++ [call]) name = some link ∧
      after.descriptor? handle = some (.model link) := by
  obtain ⟨link, hlink, holds⟩ := remembers.link name handle unknown old
  rcases change.slots _ _ holds with kept | ⟨other, definition, id, same, binds, filled⟩
  · -- a name that the call binds is not pending afterwards, so its link was bound before
    refine ⟨link, linkOf?_concat hlink fun id binds => ?_, kept⟩
    subst binds
    have settled := change.pending?_eq_none (change.names _ _ old) kept
    cases link with
    | bound model => exact ⟨model, rfl⟩
    | pending other definition => cases settled
  · cases same
    obtain ⟨rfl, unbound, -⟩ := linkOf?_eq_pending_iff.1 hlink
    exact ⟨_, linkOf?_eq_bound_iff.2
      (lookup_bindings_concat_eq_some_iff.2 (.inr ⟨unbound, binds⟩)), filled⟩

/-- What a call does to a name that is new. -/
lemma link_new (remembers : Remembers calls registry) (change : registry.Change call after)
    (unknown : registry.lookup? name = none) (found : after.lookup? name = some handle) :
    ∃ link, linkOf? (calls ++ [call]) name = some link ∧
      after.descriptor? handle = some (.model link) := by
  have unbound := remembers.unbound unknown
  rcases change.named name handle found with old | ⟨-, ⟨definition, refers, isOpen, holds⟩ |
    ⟨id, binds, holds⟩⟩
  · rw [unknown] at old
    cases old
  · have first := lookup_references_concat_eq_some_iff.2
      (.inr ⟨remembers.unreferred isOpen unknown, refers⟩)
    have stillUnbound : (bindings (calls ++ [call])).lookup name = none := by
      rw [lookup_bindings_concat, unbound, Option.none_or]
      cases call <;> first | rfl | cases refers
    exact ⟨_, linkOf?_eq_pending_iff.2 ⟨rfl, stillUnbound, first⟩, holds⟩
  · exact ⟨_, linkOf?_eq_bound_iff.2
      (lookup_bindings_concat_eq_some_iff.2 (.inr ⟨unbound, binds⟩)), holds⟩

/-- A registry goes on to remember. -/
lemma change (remembers : Remembers calls registry) (change : registry.Change call after) :
    Remembers (calls ++ [call]) after where
  coherent := change.coherent
  bound name id h := by
    rcases lookup_bindings_concat_eq_some_iff.1 h with old | ⟨-, binds⟩
    · obtain ⟨handle, found⟩ := remembers.bound name id old
      exact ⟨handle, change.names _ _ found⟩
    · obtain ⟨handle, -, found, -⟩ := change.binds name id binds
      exact ⟨handle, found⟩
  referred isOpen name definition h := by
    have wasOpen : registry.isSealed = false := by
      by_contra isSealed
      rw [change.isSealed (by simpa using isSealed)] at isOpen
      cases isOpen
    rcases lookup_references_concat_eq_some_iff.1 h with old | ⟨-, refers⟩
    · obtain ⟨handle, found⟩ := remembers.referred wasOpen name definition old
      exact ⟨handle, change.names _ _ found⟩
    · exact change.refers name definition refers wasOpen
  link name handle unknown found := by
    cases old : registry.lookup? name with
    | none => exact remembers.link_new change old found
    | some other =>
      have same := change.names name other old
      rw [found] at same
      cases same
      exact remembers.link_old change unknown old

end Remembers

/-- In every run, names have the types that the calls say. -/
theorem remembers_run (calls : List Call) : Remembers calls (run calls) := by
  induction calls using List.reverseRecOn with
  | nil => exact remembers_initial
  | append_singleton calls call ih => exact ih.change (change_run calls call)

/-! ## Stability -/

/-- What stays as it is in the registry after a run. -/
structure Stable (calls : List Call) : Prop where
  /-- A name keeps its handle, whatever is called later. -/
  names : ∀ later name handle, (run calls).lookup? name = some handle →
    (run (calls ++ later)).lookup? name = some handle
  /-- A call changes a slot only from a pending name to a model, and only by binding that name. -/
  slots : ∀ call handle descriptor, (run calls).descriptor? handle = some descriptor →
    (run (calls ++ [call])).descriptor? handle = some descriptor ∨
      ∃ name definition id, descriptor = .model (.pending name definition) ∧
        call = .bind name id ∧
        (run (calls ++ [call])).descriptor? handle = some (.model (.bound id))
  /-- The first binding of a name counts. -/
  firstBinding : ∀ name id, wellKnown.lookup name = none → (bindings calls).lookup name = some id →
    ∃ handle, (run calls).lookup? name = some handle ∧
      (run calls).descriptor? handle = some (.model (.bound id))
  /-- A built-in type has at most one slot. -/
  intrinsic : ∀ type first second, (run calls).descriptor? first = some (.intrinsic type) →
    (run calls).descriptor? second = some (.intrinsic type) → first = second
  /-- A pending slot is the slot of its name, and remembers who referred to the name first. -/
  pending : ∀ handle name definition,
    (run calls).descriptor? handle = some (.model (.pending name definition)) →
      (run calls).lookup? name = some handle ∧ (references calls).lookup name = some definition
  /-- A name has at most one pending slot. -/
  pendingOnce : ∀ first second name left right,
    (run calls).descriptor? first = some (.model (.pending name left)) →
      (run calls).descriptor? second = some (.model (.pending name right)) → first = second
  /-- A well-known name has the handle that it has from the beginning, of its built-in type. -/
  wellKnown : ∀ name type, Registry.wellKnown.lookup name = some type →
    ∃ handle, initial.lookup? name = some handle ∧ (run calls).lookup? name = some handle ∧
      (run calls).descriptor? handle = some (.intrinsic type)

/-- **Stability.** In every run, whatever is called and in whatever order, handles and slots stay as
they are, but for pending slots that are filled by binding their names. -/
theorem stable_run (calls : List Call) : Stable calls := by
  have remembers := remembers_run calls
  have coherent := remembers.coherent
  refine ⟨fun later => (keeps_run calls later).names,
    fun call => (change_run calls call).slots, fun name id unknown first => ?_,
    fun type first second hfirst hsecond => ?_, fun handle name definition holds => ?_,
    fun first second name left right hfirst hsecond => ?_, fun name type known => ?_⟩
  · obtain ⟨handle, found⟩ := remembers.bound name id first
    obtain ⟨link, hlink, holds⟩ := remembers.link name handle unknown found
    rw [linkOf?_eq_bound_iff.2 first] at hlink
    cases hlink
    exact ⟨handle, found, holds⟩
  · have found := (coherent.intrinsic type first).2 hfirst
    rw [(coherent.intrinsic type second).2 hsecond] at found
    cases found
    rfl
  · have pending := linkOf?_eq_pending_iff.1 (remembers.linkOf?_of_pending holds)
    exact ⟨coherent.pending handle name definition holds, pending.2.2⟩
  · have found := coherent.pending _ _ _ hfirst
    rw [coherent.pending _ _ _ hsecond] at found
    cases found
    rfl
  · obtain ⟨handle, found, holds⟩ := coherent_initial.wellKnown name type known
    have keeps : initial.Keeps (run calls) := keeps_run [] calls
    exact ⟨handle, found, keeps.names _ _ found, keeps.settled _ _ holds rfl⟩

end KubeSchema.Registry

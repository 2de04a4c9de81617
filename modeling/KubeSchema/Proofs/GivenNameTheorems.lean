import KubeSchema.Proofs.GraphTheorems

/-!
# Giving names in order

A model gets the first of three names that no model before it holds. `Given` says this of a list of
definitions without the table of claimed names: every definition has a fixed list of choices, and the
names held are those given so far. Main statement: the first loop of the first pass gives exactly
these names, and it fails exactly where a definition finds all its choices held
(`foldlM_visit_eq_error_iff`).
-/

namespace KubeSchema

/-- The names that a model may have, in order of preference: kind and version, then the first label
of the group between them, then all its labels. -/
def Identity.choices (identity : Identity) : List String :=
  [identity.kind ++ identity.qualifier,
    identity.kind ++ Naming.groupQualifier identity.group ++ identity.qualifier,
    identity.kind ++ Naming.fullGroupQualifier identity.group ++ identity.qualifier]

namespace Resolution

variable {definitions : Table String Definition} {options : Options}

/-! ## The first free choice -/

/-- The first of some choices that is not held. -/
def firstFree? (held choices : List String) : Option String :=
  choices.find? fun choice => !held.contains choice

lemma firstFree?_eq_none_iff {held choices : List String} :
    firstFree? held choices = none ↔ ∀ choice ∈ choices, choice ∈ held := by
  simp [firstFree?]

/-- A choice that is repeated makes no difference. -/
lemma firstFree?_choices (held : List String) (identity : Identity) :
    firstFree? held identity.choices
      = firstFree? held (identity.plainName :: identity.qualifiedNames) := by
  have repeated : ∀ plain short : String,
      firstFree? held [plain, short, short] = firstFree? held [plain, short] := by
    intro plain short
    by_cases mem : short ∈ held
    · simp [firstFree?, List.find?_cons, mem]
    · simp [firstFree?, List.find?_cons, mem]
  rw [Identity.choices, Identity.plainName, Identity.qualifiedNames]
  by_cases same : Naming.fullGroupQualifier identity.group = Naming.groupQualifier identity.group
  · rw [if_pos same, same]
    exact repeated _ _
  · rw [if_neg same]

lemma getLast?_choices (identity : Identity) :
    identity.choices.getLast? = (identity.plainName :: identity.qualifiedNames).getLast? := by
  rw [Identity.choices, Identity.plainName, Identity.qualifiedNames]
  by_cases same : Naming.fullGroupQualifier identity.group = Naming.groupQualifier identity.group
  · rw [if_pos same, same]
    rfl
  · rw [if_neg same]

section Claimed

variable {claimed : ClaimedNames} {held : List String} {name chosen last holder : String}
  {rest : List String}

/-- The name chosen is the first one that is not held. -/
lemma firstFree_eq_ok_iff (names : ∀ name, claimed.contains name = held.contains name) :
    claimed.firstFree name rest = .ok chosen ↔ firstFree? held (name :: rest) = some chosen := by
  induction rest generalizing name with
  | nil =>
    have same := names name
    rw [ClaimedNames.firstFree, firstFree?, List.find?_cons, ← same, Table.contains]
    cases claimed.lookup? name <;> simp
  | cons next rest ih =>
    have same := names name
    rw [ClaimedNames.firstFree, firstFree?, List.find?_cons, ← same, Table.contains]
    cases claimed.lookup? name with
    | none => simp
    | some holder => exact ih

/-- No name can be chosen if all of them are held; the last one is reported with its holder. -/
lemma firstFree_eq_error_iff (names : ∀ name, claimed.contains name = held.contains name) :
    claimed.firstFree name rest = .error (last, holder) ↔
      firstFree? held (name :: rest) = none ∧ (name :: rest).getLast? = some last ∧
        claimed.lookup? last = some holder := by
  induction rest generalizing name with
  | nil =>
    have same := names name
    rw [ClaimedNames.firstFree, firstFree?, List.find?_cons, ← same, Table.contains]
    cases found : claimed.lookup? name with
    | none => simp
    | some other =>
      simp only [Except.error.injEq, Prod.mk.injEq, Option.isSome_some, Bool.not_true,
        List.find?_nil, List.getLast?_singleton, Option.some.injEq, true_and]
      constructor
      · rintro ⟨rfl, rfl⟩
        exact ⟨rfl, found⟩
      · rintro ⟨rfl, again⟩
        exact ⟨rfl, Option.some.inj (found.symm.trans again)⟩
  | cons next rest ih =>
    have same := names name
    rw [ClaimedNames.firstFree, firstFree?, List.find?_cons, ← same, Table.contains]
    cases claimed.lookup? name with
    | none => simp
    | some other =>
      rw [List.getLast?_cons_cons]
      exact ih

end Claimed

/-! ## Names of a list of definitions -/

/-- Names given to definitions one after the other, while some are held already: each definition gets
the first of its choices that is free, and holds it from then on. -/
inductive Given : List String → List (String × Definition) → List (String × String) → Prop
  | nil {held : List String} : Given held [] []
  | cons {held : List String} {name chosen : String} {definition : Definition}
    {rest : List (String × Definition)} {given : List (String × String)}
    (first : firstFree? held (Identity.ofDefinition name definition).choices = some chosen)
    (later : Given (held ++ [chosen]) rest given) :
    Given held ((name, definition) :: rest) ((name, chosen) :: given)

/-- Names are held by the definitions that they are given to. -/
lemma Given.holders {held : List String} {entries : List (String × Definition)}
    {given : List (String × String)} (h : Given held entries given) :
    given.map Prod.fst = entries.map Prod.fst := by
  induction h with
  | nil => rfl
  | cons _ _ ih => rw [List.map_cons, List.map_cons, ih]

/-- A definition finds all its choices held by earlier ones. The last choice is reported, and the
definition that holds it. -/
def Exhausted (entries : List (String × Definition)) (generatedName first second : String) : Prop :=
  ∃ earlier definition later given, entries = earlier ++ (second, definition) :: later ∧
    Given [] earlier given ∧
    (∀ choice ∈ (Identity.ofDefinition second definition).choices, choice ∈ given.map Prod.snd) ∧
    (Identity.ofDefinition second definition).choices.getLast? = some generatedName ∧
    (first, generatedName) ∈ given

/-- The definition that holds the last choice comes before the one that finds it held. -/
lemma Exhausted.lt {generatedName first second : String}
    (h : Exhausted (keptModels options definitions.entries) generatedName first second) :
    compare first second = .lt := by
  obtain ⟨earlier, definition, later, given, split, hgiven, -, -, mem⟩ := h
  have listed : first ∈ earlier.map Prod.fst := by
    rw [← hgiven.holders]
    exact List.mem_map_of_mem mem
  obtain ⟨entry, hentry, rfl⟩ := List.mem_map.1 listed
  have sorted : (keptModels options definitions.entries).Pairwise
      fun a b => compare a.1 b.1 = .lt := definitions.sorted.filter _
  rw [split, List.pairwise_append] at sorted
  exact sorted.2.2 entry hentry (second, definition) List.mem_cons_self

/-! ## The first loop -/

/-- The generated names of a graph, each with the definition that holds it. -/
def givenNames (graph : Graph) : List (String × String) :=
  graph.models.map fun model => (model.definitionName, model.generatedName)

lemma givenNames_insert (graph : Graph) (model : Model) :
    givenNames (graph.insert model)
      = givenNames graph ++ [(model.definitionName, model.generatedName)] :=
  List.map_append

/-- The names that the next definition finds held. -/
def Progress.held (progress : Progress) : List String :=
  (givenNames progress.graph).map Prod.snd

lemma Distinct.lookup?_claimed_eq_some_iff {progress : Progress} (distinct : Distinct progress)
    {name holder : String} :
    progress.claimed.lookup? name = some holder ↔ (holder, name) ∈ givenNames progress.graph := by
  rw [distinct.holders, givenNames, List.mem_map]
  constructor
  · rintro ⟨model, mem, rfl, rfl⟩
    exact ⟨model, mem, rfl⟩
  · rintro ⟨model, mem, same⟩
    cases same
    exact ⟨model, mem, rfl, rfl⟩

/-- The claimed names are the names held. -/
lemma Distinct.contains_claimed {progress : Progress} (distinct : Distinct progress)
    (name : String) : progress.claimed.contains name = progress.held.contains name := by
  rw [Bool.eq_iff_iff, Table.contains, Option.isSome_iff_exists, List.contains_iff_mem,
    Progress.held, List.mem_map]
  constructor
  · rintro ⟨holder, found⟩
    exact ⟨(holder, name), distinct.lookup?_claimed_eq_some_iff.1 found, rfl⟩
  · rintro ⟨⟨holder, _⟩, mem, rfl⟩
    exact ⟨holder, distinct.lookup?_claimed_eq_some_iff.2 mem⟩

section Visit

variable {progress : Progress} {name : String} {definition : Definition}

/-- A definition that becomes a model gets the first of its choices that is free, or finds all of
them held. -/
lemma visit_of_kept (distinct : Distinct progress) (visible : options.isIgnored name = false)
    (plain : definition.aliasTarget? = none) :
    (∃ chosen after,
      firstFree? progress.held (Identity.ofDefinition name definition).choices = some chosen ∧
      visit options progress (name, definition) = .ok after ∧ Distinct after ∧
      givenNames after.graph = givenNames progress.graph ++ [(name, chosen)]) ∨
    (firstFree? progress.held (Identity.ofDefinition name definition).choices = none ∧
      ∃ last holder, (Identity.ofDefinition name definition).choices.getLast? = some last ∧
        (holder, last) ∈ givenNames progress.graph ∧
        visit options progress (name, definition)
          = .error (.duplicateGeneratedName last holder name)) := by
  have unfolded : visit options progress (name, definition)
      = addModel progress name definition := by
    simp [visit, visible, plain]
  rw [unfolded, firstFree?_choices, getLast?_choices]
  cases heq : progress.claimed.firstFree (Identity.ofDefinition name definition).plainName
      (Identity.ofDefinition name definition).qualifiedNames with
  | ok chosen =>
    have added : addModel progress name definition = .ok { progress with
        graph := progress.graph.insert (shell name definition chosen)
        claimed := progress.claimed.insert chosen name } := by
      rw [addModel]
      simp only [heq]
    have first := (firstFree_eq_ok_iff distinct.contains_claimed).1 heq
    exact .inl ⟨chosen, _, first, added, distinct.addModel added, givenNames_insert _ _⟩
  | error reported =>
    obtain ⟨last, holder⟩ := reported
    obtain ⟨none, hlast, found⟩ := (firstFree_eq_error_iff distinct.contains_claimed).1 heq
    have listed := distinct.lookup?_claimed_eq_some_iff.1 found
    refine .inr ⟨none, last, holder, hlast, listed, ?_⟩
    rw [addModel]
    simp only [heq]

/-- A definition that does not become a model gets no name. -/
lemma visit_of_not_kept (distinct : Distinct progress)
    (skipped : ¬ (options.isIgnored name = false ∧ definition.aliasTarget? = none)) :
    ∃ after, visit options progress (name, definition) = .ok after ∧ Distinct after ∧
      givenNames after.graph = givenNames progress.graph := by
  by_cases ignored : options.isIgnored name = true
  · exact ⟨progress, by simp [visit, ignored], distinct, rfl⟩
  · have visible : options.isIgnored name = false := by simpa using ignored
    have isAlias : definition.aliasTarget?.isSome = true := by
      rw [Option.isSome_iff_ne_none]
      intro plain
      exact skipped ⟨visible, plain⟩
    refine ⟨{ progress with aliases := progress.aliases ++ [name] }, ?_,
      ⟨distinct.holders, distinct.nodup⟩, rfl⟩
    simp [visit, visible, isAlias]

end Visit

section Loop

variable {entries : List (String × Definition)} {progress after : Progress} {name : String}
  {definition : Definition} {given : List (String × String)}

lemma keptModels_cons_of_kept (visible : options.isIgnored name = false)
    (plain : definition.aliasTarget? = none) :
    keptModels options ((name, definition) :: entries)
      = (name, definition) :: keptModels options entries := by
  simp [keptModels, visible, plain]

lemma keptModels_cons_of_not_kept
    (skipped : ¬ (options.isIgnored name = false ∧ definition.aliasTarget? = none)) :
    keptModels options ((name, definition) :: entries) = keptModels options entries := by
  simp [keptModels, skipped]

lemma held_of_names {chosen : String}
    (names : givenNames after.graph = givenNames progress.graph ++ [(name, chosen)]) :
    after.held = progress.held ++ [chosen] := by
  rw [Progress.held, names, List.map_append]
  rfl

/-- Before a definition that becomes a model come those whose models come before its model. -/
lemma exists_split_of_keptModels {earlier later : List (String × Definition)}
    (split : keptModels options entries = earlier ++ (name, definition) :: later) :
    ∃ done tail, done ++ (name, definition) :: tail = entries ∧ keptModels options done = earlier ∧
      options.isIgnored name = false ∧ definition.aliasTarget? = none := by
  obtain ⟨front, back, hentries, hfront, hback⟩ := List.filter_eq_append_iff.1 split
  obtain ⟨skipped, tail, rfl, none, kept, -⟩ := List.filter_eq_cons_iff.1 hback
  refine ⟨front ++ skipped, tail, ?_, ?_, ?_, ?_⟩
  · rw [hentries, List.append_assoc]
  · have nothing : keptModels options skipped = [] := List.filter_eq_nil_iff.2 none
    rw [← hfront, ← List.append_nil (List.filter _ front), ← nothing]
    exact List.filter_append ..
  · simp at kept
    exact kept.1
  · simp at kept
    exact kept.2

/-- The first loop gives names in order. -/
lemma given_of_foldlM_visit (distinct : Distinct progress)
    (h : entries.foldlM (visit options) progress = .ok after) :
    ∃ given, Given progress.held (keptModels options entries) given ∧ Distinct after ∧
      givenNames after.graph = givenNames progress.graph ++ given := by
  induction entries generalizing progress with
  | nil =>
    cases h
    exact ⟨[], .nil, distinct, (List.append_nil _).symm⟩
  | cons entry rest ih =>
    obtain ⟨name, definition⟩ := entry
    rw [List.foldlM_cons] at h
    obtain ⟨between, hvisit, hrest⟩ := bind_eq_ok_iff.1 h
    by_cases kept : options.isIgnored name = false ∧ definition.aliasTarget? = none
    · obtain ⟨visible, plain⟩ := kept
      rw [keptModels_cons_of_kept visible plain]
      obtain ⟨chosen, _, first, again, distinctBetween, names⟩ | ⟨-, _, _, -, -, failed⟩ :=
        visit_of_kept distinct visible plain
      · cases hvisit.symm.trans again
        obtain ⟨given, later, distinctAfter, all⟩ := ih distinctBetween hrest
        rw [held_of_names names] at later
        refine ⟨(name, chosen) :: given, .cons first later, distinctAfter, ?_⟩
        rw [all, names, List.append_assoc]
        rfl
      · cases hvisit.symm.trans failed
    · rw [keptModels_cons_of_not_kept kept]
      obtain ⟨_, again, distinctBetween, names⟩ := visit_of_not_kept distinct kept
      cases hvisit.symm.trans again
      rw [← names, Progress.held, ← names]
      exact ih distinctBetween hrest

/-- The first loop succeeds if names can be given in order, and gives these names. -/
lemma exists_progress_of_given (distinct : Distinct progress)
    (h : Given progress.held (keptModels options entries) given) :
    ∃ after, entries.foldlM (visit options) progress = .ok after ∧ Distinct after ∧
      givenNames after.graph = givenNames progress.graph ++ given := by
  induction entries generalizing progress given with
  | nil =>
    cases h
    exact ⟨progress, rfl, distinct, (List.append_nil _).symm⟩
  | cons entry rest ih =>
    obtain ⟨name, definition⟩ := entry
    rw [List.foldlM_cons]
    by_cases kept : options.isIgnored name = false ∧ definition.aliasTarget? = none
    · obtain ⟨visible, plain⟩ := kept
      rw [keptModels_cons_of_kept visible plain] at h
      cases h with
      | cons first later =>
        obtain ⟨_, between, again, hvisit, distinctBetween, names⟩ | ⟨exhausted, -⟩ :=
          visit_of_kept distinct visible plain
        · cases first.symm.trans again
          rw [← held_of_names names] at later
          obtain ⟨after, hrest, distinctAfter, all⟩ := ih distinctBetween later
          refine ⟨after, ?_, distinctAfter, ?_⟩
          · rw [hvisit]
            exact hrest
          · rw [all, names, List.append_assoc]
            rfl
        · rw [first] at exhausted
          cases exhausted
    · rw [keptModels_cons_of_not_kept kept] at h
      obtain ⟨between, hvisit, distinctBetween, names⟩ := visit_of_not_kept distinct kept
      rw [Progress.held, ← names] at h
      rw [hvisit, ← names]
      exact ih distinctBetween h

/-- The first loop fails exactly where a definition finds all its choices held. -/
theorem foldlM_visit_eq_error_iff {error : CompileError} :
    entries.foldlM (visit options) Progress.start = .error error ↔
      ∃ generatedName first second, Exhausted (keptModels options entries) generatedName first second ∧
        error = .duplicateGeneratedName generatedName first second := by
  rw [foldlM_eq_error_iff]
  constructor
  · rintro ⟨done, ⟨name, definition⟩, tail, state, split, hdone, failed⟩
    obtain ⟨given, hgiven, distinct, names⟩ := given_of_foldlM_visit distinct_start hdone
    by_cases kept : options.isIgnored name = false ∧ definition.aliasTarget? = none
    · obtain ⟨visible, plain⟩ := kept
      obtain ⟨_, _, -, hvisit, -⟩ | ⟨exhausted, last, holder, hlast, listed, again⟩ :=
        visit_of_kept distinct visible plain
      · cases failed.symm.trans hvisit
      · cases failed.symm.trans again
        have held : state.held = given.map Prod.snd := by
          rw [Progress.held, names]
          rfl
        rw [held, firstFree?_eq_none_iff] at exhausted
        rw [names] at listed
        refine ⟨last, holder, name, ?_, rfl⟩
        refine ⟨keptModels options done, definition, keptModels options tail, given, ?_, hgiven,
          exhausted, hlast, listed⟩
        rw [← split, ← keptModels_cons_of_kept visible plain]
        exact List.filter_append ..
    · obtain ⟨_, hvisit, -⟩ := visit_of_not_kept distinct kept
      cases failed.symm.trans hvisit
  · rintro ⟨generatedName, first, second, ⟨earlier, definition, later, given, split, hgiven,
      exhausted, hlast, listed⟩, rfl⟩
    obtain ⟨done, tail, hentries, rfl, visible, plain⟩ := exists_split_of_keptModels split
    obtain ⟨state, hdone, distinct, names⟩ := exists_progress_of_given distinct_start hgiven
    refine ⟨done, (second, definition), tail, state, hentries, hdone, ?_⟩
    change givenNames state.graph = given at names
    obtain ⟨chosen, _, free, -⟩ | ⟨-, last, holder, again, holds, failed⟩ :=
      visit_of_kept distinct visible plain
    · have none := firstFree?_eq_none_iff.2 exhausted
      rw [Progress.held, names, none] at free
      cases free
    · -- the last choice has one holder
      cases hlast.symm.trans again
      rw [← names, ← distinct.lookup?_claimed_eq_some_iff] at listed
      rw [← distinct.lookup?_claimed_eq_some_iff] at holds
      cases listed.symm.trans holds
      exact failed

end Loop

end Resolution

end KubeSchema

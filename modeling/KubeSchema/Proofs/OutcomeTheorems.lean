import KubeSchema.Proofs.GivenNameTheorems
import KubeSchema.Proofs.WalkTheorems

/-!
# Outcome of the first pass

The first pass fails in its first loop if a definition finds all its names held, and in its second
loop if the chain of an alias runs into an obstacle. `bindAlias_cases` shows that these are the only
ways to fail: the end of a chain is a definition that is kept and no alias, so it has a model. Main
statements: names are given in order and a collision is reported truthfully, and the error of an
alias is that of the first alias in order of name that runs into something.
-/

namespace KubeSchema

namespace Resolution

variable {definitions : Table String Definition} {options : Options} {progress : Progress}
  {graph : Graph} {name : String} {error : CompileError}

/-! ## Ends of chains -/

/-- The chain of an alias that is kept ends at the definition of a model. -/
lemma EndsAt.mem_keptModels {target : String} (ends : EndsAt definitions options name target)
    (isAlias : nextName? definitions name ≠ none) :
    target ∈ (keptModels options definitions.entries).map Prod.fst := by
  obtain ⟨steps, reached⟩ := ends.reached
  cases steps with
  | zero =>
    cases reached
    exact absurd ends.stops isAlias
  | succ steps =>
    obtain ⟨visible, found, -⟩ := (not_obstacle_iff reached).1 (ends.clear steps)
    rw [Table.contains, Option.isSome_iff_exists] at found
    obtain ⟨definition, found⟩ := found
    have listed := definitions.lookup?_eq_some_iff.1 found
    have plain : definition.aliasTarget? = none := by
      rw [← nextName?_of_mem listed]
      exact ends.stops
    exact List.mem_map.2 ⟨(target, definition), Resolution.mem_keptModels.2 ⟨listed, visible, plain⟩, rfl⟩

/-! ## The second loop -/

section Aliases

variable {done rest : List String}

/-- Binding an alias fails if its chain runs into an obstacle, and never because the end of its chain
has no model. -/
theorem bindAlias_cases (shells : Shells options definitions.entries progress)
    (split : progress.aliases = done ++ name :: rest)
    (reached : done.foldlM (bindAlias definitions options) progress.graph = .ok graph) :
    (∃ error, RunsInto definitions options name error ∧
      chainEnd definitions options name = .error error ∧
      bindAlias definitions options graph name = .error error) ∨
    (∃ target id, EndsAt definitions options name target ∧
      chainEnd definitions options name = .ok target ∧ graph.idOf? target = some id ∧
      bindAlias definitions options graph name = .ok (graph.bind name id)) := by
  have areAliases : ∀ other ∈ progress.aliases, nextName? definitions other ≠ none := by
    intro other hother
    rw [shells.aliases] at hother
    exact nextName?_of_mem_keptAliases hother
  have first : ∀ other ∈ done, nextName? definitions other ≠ none := by
    intro other hother
    apply areAliases
    rw [split]
    exact List.mem_append_left _ hother
  have mem : name ∈ progress.aliases := by
    rw [split]
    exact List.mem_append_right _ List.mem_cons_self
  rw [shells.aliases] at mem
  obtain ⟨visible, found⟩ := isDefined_of_mem_keptAliases mem
  have isAlias := nextName?_of_mem_keptAliases mem
  rw [bindAlias]
  obtain ⟨error, failed, into⟩ | ⟨target, hend, ends⟩ := chainEnd_cases visible found
  · refine .inl ⟨error, into, failed, ?_⟩
    rw [failed]
    rfl
  · -- the loop has left the name of the model alone
    have aliased := aliased_of_foldlM_bindAlias first reached
    obtain ⟨id, hid⟩ := shells.exists_id_iff.2 (ends.mem_keptModels isAlias)
    have still : graph.idOf? target = some id := by
      rw [aliased.others target fun h => aliased.isAlias target h ends.stops]
      exact hid
    refine .inr ⟨target, id, ends, hend, still, ?_⟩
    rw [hend]
    simp only [bind, Except.bind, still]

/-- Aliases that have been bound run into nothing. -/
lemma not_runsInto_of_foldlM (shells : Shells options definitions.entries progress)
    (split : progress.aliases = done ++ rest)
    (h : done.foldlM (bindAlias definitions options) progress.graph = .ok graph) :
    ∀ other ∈ done, ∀ error, ¬ RunsInto definitions options other error := by
  intro other mem error into
  obtain ⟨before, after, rfl⟩ := List.append_of_mem mem
  rw [List.foldlM_append] at h
  obtain ⟨between, hbefore, h⟩ := bind_eq_ok_iff.1 h
  rw [List.foldlM_cons] at h
  obtain ⟨bound, hbind, -⟩ := bind_eq_ok_iff.1 h
  rw [List.append_assoc] at split
  obtain ⟨_, -, -, failed⟩ | ⟨target, -, ends, -⟩ := bindAlias_cases shells split hbefore
  · cases hbind.symm.trans failed
  · exact ends.not_runsInto error into

/-- Aliases that run into nothing can be bound one after the other. -/
lemma exists_graph_of_not_runsInto (shells : Shells options definitions.entries progress)
    (split : progress.aliases = done ++ rest)
    (clear : ∀ other ∈ done, ∀ error, ¬ RunsInto definitions options other error) :
    ∃ graph, done.foldlM (bindAlias definitions options) progress.graph = .ok graph := by
  cases h : done.foldlM (bindAlias definitions options) progress.graph with
  | ok graph => exact ⟨graph, rfl⟩
  | error error =>
    obtain ⟨before, head, after, state, rfl, hbefore, failed⟩ := foldlM_eq_error_iff.1 h
    have mem : head ∈ before ++ head :: after := List.mem_append_right _ List.mem_cons_self
    rw [List.append_assoc] at split
    obtain ⟨other, into, -⟩ | ⟨_, _, -, -, -, hbind⟩ := bindAlias_cases shells split hbefore
    · exact absurd into (clear head mem other)
    · cases failed.symm.trans hbind

end Aliases

/-! ## The first alias that fails -/

/-- An alias that is kept runs into an obstacle, and no alias before it in order of name does. -/
structure FirstObstructed (definitions : Table String Definition) (options : Options)
    (name : String) (error : CompileError) : Prop where
  mem : name ∈ keptAliases options definitions.entries
  into : RunsInto definitions options name error
  first : ∀ other ∈ keptAliases options definitions.entries, compare other name = .lt →
    ∀ error, ¬ RunsInto definitions options other error

lemma keptAliases_sorted : (keptAliases options definitions.entries).Pairwise
    fun a b => compare a b = .lt :=
  List.pairwise_map.2 (definitions.sorted.filter _)

/-- The second loop fails with the error of the first alias that runs into something. -/
theorem foldlM_bindAlias_eq_error_iff (shells : Shells options definitions.entries progress) :
    progress.aliases.foldlM (bindAlias definitions options) progress.graph = .error error ↔
      ∃ name, FirstObstructed definitions options name error := by
  have sorted : progress.aliases.Pairwise fun a b => compare a b = .lt := by
    rw [shells.aliases]
    exact keptAliases_sorted
  rw [foldlM_eq_error_iff]
  constructor
  · rintro ⟨done, name, tail, graph, split, hdone, failed⟩
    have mem : name ∈ progress.aliases := split ▸ by simp
    obtain ⟨other, into, -, again⟩ | ⟨_, _, -, -, -, hbind⟩ :=
      bindAlias_cases shells split.symm hdone
    · cases failed.symm.trans again
      rw [shells.aliases] at mem
      refine ⟨name, mem, into, ?_⟩
      intro other hother lt
      -- an alias with a smaller name has been bound before
      have before : other ∈ done := by
        rw [← shells.aliases, ← split] at hother
        rcases List.mem_append.1 hother with h | h
        · exact h
        · rw [← split] at sorted
          have later := (List.pairwise_append.1 sorted).2.1
          rcases List.mem_cons.1 h with rfl | h
          · cases (Std.compare_eq_iff_eq.2 rfl).symm.trans lt
          · have gt := (List.pairwise_cons.1 later).1 other h
            rw [Std.OrientedCmp.gt_of_lt gt] at lt
            cases lt
      exact not_runsInto_of_foldlM shells split.symm hdone other before
    · cases failed.symm.trans hbind
  · rintro ⟨name, obstructed⟩
    have mem := obstructed.mem
    rw [← shells.aliases] at mem
    obtain ⟨done, tail, split⟩ := List.append_of_mem mem
    have clear : ∀ other ∈ done, ∀ error, ¬ RunsInto definitions options other error := by
      intro other h
      have lt : compare other name = .lt := by
        rw [split] at sorted
        exact (List.pairwise_append.1 sorted).2.2 other h name List.mem_cons_self
      have listed : other ∈ progress.aliases := split ▸ List.mem_append_left _ h
      rw [shells.aliases] at listed
      exact obstructed.first other listed lt
    obtain ⟨graph, hdone⟩ := exists_graph_of_not_runsInto shells split clear
    refine ⟨done, name, tail, graph, split.symm, hdone, ?_⟩
    obtain ⟨other, into, -, failed⟩ | ⟨_, _, ends, -⟩ := bindAlias_cases shells split hdone
    · rw [failed, obstructed.into.unique into]
    · exact absurd obstructed.into (ends.not_runsInto error)

/-! ## Both loops -/

/-- Names cannot be given in order if a definition finds all of them held. -/
lemma Exhausted.not_given {generatedName first second : String}
    (exhausted : Exhausted (keptModels options definitions.entries) generatedName first second)
    {given : List (String × String)} : ¬ Given [] (keptModels options definitions.entries) given := by
  intro hgiven
  obtain ⟨progress, hvisits, -⟩ := exists_progress_of_given distinct_start hgiven
  have stopped := foldlM_visit_eq_error_iff.2 ⟨_, _, _, exhausted, rfl⟩
  cases hvisits.symm.trans stopped

/-- The first pass fails for want of a name, or else because an alias runs into something. -/
theorem resolveAll_eq_error_iff :
    resolveAll definitions options = .error error ↔
      (∃ generatedName first second,
        Exhausted (keptModels options definitions.entries) generatedName first second ∧
        error = .duplicateGeneratedName generatedName first second) ∨
      ((∃ given, Given [] (keptModels options definitions.entries) given) ∧
        ∃ name, FirstObstructed definitions options name error) := by
  rw [resolveAll, ← foldlM_visit_eq_error_iff]
  cases hvisits : definitions.entries.foldlM (visit options) Progress.start with
  | error other =>
    constructor
    · intro h
      cases h
      exact .inl rfl
    · rintro (h | ⟨⟨given, hgiven⟩, -⟩)
      · cases h
        rfl
      · obtain ⟨progress, again, -⟩ := exists_progress_of_given distinct_start hgiven
        cases hvisits.symm.trans again
  | ok progress =>
    have shells := shells_of_foldlM_visit hvisits
    obtain ⟨given, hgiven, -⟩ := given_of_foldlM_visit distinct_start hvisits
    rw [← foldlM_bindAlias_eq_error_iff shells]
    constructor
    · intro h
      exact .inr ⟨⟨given, hgiven⟩, h⟩
    · rintro (h | ⟨-, h⟩)
      · cases h
      · exact h

/-- The error of an alias is not about a generated name. -/
lemma RunsInto.ne_duplicateGeneratedName (into : RunsInto definitions options name error)
    (generatedName first second : String) :
    error ≠ .duplicateGeneratedName generatedName first second := by
  obtain ⟨steps, obstacle, -⟩ := into
  cases obstacle <;> simp

lemma resolveAll_eq_duplicateGeneratedName_iff {generatedName first second : String} :
    resolveAll definitions options = .error (.duplicateGeneratedName generatedName first second) ↔
      Exhausted (keptModels options definitions.entries) generatedName first second := by
  rw [resolveAll_eq_error_iff]
  constructor
  · rintro (⟨_, _, _, exhausted, same⟩ | ⟨-, name, obstructed⟩)
    · cases same
      exact exhausted
    · exact absurd rfl (obstructed.into.ne_duplicateGeneratedName generatedName first second)
  · intro exhausted
    exact .inl ⟨generatedName, first, second, exhausted, rfl⟩

/-- The first pass succeeds if names can be given and no alias runs into anything. -/
lemma exists_resolveAll_eq_error_iff
    (given : ∃ given, Given [] (keptModels options definitions.entries) given) :
    (∃ error, resolveAll definitions options = .error error) ↔
      ∃ name ∈ keptAliases options definitions.entries, ∃ error,
        RunsInto definitions options name error := by
  constructor
  · rintro ⟨error, failed⟩
    obtain ⟨_, _, _, exhausted, rfl⟩ | ⟨-, name, obstructed⟩ := resolveAll_eq_error_iff.1 failed
    · obtain ⟨names, hnames⟩ := given
      exact absurd hnames exhausted.not_given
    · exact ⟨name, obstructed.mem, error, obstructed.into⟩
  · rintro ⟨name, mem, error, into⟩
    cases h : resolveAll definitions options with
    | error other => exact ⟨other, rfl⟩
    | ok graph =>
      -- then all aliases have been bound
      rw [resolveAll] at h
      obtain ⟨progress, hvisits, hbinds⟩ := bind_eq_ok_iff.1 h
      have shells := shells_of_foldlM_visit hvisits
      rw [← shells.aliases] at mem
      have all : progress.aliases = progress.aliases ++ [] := (List.append_nil _).symm
      exact absurd into (not_runsInto_of_foldlM shells all hbinds name mem error)

end Resolution

open Resolution

variable {definitions : Table String Definition} {options : Options}

/-- **Generated names.** Each model gets the first of its names that no model before it holds. The
first pass runs out of names exactly where a definition finds all of them held by definitions before
it; it reports the last one, and the definition that holds it. -/
theorem generatedNames_firstFree (definitions : Table String Definition) (options : Options) :
    (∀ graph, resolveAll definitions options = .ok graph →
      Given [] (keptModels options definitions.entries) (givenNames graph) ∧
      ((givenNames graph).map Prod.snd).Nodup) ∧
    (∀ generatedName first second,
      resolveAll definitions options = .error (.duplicateGeneratedName generatedName first second) ↔
        Exhausted (keptModels options definitions.entries) generatedName first second) ∧
    (∀ generatedName first second,
      Exhausted (keptModels options definitions.entries) generatedName first second →
        compare first second = .lt) ∧
    ((∃ given, Given [] (keptModels options definitions.entries) given) ↔
      ∀ generatedName first second, resolveAll definitions options
        ≠ .error (.duplicateGeneratedName generatedName first second)) := by
  refine ⟨?_, ?_, ?_, ?_⟩
  · intro graph h
    obtain ⟨progress, hvisits, aliased⟩ := exists_progress_of_resolveAll h
    obtain ⟨given, hgiven, distinct, names⟩ := given_of_foldlM_visit distinct_start hvisits
    have same : givenNames graph = given := by
      rw [givenNames, aliased.models]
      exact names
    refine ⟨same ▸ hgiven, ?_⟩
    rw [givenNames, aliased.models, List.map_map]
    exact distinct.nodup
  · intro generatedName first second
    exact resolveAll_eq_duplicateGeneratedName_iff
  · intro generatedName first second exhausted
    exact exhausted.lt
  · constructor
    · rintro ⟨given, hgiven⟩ generatedName first second h
      have exhausted := resolveAll_eq_duplicateGeneratedName_iff.1 h
      exact exhausted.not_given hgiven
    · intro never
      cases hvisits : definitions.entries.foldlM (visit options) Progress.start with
      | ok progress =>
        obtain ⟨given, hgiven, -⟩ := given_of_foldlM_visit distinct_start hvisits
        exact ⟨given, hgiven⟩
      | error error =>
        obtain ⟨_, _, _, exhausted, rfl⟩ := foldlM_visit_eq_error_iff.1 hvisits
        exact absurd (resolveAll_eq_duplicateGeneratedName_iff.2 exhausted) (never _ _ _)

/-- Two definitions of one kind, version and group share it out; a third one finds no name left. -/
example : resolveAll (.ofList [("a.apps.v1.Thing", {}), ("b.apps.v1.Thing", {}),
      ("c.apps.v1.Thing", {})]) .standard
    = .error (.duplicateGeneratedName "ThingAppsV1" "b.apps.v1.Thing" "c.apps.v1.Thing") := rfl

/-- **Chains of aliases.** When all models have names, the first pass fails exactly if the chain of an
alias that is kept runs into an obstacle, with the error of the first such alias in order of name.
Every chain is over after at most as many steps as there are definitions, and where it ends there is
a model to bind the alias to. -/
theorem resolveAll_outcome_of_given
    (named : ∃ given, Given [] (keptModels options definitions.entries) given) :
    ((∃ error, resolveAll definitions options = .error error) ↔
      ∃ name ∈ keptAliases options definitions.entries, ∃ error,
        RunsInto definitions options name error) ∧
    (∀ error, resolveAll definitions options = .error error ↔
      ∃ name, FirstObstructed definitions options name error) ∧
    (∀ name ∈ keptAliases options definitions.entries, ∃ steps < definitions.size,
      nameAfter? definitions name (steps + 1) = none ∨
        ∃ error, Obstacle definitions options name steps error) ∧
    (∀ progress done name rest graph target,
      definitions.entries.foldlM (visit options) Progress.start = .ok progress →
      progress.aliases = done ++ name :: rest →
      done.foldlM (bindAlias definitions options) progress.graph = .ok graph →
      chainEnd definitions options name = .ok target → ∃ id, graph.idOf? target = some id) := by
  refine ⟨exists_resolveAll_eq_error_iff named, ?_, ?_, ?_⟩
  · intro error
    rw [resolveAll_eq_error_iff]
    constructor
    · rintro (⟨_, _, _, exhausted, -⟩ | ⟨-, obstructed⟩)
      · obtain ⟨given, hgiven⟩ := named
        exact absurd hgiven exhausted.not_given
      · exact obstructed
    · intro obstructed
      exact .inr ⟨named, obstructed⟩
  · intro name mem
    obtain ⟨visible, found⟩ := isDefined_of_mem_keptAliases mem
    exact exists_end_or_obstacle visible found
  · intro progress done name rest graph target hvisits split hdone hend
    have shells := shells_of_foldlM_visit hvisits
    obtain ⟨_, -, failed, -⟩ | ⟨_, id, -, again, found, -⟩ := bindAlias_cases shells split hdone
    · cases hend.symm.trans failed
    · cases hend.symm.trans again
      exact ⟨id, found⟩

/-- A definition that stands for another one. -/
def aliasOf (name : String) : Definition := { reference := some (definitionsLead ++ name) }

/-- Aliases of all kinds: one that comes to its end, one that runs into a ring, the ring, one of a
definition that is passed over, and one of a name without a definition. -/
def ringedDefinitions : Table String Definition := .ofList [
  ("a.v1.Model", {}),
  ("b.v1.Same", aliasOf "a.v1.Model"),
  ("c.v1.Outer", aliasOf "d.v1.Ring"),
  ("d.v1.Ring", aliasOf "e.v1.Ring"),
  ("e.v1.Ring", aliasOf "d.v1.Ring"),
  ("f.v1.Late", aliasOf WellKnown.time),
  ("g.v1.Lost", aliasOf "g.v1.Missing")]

/-- The chain of the second alias comes back to the ring, and the chain of the first one ends. -/
lemma firstObstructed_ringedDefinitions :
    FirstObstructed ringedDefinitions .standard "c.v1.Outer" (.circularAlias "c.v1.Outer") := by
  have listed : keptAliases .standard ringedDefinitions.entries
      = ["b.v1.Same", "c.v1.Outer", "d.v1.Ring", "e.v1.Ring", "f.v1.Late", "g.v1.Lost"] := by
    decide +kernel
  refine ⟨by simp [listed], ⟨2, ?_, ?_⟩, ?_⟩
  · -- the third step leads to where the first one has led
    have reached : nameAfter? ringedDefinitions "c.v1.Outer" 3 = some "d.v1.Ring" := by
      decide +kernel
    have met : nameAfter? ringedDefinitions "c.v1.Outer" 1 = some "d.v1.Ring" := by decide +kernel
    exact .repeated reached (by decide) (by decide +kernel) (show 1 ≤ 2 by omega) met
  · intro earlier lt
    have reached : ∀ earlier < 2, nameAfter? ringedDefinitions "c.v1.Outer" (earlier + 1)
        = some (if earlier = 0 then "d.v1.Ring" else "e.v1.Ring") := by decide +kernel
    refine (not_obstacle_iff (reached earlier lt)).2 ?_
    revert earlier
    decide +kernel
  · intro other mem lt error
    have same : other = "b.v1.Same" := by
      rw [listed] at mem
      revert lt
      simp only [List.mem_cons, List.not_mem_nil, or_false] at mem
      rcases mem with rfl | rfl | rfl | rfl | rfl | rfl <;> decide
    subst same
    have hend : chainEnd ringedDefinitions .standard "b.v1.Same" = .ok "a.v1.Model" := rfl
    obtain ⟨_, failed, -⟩ | ⟨target, -, ends⟩ :=
      @chainEnd_cases ringedDefinitions .standard "b.v1.Same" (by decide) (by decide +kernel)
    · cases hend.symm.trans failed
    · exact ends.not_runsInto error

theorem resolveAll_outcome_of_given_of_ringed :
    (∃ given, Given [] (keptModels .standard ringedDefinitions.entries) given) ∧
    FirstObstructed ringedDefinitions .standard "c.v1.Outer" (.circularAlias "c.v1.Outer") ∧
    resolveAll ringedDefinitions .standard = .error (.circularAlias "c.v1.Outer") := by
  have named : ∃ given, Given [] (keptModels .standard ringedDefinitions.entries) given :=
    ⟨[("a.v1.Model", "ModelV1")], .cons (by decide +kernel) .nil⟩
  have outcome := resolveAll_outcome_of_given named
  exact ⟨named, firstObstructed_ringedDefinitions,
    (outcome.2.1 _).2 ⟨_, firstObstructed_ringedDefinitions⟩⟩

end KubeSchema

import KubeSchema.Proofs.OutcomeTheorems

/-!
# Cycles of aliases

The walk along a chain stops at any name that it has met before, which need not be the name it began
with. So the alias that is reported leads to a cycle, but it may stand outside, as a tail of the
cycle. Main statement: the names of the cycle that it leads to are aliases that are kept, and none
of them comes before it in order of name.
-/

namespace KubeSchema

namespace Resolution

variable {definitions : Table String Definition} {options : Options} {name other : String}

/-! ## Names on a cycle -/

/-- A name is on a cycle: one or more steps along aliases lead from it back to it. -/
def OnCycle (definitions : Table String Definition) (name : String) : Prop :=
  ∃ next, nextName? definitions name = some next ∧ LeadsTo definitions next name

/-- The next name of a cycle is on the cycle. -/
lemma OnCycle.onward {between : String} (onCycle : OnCycle definitions name)
    (step : nextName? definitions name = some between) :
    OnCycle definitions between ∧ LeadsTo definitions between name := by
  obtain ⟨_, again, back⟩ := onCycle
  cases step.symm.trans again
  refine ⟨?_, back⟩
  cases back with
  | here => exact ⟨_, step, .here _⟩
  | next second rest => exact ⟨_, second, rest.trans (.next step (.here _))⟩

/-- A cycle cannot be left, so what its names lead to leads back. -/
lemma OnCycle.leadsTo (onCycle : OnCycle definitions name)
    (leads : LeadsTo definitions name other) :
    OnCycle definitions other ∧ LeadsTo definitions other name := by
  induction leads with
  | here name => exact ⟨onCycle, .here name⟩
  | next step _ ih =>
    obtain ⟨onward, back⟩ := onCycle.onward step
    obtain ⟨further, round⟩ := ih onward
    exact ⟨further, round.trans back⟩

/-- A chain that comes to an end leads to no cycle. -/
lemma EndsAt.not_onCycle {target : String} (ends : EndsAt definitions options name target) :
    ¬ OnCycle definitions name := by
  intro onCycle
  obtain ⟨steps, reached⟩ := ends.reached
  obtain ⟨⟨next, step, -⟩, -⟩ := onCycle.leadsTo (leadsTo_of_le (Nat.zero_le steps) rfl reached)
  rw [ends.stops] at step
  cases step

/-! ## The alias that is reported -/

/-- A chain reports the alias that it began with. -/
lemma RunsInto.eq_of_circularAlias {start : String}
    (into : RunsInto definitions options start (.circularAlias name)) : start = name := by
  obtain ⟨steps, obstacle, -⟩ := into
  cases obstacle with
  | repeated => rfl

/-- A chain that meets a name again enters a cycle there, all of whose names are defined and kept. -/
lemma RunsInto.exists_entrance (visible : options.isIgnored name = false)
    (found : definitions.contains name = true)
    (into : RunsInto definitions options name (.circularAlias name)) :
    ∃ entrance, LeadsTo definitions name entrance ∧ OnCycle definitions entrance ∧
      ∀ other, LeadsTo definitions entrance other →
        options.isIgnored other = false ∧ definitions.contains other = true := by
  obtain ⟨steps, obstacle, clear⟩ := into
  cases obstacle with
  | @repeated entrance reached _ _ before earlier met =>
    refine ⟨entrance, leadsTo_of_le (Nat.zero_le before) rfl met, ?_, ?_⟩
    · have le : before + 1 ≤ steps + 1 := by omega
      obtain ⟨second, hsecond⟩ := nameAfter?_of_le le reached
      have step : nextName? definitions entrance = some second :=
        (nameAfter?_succ met).symm.trans hsecond
      exact ⟨second, step, leadsTo_of_le le hsecond reached⟩
    · -- the names met are closed under steps, since the last of them leads back to one of them
      have closed : ∀ first last, LeadsTo definitions first last →
          (∃ early ≤ steps, nameAfter? definitions name early = some first) →
          ∃ late ≤ steps, nameAfter? definitions name late = some last := by
        intro first last leads
        induction leads with
        | here => exact id
        | next step _ ih =>
          rintro ⟨early, le, hfirst⟩
          have hnext := (nameAfter?_succ hfirst).trans step
          by_cases same : early = steps
          · subst same
            cases reached.symm.trans hnext
            exact ih ⟨before, earlier, met⟩
          · exact ih ⟨early + 1, by omega, hnext⟩
      intro other leads
      obtain ⟨late, le, hother⟩ := closed entrance other leads ⟨before, earlier, met⟩
      cases late with
      | zero =>
        cases hother
        exact ⟨visible, found⟩
      | succ late =>
        have passed := (not_obstacle_iff hother).1 (clear late (by omega))
        exact ⟨passed.1, passed.2.1⟩

/-- A name with a definition that leads on is an alias. -/
lemma mem_keptAliases_of_nextName? (visible : options.isIgnored name = false) {next : String}
    (step : nextName? definitions name = some next) :
    name ∈ keptAliases options definitions.entries := by
  obtain ⟨definition, found, isAlias⟩ := Option.bind_eq_some_iff.1 step
  have listed := definitions.lookup?_eq_some_iff.1 found
  exact mem_keptAliases.2 ⟨visible, definition, listed, by rw [isAlias]; rfl⟩

/-- The first pass reports a cycle for the first alias that runs into anything. -/
lemma firstObstructed_of_circularAlias
    (h : resolveAll definitions options = .error (.circularAlias name)) :
    FirstObstructed definitions options name (.circularAlias name) := by
  obtain ⟨_, _, _, -, same⟩ | ⟨-, start, obstructed⟩ := resolveAll_eq_error_iff.1 h
  · cases same
  · cases obstructed.into.eq_of_circularAlias
    exact obstructed

end Resolution

open Resolution

/-- A compilation reports a cycle only if its first pass does. -/
lemma resolveAll_of_compile_circularAlias {document : Document} {options : Options} {name : String}
    (h : compile document options = .error (.circularAlias name)) :
    resolveAll document.definitions options = .error (.circularAlias name) := by
  obtain ⟨error, first, failed⟩ | ⟨-, _, _, compiled, -⟩ := compile_cases document options
  · cases h.symm.trans failed
    rw [Compile.firstError?] at first
    cases resolved : resolveAll document.definitions options with
    | error other =>
      rw [resolved] at first
      cases first
      rfl
    | ok graph =>
      -- the errors of the later passes are of other kinds
      simp only [resolved, Compile.errorAmong?, Option.or_eq_some_iff, Option.map_eq_some_iff,
        reduceCtorEq, and_false, exists_false, or_false] at first
  · cases h.symm.trans compiled

/-- **The alias that is reported.** It leads to a cycle of aliases that are kept, none of which comes
before it in order of name. It is on a cycle itself exactly if the cycle leads back to it. -/
theorem circularAlias_leads_to_cycle {document : Document} {options : Options} {name : String}
    (h : resolveAll document.definitions options = .error (.circularAlias name) ∨
      compile document options = .error (.circularAlias name)) :
    ∃ entrance, LeadsTo document.definitions name entrance ∧
      OnCycle document.definitions entrance ∧
      (∀ other, LeadsTo document.definitions entrance other →
        OnCycle document.definitions other ∧
        other ∈ keptAliases options document.definitions.entries ∧ compare other name ≠ .lt) ∧
      (OnCycle document.definitions name ↔ LeadsTo document.definitions entrance name) := by
  have failed : resolveAll document.definitions options = .error (.circularAlias name) := by
    rcases h with h | h
    · exact h
    · exact resolveAll_of_compile_circularAlias h
  have obstructed := firstObstructed_of_circularAlias failed
  obtain ⟨visible, found⟩ := isDefined_of_mem_keptAliases obstructed.mem
  obtain ⟨entrance, leads, onCycle, passed⟩ := obstructed.into.exists_entrance visible found
  refine ⟨entrance, leads, onCycle, ?_, ?_⟩
  · intro other onward
    have onCycleOther := (onCycle.leadsTo onward).1
    obtain ⟨visibleOther, foundOther⟩ := passed other onward
    have mem : other ∈ keptAliases options document.definitions.entries := by
      obtain ⟨_, step, -⟩ := onCycleOther
      exact mem_keptAliases_of_nextName? visibleOther step
    refine ⟨onCycleOther, mem, ?_⟩
    intro lt
    -- an alias of the cycle runs into something too, and would have been reported
    obtain ⟨error, -, into⟩ | ⟨target, -, ends⟩ := chainEnd_cases visibleOther foundOther
    · exact obstructed.first other mem lt error into
    · exact ends.not_onCycle onCycleOther
  · constructor
    · intro onCycleName
      exact (onCycleName.leadsTo leads).2
    · intro back
      exact (onCycle.leadsTo back).1

/-- An alias in front of a cycle that is an alias of itself. -/
def tailedDefinitions : Table String Definition := .ofList [
  ("a.v1.Tail", aliasOf "b.v1.Ring"),
  ("b.v1.Ring", aliasOf "b.v1.Ring")]

theorem circularAlias_leads_to_cycle_of_tailed :
    resolveAll tailedDefinitions .standard = .error (.circularAlias "a.v1.Tail") ∧
    ∃ entrance, LeadsTo tailedDefinitions "a.v1.Tail" entrance ∧
      OnCycle tailedDefinitions entrance := by
  have failed : resolveAll tailedDefinitions .standard = .error (.circularAlias "a.v1.Tail") := rfl
  obtain ⟨entrance, leads, onCycle, -⟩ :=
    @circularAlias_leads_to_cycle ⟨tailedDefinitions, Table.empty⟩ .standard _ (.inl failed)
  exact ⟨failed, entrance, leads, onCycle⟩

/-- The alias that is reported need not be on a cycle. -/
theorem not_onCycle_of_tail :
    resolveAll tailedDefinitions .standard = .error (.circularAlias "a.v1.Tail") ∧
    compile ⟨tailedDefinitions, Table.empty⟩ .standard = .error (.circularAlias "a.v1.Tail") ∧
    ¬ OnCycle tailedDefinitions "a.v1.Tail" := by
  have ring : nextName? tailedDefinitions "b.v1.Ring" = some "b.v1.Ring" := by decide +kernel
  have tail : nextName? tailedDefinitions "a.v1.Tail" = some "b.v1.Ring" := by decide +kernel
  -- the cycle leads to itself only
  have stays : ∀ name target, LeadsTo tailedDefinitions name target → name = "b.v1.Ring" →
      target = "b.v1.Ring" := by
    intro name target leads
    induction leads with
    | here => exact id
    | next step _ ih =>
      rintro rfl
      cases ring.symm.trans step
      exact ih rfl
  refine ⟨rfl, rfl, ?_⟩
  rintro ⟨next, step, back⟩
  cases tail.symm.trans step
  exact absurd (stays _ _ back rfl) (by decide)

end KubeSchema

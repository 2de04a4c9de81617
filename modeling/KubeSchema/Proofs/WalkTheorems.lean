import KubeSchema.Proofs.VisibilityTheorems

/-!
# Walking along aliases

`nameAfter?` is the name that a chain of aliases reaches in some steps, and an `Obstacle` is what the
chain can meet with its next step: a name that is passed over, not defined, or met before. Neither
speaks of a bound on the steps or of a list of names met. `Walked` ties them to the walk that
`follow` takes: without an obstacle every step adds a defined name to those met, so the walk is over
before the bound is reached. Main statement: the walk stops at the first obstacle, with its error, or
else at the end of the chain (`follow_cases`).
-/

namespace KubeSchema

namespace Resolution

variable {definitions : Table String Definition} {options : Options} {start : String}

/-! ## Names along a chain -/

/-- The name that a chain of aliases reaches in some steps, unless it ends before. -/
def nameAfter? (definitions : Table String Definition) (start : String) : Nat → Option String
  | 0 => some start
  | steps + 1 => (nameAfter? definitions start steps).bind (nextName? definitions)

lemma nameAfter?_succ {steps : Nat} {current : String}
    (reached : nameAfter? definitions start steps = some current) :
    nameAfter? definitions start (steps + 1) = nextName? definitions current := by
  rw [nameAfter?, reached]
  rfl

/-- Steps are taken one after the other. -/
lemma nameAfter?_of_le {steps fewer : Nat} {last : String} (le : fewer ≤ steps)
    (reached : nameAfter? definitions start steps = some last) :
    ∃ name, nameAfter? definitions start fewer = some name := by
  induction le generalizing last with
  | refl => exact ⟨last, reached⟩
  | step _ ih =>
    rw [nameAfter?] at reached
    obtain ⟨between, hbetween, -⟩ := Option.bind_eq_some_iff.1 reached
    exact ih hbetween

lemma LeadsTo.trans {name between target : String} (first : LeadsTo definitions name between)
    (second : LeadsTo definitions between target) : LeadsTo definitions name target := by
  induction first with
  | here => exact second
  | next step _ ih => exact .next step (ih second)

/-- Names reached early lead to names reached late. -/
lemma leadsTo_of_le {early late : Nat} {first last : String} (le : early ≤ late)
    (hfirst : nameAfter? definitions start early = some first)
    (hlast : nameAfter? definitions start late = some last) : LeadsTo definitions first last := by
  induction le generalizing last with
  | refl =>
    cases hfirst.symm.trans hlast
    exact .here first
  | step _ ih =>
    rw [nameAfter?] at hlast
    obtain ⟨between, hbetween, step⟩ := Option.bind_eq_some_iff.1 hlast
    exact (ih hbetween).trans (.next step (.here last))

/-! ## Obstacles -/

/-- What a chain meets with the step that follows some steps, and the error that this makes. A name
that is passed over counts before one that is not defined, and that before one met before. -/
inductive Obstacle (definitions : Table String Definition) (options : Options) (start : String)
    (steps : Nat) : CompileError → Prop
  | ignored {next : String} (reached : nameAfter? definitions start (steps + 1) = some next)
    (ignored : options.isIgnored next = true) :
    Obstacle definitions options start steps (.ambiguousAlias start next)
  | undefined {next : String} (reached : nameAfter? definitions start (steps + 1) = some next)
    (visible : options.isIgnored next = false) (undefined : definitions.contains next = false) :
    Obstacle definitions options start steps (.unresolvableReference start next)
  | repeated {next : String} (reached : nameAfter? definitions start (steps + 1) = some next)
    (visible : options.isIgnored next = false) (found : definitions.contains next = true)
    {before : Nat} (earlier : before ≤ steps)
    (met : nameAfter? definitions start before = some next) :
    Obstacle definitions options start steps (.circularAlias start)

/-- An obstacle is a name that the chain reaches. -/
lemma Obstacle.exists_next {steps : Nat} {error : CompileError}
    (obstacle : Obstacle definitions options start steps error) :
    ∃ next, nameAfter? definitions start (steps + 1) = some next := by
  cases obstacle with
  | ignored reached => exact ⟨_, reached⟩
  | undefined reached => exact ⟨_, reached⟩
  | repeated reached => exact ⟨_, reached⟩

/-- The three obstacles that the name after some steps can be, which exclude each other. -/
lemma Obstacle.of_reached {steps : Nat} {error : CompileError} {next : String}
    (obstacle : Obstacle definitions options start steps error)
    (reached : nameAfter? definitions start (steps + 1) = some next) :
    (options.isIgnored next = true ∧ error = .ambiguousAlias start next) ∨
    (options.isIgnored next = false ∧ definitions.contains next = false ∧
      error = .unresolvableReference start next) ∨
    (options.isIgnored next = false ∧ definitions.contains next = true ∧
      (∃ before ≤ steps, nameAfter? definitions start before = some next) ∧
      error = .circularAlias start) := by
  cases obstacle with
  | ignored again ignored =>
    cases reached.symm.trans again
    exact .inl ⟨ignored, rfl⟩
  | undefined again visible undefined =>
    cases reached.symm.trans again
    exact .inr (.inl ⟨visible, undefined, rfl⟩)
  | repeated again visible found earlier met =>
    cases reached.symm.trans again
    exact .inr (.inr ⟨visible, found, ⟨_, earlier, met⟩, rfl⟩)

/-- A step makes at most one error. -/
lemma Obstacle.unique {steps : Nat} {error other : CompileError}
    (first : Obstacle definitions options start steps error)
    (second : Obstacle definitions options start steps other) : error = other := by
  obtain ⟨next, reached⟩ := first.exists_next
  obtain ⟨ignored, rfl⟩ | ⟨visible, undefined, rfl⟩ | ⟨visible, found, -, rfl⟩ :=
    first.of_reached reached
  · obtain ⟨-, rfl⟩ | ⟨visible, -⟩ | ⟨visible, -⟩ := second.of_reached reached
    · rfl
    · cases ignored.symm.trans visible
    · cases ignored.symm.trans visible
  · obtain ⟨ignored, -⟩ | ⟨-, -, rfl⟩ | ⟨-, found, -⟩ := second.of_reached reached
    · cases ignored.symm.trans visible
    · rfl
    · cases found.symm.trans undefined
  · obtain ⟨ignored, -⟩ | ⟨-, undefined, -⟩ | ⟨-, -, -, rfl⟩ := second.of_reached reached
    · cases ignored.symm.trans visible
    · cases found.symm.trans undefined
    · rfl

/-- A step meets no obstacle exactly when the name it leads to is kept, defined and new. -/
lemma not_obstacle_iff {steps : Nat} {next : String}
    (reached : nameAfter? definitions start (steps + 1) = some next) :
    (∀ error, ¬ Obstacle definitions options start steps error) ↔
      options.isIgnored next = false ∧ definitions.contains next = true ∧
        ∀ before ≤ steps, nameAfter? definitions start before ≠ some next := by
  constructor
  · intro clear
    have visible : options.isIgnored next = false := by
      by_contra ignored
      exact clear _ (.ignored reached (by simpa using ignored))
    have found : definitions.contains next = true := by
      by_contra undefined
      exact clear _ (.undefined reached visible (by simpa using undefined))
    refine ⟨visible, found, ?_⟩
    intro before earlier met
    exact clear _ (.repeated reached visible found earlier met)
  · rintro ⟨visible, found, fresh⟩ error obstacle
    obtain ⟨ignored, -⟩ | ⟨-, undefined, -⟩ | ⟨-, -, ⟨before, earlier, met⟩, -⟩ :=
      obstacle.of_reached reached
    · cases ignored.symm.trans visible
    · cases found.symm.trans undefined
    · exact fresh before earlier met

/-- The first obstacle of a chain makes an error. -/
def RunsInto (definitions : Table String Definition) (options : Options) (start : String)
    (error : CompileError) : Prop :=
  ∃ steps, Obstacle definitions options start steps error ∧
    ∀ earlier < steps, ∀ other, ¬ Obstacle definitions options start earlier other

/-- A chain runs into one error only. -/
lemma RunsInto.unique {error other : CompileError}
    (first : RunsInto definitions options start error)
    (second : RunsInto definitions options start other) : error = other := by
  obtain ⟨steps, obstacle, clear⟩ := first
  obtain ⟨others, hother, clearOther⟩ := second
  rcases Nat.lt_trichotomy steps others with lt | same | gt
  · exact absurd obstacle (clearOther steps lt error)
  · subst same
    exact obstacle.unique hother
  · exact absurd hother (clear others gt other)

/-- A chain ends at a name that is no alias, without an obstacle on the way. -/
structure EndsAt (definitions : Table String Definition) (options : Options)
    (start target : String) : Prop where
  reached : ∃ steps, nameAfter? definitions start steps = some target
  stops : nextName? definitions target = none
  clear : ∀ steps error, ¬ Obstacle definitions options start steps error

/-- A chain that ends runs into nothing. -/
lemma EndsAt.not_runsInto {target : String} (ends : EndsAt definitions options start target)
    (error : CompileError) : ¬ RunsInto definitions options start error := by
  rintro ⟨steps, obstacle, -⟩
  exact ends.clear steps error obstacle

/-! ## Walks -/

/-- A walk has taken some steps without an obstacle. It stands at the last of the names met, which
are all defined, kept and different. -/
structure Walked (definitions : Table String Definition) (options : Options) (start : String)
    (steps : Nat) (met : List String) (current : String) : Prop where
  reached : nameAfter? definitions start steps = some current
  listed : ∀ name, name ∈ met ↔
    ∃ before ≤ steps, nameAfter? definitions start before = some name
  clear : ∀ earlier < steps, ∀ error, ¬ Obstacle definitions options start earlier error
  names : Met definitions options met
  length : met.length = steps + 1

variable {steps : Nat} {met : List String} {current : String}

lemma walked_start (visible : options.isIgnored start = false)
    (found : definitions.contains start = true) :
    Walked definitions options start 0 [start] start where
  reached := rfl
  listed name := by
    rw [List.mem_singleton]
    constructor
    · intro same
      exact ⟨0, Nat.le_refl 0, by rw [same]; rfl⟩
    · rintro ⟨before, le, reached⟩
      rw [Nat.le_zero.1 le] at reached
      exact (Option.some.inj reached).symm
  clear earlier lt := absurd lt (Nat.not_lt_zero earlier)
  names := .single found visible
  length := rfl

/-- One more step without an obstacle. -/
lemma Walked.step (walked : Walked definitions options start steps met current) {next : String}
    (step : nextName? definitions current = some next)
    (clear : ∀ error, ¬ Obstacle definitions options start steps error) :
    Walked definitions options start (steps + 1) (next :: met) next := by
  have reached : nameAfter? definitions start (steps + 1) = some next :=
    (nameAfter?_succ walked.reached).trans step
  obtain ⟨visible, found, fresh⟩ := (not_obstacle_iff reached).1 clear
  have new : next ∉ met := by
    intro mem
    obtain ⟨before, earlier, hmet⟩ := (walked.listed next).1 mem
    exact fresh before earlier hmet
  refine ⟨reached, ?_, ?_, walked.names.cons found visible new, ?_⟩
  · intro name
    rw [List.mem_cons, walked.listed]
    constructor
    · rintro (rfl | ⟨before, earlier, hmet⟩)
      · exact ⟨steps + 1, Nat.le_refl _, reached⟩
      · exact ⟨before, by omega, hmet⟩
    · rintro ⟨before, earlier, hmet⟩
      by_cases last : before = steps + 1
      · rw [last, reached] at hmet
        exact .inl (Option.some.inj hmet).symm
      · exact .inr ⟨before, by omega, hmet⟩
  · intro earlier lt
    by_cases last : earlier = steps
    · rw [last]
      exact clear
    · exact walked.clear earlier (by omega)
  · rw [List.length_cons, walked.length]

/-- A walk without an obstacle is shorter than the table of definitions. -/
lemma Walked.lt_size (walked : Walked definitions options start steps met current) :
    steps < definitions.size := by
  have bounded := walked.names.length_le
  have counted := walked.length
  omega

/-- A chain can be walked along up to its first obstacle. -/
lemma exists_walked (visible : options.isIgnored start = false)
    (found : definitions.contains start = true)
    (reached : nameAfter? definitions start steps = some current)
    (clear : ∀ earlier < steps, ∀ error, ¬ Obstacle definitions options start earlier error) :
    ∃ met, Walked definitions options start steps met current := by
  induction steps generalizing current with
  | zero =>
    cases reached
    exact ⟨[start], walked_start visible found⟩
  | succ steps ih =>
    obtain ⟨between, hbetween⟩ := nameAfter?_of_le (Nat.le_succ steps) reached
    obtain ⟨met, walked⟩ := ih hbetween fun earlier lt => clear earlier (by omega)
    have step : nextName? definitions between = some current :=
      (nameAfter?_succ hbetween).symm.trans reached
    exact ⟨current :: met, walked.step step (clear steps (Nat.lt_succ_self steps))⟩

/-- **End of a chain.** After at most as many steps as there are definitions, a chain has come to its
end or to an obstacle. -/
theorem exists_end_or_obstacle (visible : options.isIgnored start = false)
    (found : definitions.contains start = true) :
    ∃ steps < definitions.size, nameAfter? definitions start (steps + 1) = none ∨
      ∃ error, Obstacle definitions options start steps error := by
  by_contra endless
  push Not at endless
  -- otherwise the chain can be walked along for more steps than there are definitions
  have clear : ∀ earlier < definitions.size, ∀ error,
      ¬ Obstacle definitions options start earlier error :=
    fun earlier lt => (endless earlier lt).2
  have nonempty : 0 < definitions.size := (walked_start visible found).lt_size
  have last : definitions.size - 1 + 1 = definitions.size := by omega
  obtain ⟨current, reached⟩ : ∃ current,
      nameAfter? definitions start definitions.size = some current := by
    have more := (endless (definitions.size - 1) (by omega)).1
    rw [last] at more
    exact Option.ne_none_iff_exists'.1 more
  obtain ⟨met, walked⟩ := exists_walked visible found reached clear
  exact Nat.lt_irrefl _ walked.lt_size

/-- A walk that goes on stops at the first obstacle with its error, or else at the end of the
chain. -/
theorem follow_cases {bound : Nat}
    (walked : Walked definitions options start steps met current)
    (enough : definitions.size < bound + steps) :
    (∃ error, follow definitions options start bound met current = .error error ∧
      RunsInto definitions options start error) ∨
    (∃ target, follow definitions options start bound met current = .ok target ∧
      EndsAt definitions options start target) := by
  -- the bound goes down by one while the steps go up by one, so it is never used up
  induction bound generalizing steps met current with
  | zero =>
    have := walked.lt_size
    omega
  | succ bound ih =>
    rw [follow]
    cases step : nextName? definitions current with
    | none =>
      refine .inr ⟨current, rfl, ⟨steps, walked.reached⟩, step, ?_⟩
      intro other error obstacle
      obtain ⟨next, reached⟩ := obstacle.exists_next
      by_cases lt : other < steps
      · exact walked.clear other lt error obstacle
      · -- no name is reached after the end
        obtain ⟨name, beyond⟩ := nameAfter?_of_le (show steps + 1 ≤ other + 1 by omega) reached
        rw [nameAfter?_succ walked.reached, step] at beyond
        cases beyond
    | some next =>
      have reached : nameAfter? definitions start (steps + 1) = some next :=
        (nameAfter?_succ walked.reached).trans step
      -- the three checks, in their order
      by_cases ignored : options.isIgnored next = true
      · refine .inl ⟨_, if_pos ignored, steps, .ignored reached ignored, walked.clear⟩
      have visible : options.isIgnored next = false := by simpa using ignored
      simp only [visible, Bool.false_eq_true, if_false]
      by_cases undefined : definitions.contains next = false
      · refine .inl ⟨_, if_pos (by simp [undefined]), steps, ?_, walked.clear⟩
        exact .undefined reached visible undefined
      have found : definitions.contains next = true := by simpa using undefined
      simp only [found, Bool.not_true, Bool.false_eq_true, if_false]
      by_cases mem : next ∈ met
      · obtain ⟨before, earlier, hmet⟩ := (walked.listed next).1 mem
        refine .inl ⟨_, if_pos (by simp [mem]), steps, ?_, walked.clear⟩
        exact .repeated reached visible found earlier hmet
      · have fresh : ∀ before ≤ steps, nameAfter? definitions start before ≠ some next := by
          intro before earlier hmet
          exact mem ((walked.listed next).2 ⟨before, earlier, hmet⟩)
        have clear := (not_obstacle_iff reached).2 ⟨visible, found, fresh⟩
        have notMet : met.contains next = false := by simpa using mem
        simp only [notMet, Bool.false_eq_true, if_false]
        exact ih (walked.step step clear) (by omega)

/-- The chain of a definition that is kept runs into its first obstacle, or has an end. -/
theorem chainEnd_cases (visible : options.isIgnored start = false)
    (found : definitions.contains start = true) :
    (∃ error, chainEnd definitions options start = .error error ∧
      RunsInto definitions options start error) ∨
    (∃ target, chainEnd definitions options start = .ok target ∧
      EndsAt definitions options start target) := by
  apply follow_cases (walked_start visible found)
  omega

end Resolution

end KubeSchema

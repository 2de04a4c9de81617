import Mathlib.Data.List.Forall2
import Mathlib.Data.List.Nodup
import Mathlib.Tactic.Lemma

/-!
# Loops and steps that can fail

A sequence of steps succeeds when each of them does. A loop over a list keeps what every step keeps,
where a step may use which elements have been met before it.
-/

namespace KubeSchema

universe u v w

/-! ## Steps -/

section Steps

variable {ε : Type u} {α β γ : Type v}

/-- Two steps succeed when both do. -/
lemma bind_eq_ok_iff {step : Except ε α} {next : α → Except ε β} {result : β} :
    (step >>= next) = .ok result ↔ ∃ between, step = .ok between ∧ next between = .ok result := by
  cases step with
  | error error =>
    refine ⟨fun h => (by cases h), ?_⟩
    rintro ⟨between, h, -⟩
    cases h
  | ok between =>
    refine ⟨fun h => ⟨between, rfl, h⟩, ?_⟩
    rintro ⟨other, h, hnext⟩
    cases h
    exact hnext

/-- A step that gives a result succeeds. -/
lemma exists_ok_of_isSome {step : Except ε α} (h : step.toOption.isSome = true) :
    ∃ result, step = .ok result := by
  cases step with
  | error error => cases h
  | ok result => exact ⟨result, rfl⟩

/-- A step whose result passes a check succeeds. -/
lemma exists_ok_of_any {step : Except ε α} {check : α → Bool}
    (h : step.toOption.any check = true) : ∃ result, step = .ok result ∧ check result = true := by
  cases step with
  | error error => cases h
  | ok result => exact ⟨result, rfl, h⟩

end Steps

/-! ## Loops -/

section Loops

variable {ε : Type u} {β γ : Type v} (inv : List γ → β → Prop) {all : List γ} {start result : β}

/-- What holds before the first element and is kept by each step holds after the last element. -/
theorem foldl_invariant {step : β → γ → β} (first : inv [] start)
    (keeps : ∀ done head tail, done ++ head :: tail = all → ∀ state,
      inv done state → inv (done ++ [head]) (step state head)) :
    inv all (all.foldl step start) := by
  have run : ∀ rest done state, done ++ rest = all → inv done state →
      inv all (rest.foldl step state) := by
    intro rest
    induction rest with
    | nil =>
      intro done state split h
      rw [List.append_nil] at split
      exact split ▸ h
    | cons head tail ih =>
      intro done state split h
      rw [List.foldl_cons]
      refine ih (done ++ [head]) (step state head) ?_ (keeps done head tail split state h)
      rw [← List.append_cons, split]
  exact run all [] start rfl first

/-- The same for a loop whose steps can fail. -/
theorem foldlM_invariant {step : β → γ → Except ε β} (first : inv [] start)
    (keeps : ∀ done head tail, done ++ head :: tail = all → ∀ state after,
      inv done state → step state head = .ok after → inv (done ++ [head]) after)
    (h : all.foldlM step start = .ok result) : inv all result := by
  have run : ∀ rest done state, done ++ rest = all → inv done state →
      rest.foldlM step state = .ok result → inv all result := by
    intro rest
    induction rest with
    | nil =>
      intro done state split hstate hrest
      cases hrest
      rw [List.append_nil] at split
      exact split ▸ hstate
    | cons head tail ih =>
      intro done state split hstate hrest
      rw [List.foldlM_cons] at hrest
      obtain ⟨between, hstep, htail⟩ := bind_eq_ok_iff.1 hrest
      refine ih (done ++ [head]) between ?_ (keeps done head tail split state between hstate hstep)
        htail
      rw [← List.append_cons, split]
  exact run all [] start rfl first h

/-- A loop fails exactly when it gets through some elements and fails at the next one. -/
theorem foldlM_eq_error_iff {step : β → γ → Except ε β} {error : ε} :
    all.foldlM step start = .error error ↔ ∃ done head tail state, done ++ head :: tail = all ∧
      done.foldlM step start = .ok state ∧ step state head = .error error := by
  induction all generalizing start with
  | nil =>
    constructor
    · intro h
      cases h
    · rintro ⟨done, head, tail, state, split, -⟩
      simp at split
  | cons first rest ih =>
    rw [List.foldlM_cons]
    constructor
    · intro h
      cases hfirst : step start first with
      | error other =>
        rw [hfirst] at h
        cases h
        exact ⟨[], first, rest, start, rfl, rfl, hfirst⟩
      | ok between =>
        rw [hfirst] at h
        obtain ⟨done, head, tail, state, split, hdone, hhead⟩ := ih.1 h
        refine ⟨first :: done, head, tail, state, by rw [List.cons_append, split], ?_, hhead⟩
        rw [List.foldlM_cons, hfirst]
        exact hdone
    · rintro ⟨done, head, tail, state, split, hdone, hhead⟩
      cases done with
      | nil =>
        cases split
        cases hdone
        rw [hhead]
        rfl
      | cons other done =>
        cases split
        rw [List.foldlM_cons] at hdone
        obtain ⟨between, hfirst, hrest⟩ := bind_eq_ok_iff.1 hdone
        rw [hfirst]
        exact ih.2 ⟨done, head, tail, state, rfl, hrest, hhead⟩

/-- Elements that every step passes over may be left out. -/
lemma foldlM_filter_of_skip {step : β → γ → Except ε β} {keep : γ → Bool}
    (skip : ∀ state head, keep head = false → step state head = .ok state) :
    all.foldlM step start = (all.filter keep).foldlM step start := by
  induction all generalizing start with
  | nil => rfl
  | cons head tail ih =>
    cases kept : keep head with
    | true =>
      rw [List.filter_cons_of_pos kept, List.foldlM_cons, List.foldlM_cons]
      exact congrArg (step start head >>= ·) (funext fun state => ih)
    | false =>
      rw [List.filter_cons_of_neg (by simp [kept]), List.foldlM_cons, skip start head kept]
      exact ih

/-- Steps that agree on the elements of a list give the same loop. -/
lemma foldlM_congr {step other : β → γ → Except ε β}
    (same : ∀ head ∈ all, ∀ state, step state head = other state head) :
    all.foldlM step start = all.foldlM other start := by
  induction all generalizing start with
  | nil => rfl
  | cons head tail ih =>
    have tails : ∀ head ∈ tail, ∀ state, step state head = other state head :=
      fun head mem => same head (List.mem_cons_of_mem _ mem)
    rw [List.foldlM_cons, List.foldlM_cons, same head List.mem_cons_self]
    exact congrArg (other start head >>= ·) (funext fun state => ih tails)

/-- Loops over related elements that take the same steps have the same result. -/
lemma foldl_eq_of_forall₂ {δ : Type v} {step : β → γ → β} {other : β → δ → β} {r : γ → δ → Prop}
    {images : List δ} (related : List.Forall₂ r all images)
    (same : ∀ head image, r head image → ∀ state, step state head = other state image) :
    all.foldl step start = images.foldl other start := by
  induction related generalizing start with
  | nil => rfl
  | cons head _ ih =>
    rw [List.foldl_cons, List.foldl_cons, same _ _ head]
    exact ih

/-- The same for loops whose steps can fail. -/
lemma foldlM_eq_of_forall₂ {δ : Type v} {step : β → γ → Except ε β} {other : β → δ → Except ε β}
    {r : γ → δ → Prop} {images : List δ} (related : List.Forall₂ r all images)
    (same : ∀ head image, r head image → ∀ state, step state head = other state image) :
    all.foldlM step start = images.foldlM other start := by
  induction related generalizing start with
  | nil => rfl
  | cons head _ ih =>
    rw [List.foldlM_cons, List.foldlM_cons, same _ _ head]
    exact congrArg (other start _ >>= ·) (funext fun state => ih)

/-- In a list without repeated keys, a key is none of those before it. -/
lemma not_mem_keys_of_append_cons {κ α : Type v} {all done tail : List (κ × α)} {head : κ × α}
    (nodup : (all.map Prod.fst).Nodup) (split : done ++ head :: tail = all) :
    head.1 ∉ done.map Prod.fst := by
  rw [← split, List.map_append] at nodup
  intro mem
  exact (List.nodup_append.1 nodup).2.2 head.1 mem head.1 (by simp) rfl

end Loops

end KubeSchema

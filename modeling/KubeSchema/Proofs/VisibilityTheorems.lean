import KubeSchema.Proofs.CompileTheorems
import Mathlib.Data.List.Perm.Subperm

/-!
# Definitions that are passed over are not seen

A compilation looks up a definition only after it has made sure that its name is kept: in the first
loop, at every step along a chain of aliases, and for the properties of a model. So two documents
that agree on the names kept (`AgreeOnKept`) compile alike, whatever else they define. The bound on
the length of a chain counts all definitions and differs between the two; `Met` shows that it is
never reached.
-/

namespace KubeSchema

namespace Resolution

variable {options : Options} {left right : Table String Definition}

/-- Two tables have the same definitions under the names that are kept. -/
def AgreeOnKept (options : Options) (left right : Table String Definition) : Prop :=
  ∀ name, options.isIgnored name = false → left.lookup? name = right.lookup? name

/-- The definitions whose names are kept. -/
def kept (options : Options) (entries : List (String × Definition)) : List (String × Definition) :=
  entries.filter fun entry => !options.isIgnored entry.1

lemma mem_kept {entries : List (String × Definition)} {entry : String × Definition} :
    entry ∈ kept options entries ↔ entry ∈ entries ∧ options.isIgnored entry.1 = false := by
  simp [kept]

/-- Tables that agree list the same definitions, in the same order. -/
lemma AgreeOnKept.kept_eq (agree : AgreeOnKept options left right) :
    kept options left.entries = kept options right.entries := by
  refine entries_eq_of_sorted_of_mem_iff (left.sorted.filter _) (right.sorted.filter _) ?_
  intro entry
  show entry ∈ kept options left.entries ↔ entry ∈ kept options right.entries
  rw [mem_kept, mem_kept]
  refine and_congr_left fun visible => ?_
  rw [← Table.lookup?_eq_some_iff, ← Table.lookup?_eq_some_iff, agree entry.1 visible]

lemma AgreeOnKept.nextName?_eq (agree : AgreeOnKept options left right) {name : String}
    (visible : options.isIgnored name = false) : nextName? left name = nextName? right name := by
  rw [nextName?, nextName?, agree name visible]

lemma AgreeOnKept.contains_eq (agree : AgreeOnKept options left right) {name : String}
    (visible : options.isIgnored name = false) : left.contains name = right.contains name := by
  rw [Table.contains, Table.contains, agree name visible]

/-! ## The first loop -/

/-- A definition that is passed over changes nothing in the first loop. -/
lemma visit_of_isIgnored {progress : Progress} {entry : String × Definition}
    (ignored : options.isIgnored entry.1 = true) :
    visit options progress entry = .ok progress := by
  rw [visit, if_pos ignored]

/-- The first loop depends on the definitions kept only. -/
lemma foldlM_visit_kept (entries : List (String × Definition)) (progress : Progress) :
    entries.foldlM (visit options) progress
      = (kept options entries).foldlM (visit options) progress := by
  refine foldlM_filter_of_skip fun state entry skipped => visit_of_isIgnored ?_
  simpa using skipped

/-! ## Chains of aliases -/

/-- The names that a chain has met: each of them is defined and kept, and none is listed twice. -/
structure Met (definitions : Table String Definition) (options : Options) (met : List String) :
    Prop where
  nodup : met.Nodup
  isDefined : ∀ name ∈ met, definitions.contains name = true
  visible : ∀ name ∈ met, options.isIgnored name = false

namespace Met

variable {definitions : Table String Definition} {met : List String} {name : String}

lemma single (found : definitions.contains name = true) (visible : options.isIgnored name = false) :
    Met definitions options [name] := by
  refine ⟨List.nodup_singleton name, fun other mem => ?_, fun other mem => ?_⟩
  · rwa [List.mem_singleton.1 mem]
  · rwa [List.mem_singleton.1 mem]

lemma cons (names : Met definitions options met) (found : definitions.contains name = true)
    (visible : options.isIgnored name = false) (new : name ∉ met) :
    Met definitions options (name :: met) := by
  refine ⟨List.nodup_cons.2 ⟨new, names.nodup⟩, fun other mem => ?_, fun other mem => ?_⟩
  · rcases List.mem_cons.1 mem with rfl | mem
    · exact found
    · exact names.isDefined other mem
  · rcases List.mem_cons.1 mem with rfl | mem
    · exact visible
    · exact names.visible other mem

/-- A chain has met no more names than there are definitions. -/
lemma length_le (names : Met definitions options met) : met.length ≤ definitions.size := by
  have listed : met ⊆ definitions.keys := fun name mem =>
    definitions.contains_iff_mem_keys.1 (names.isDefined name mem)
  have := (names.nodup.subperm listed).length_le
  rwa [Table.keys, List.length_map] at this

end Met

/-- Chains through tables that agree have the same outcome, as long as both may take more steps than
there are definitions left to meet. -/
lemma follow_eq (agree : AgreeOnKept options left right) {start : String} {stepsLeft : Nat} :
    ∀ {stepsRight : Nat} {met : List String} {current : String}, current ∈ met →
      Met left options met → Met right options met →
      left.size < stepsLeft + met.length → right.size < stepsRight + met.length →
      follow left options start stepsLeft met current
        = follow right options start stepsRight met current := by
  induction stepsLeft with
  | zero =>
    intro stepsRight met current mem metLeft metRight enoughLeft
    have := metLeft.length_le
    omega
  | succ stepsLeft ih =>
    intro stepsRight met current mem metLeft metRight enoughLeft enoughRight
    cases stepsRight with
    | zero =>
      have := metRight.length_le
      omega
    | succ stepsRight =>
      rw [follow, follow, agree.nextName?_eq (metLeft.visible current mem)]
      cases nextName? right current with
      | none => rfl
      | some next =>
        -- the name is looked up only if it is kept, and then both tables have it or neither has
        cases visible : options.isIgnored next with
        | true => simp only [visible, if_true]
        | false =>
          simp only [visible, Bool.false_eq_true, if_false, agree.contains_eq visible]
          cases found : right.contains next with
          | false => simp only [Bool.not_false, if_true]
          | true =>
            simp only [Bool.not_true, Bool.false_eq_true, if_false]
            split
            · rfl
            · next fresh =>
              have new : next ∉ met := by simpa using fresh
              have foundLeft : left.contains next = true := (agree.contains_eq visible).trans found
              refine ih List.mem_cons_self (metLeft.cons foundLeft visible new)
                (metRight.cons found visible new) ?_ ?_
              · rw [List.length_cons]
                omega
              · rw [List.length_cons]
                omega

lemma chainEnd_eq (agree : AgreeOnKept options left right) {name : String}
    (visible : options.isIgnored name = false) (found : left.contains name = true) :
    chainEnd left options name = chainEnd right options name := by
  have foundRight : right.contains name = true := (agree.contains_eq visible).symm.trans found
  refine follow_eq agree (List.mem_singleton.2 rfl) (.single found visible)
    (.single foundRight visible) ?_ ?_
  · rw [List.length_singleton]
    omega
  · rw [List.length_singleton]
    omega

/-! ## The first pass -/

/-- The aliases that are bound are kept and defined. -/
lemma isDefined_of_mem_keptAliases {definitions : Table String Definition} {name : String}
    (mem : name ∈ keptAliases options definitions.entries) :
    options.isIgnored name = false ∧ definitions.contains name = true := by
  obtain ⟨visible, definition, listed, -⟩ := mem_keptAliases.1 mem
  refine ⟨visible, definitions.contains_iff_mem_keys.2 ?_⟩
  exact List.mem_map.2 ⟨(name, definition), listed, rfl⟩

theorem resolveAll_eq (agree : AgreeOnKept options left right) :
    resolveAll left options = resolveAll right options := by
  have first : left.entries.foldlM (visit options) Progress.start
      = right.entries.foldlM (visit options) Progress.start := by
    rw [foldlM_visit_kept, agree.kept_eq, ← foldlM_visit_kept]
  rw [resolveAll, resolveAll, ← first]
  cases hvisits : left.entries.foldlM (visit options) Progress.start with
  | error error => rfl
  | ok progress =>
    show progress.aliases.foldlM (bindAlias left options) progress.graph
      = progress.aliases.foldlM (bindAlias right options) progress.graph
    refine foldlM_congr fun name mem graph => ?_
    rw [(shells_of_foldlM_visit hvisits).aliases] at mem
    obtain ⟨visible, found⟩ := isDefined_of_mem_keptAliases mem
    rw [bindAlias, bindAlias, chainEnd_eq agree visible found]

end Resolution

/-! ## The second pass -/

namespace Compile

open Resolution (AgreeOnKept)

/-- The properties of models whose names are kept depend on the definitions kept only. -/
lemma modelProperties_eq {options : Options} {left right : Table String Definition}
    (agree : AgreeOnKept options left right) {models : List Model}
    (visible : ∀ model ∈ models, options.isIgnored model.definitionName = false)
    (registry : Registry) :
    modelProperties left registry models = modelProperties right registry models := by
  induction models generalizing registry with
  | nil => rfl
  | cons model rest ih =>
    have visibleRest : ∀ other ∈ rest, options.isIgnored other.definitionName = false :=
      fun other mem => visible other (List.mem_cons_of_mem _ mem)
    have tail := fun registry => ih visibleRest registry
    rw [modelProperties, modelProperties, agree _ (visible model List.mem_cons_self)]
    simp only [tail]

/-- The models of the first pass have names that are kept. -/
lemma isIgnored_of_resolveAll {definitions : Table String Definition} {options : Options}
    {graph : Graph} (h : resolveAll definitions options = .ok graph) {model : Model}
    (mem : model ∈ graph.models) : options.isIgnored model.definitionName = false := by
  obtain ⟨entry, hentry, stands⟩ :=
    exists_of_forall₂ (Resolution.resolved_of_resolveAll h).models mem
  rw [stands.definitionName]
  exact (Resolution.mem_keptModels.1 hentry).2.1

end Compile

/-! ## Compilations -/

/-- **Definitions that are passed over are not seen.** Documents with the same paths that agree on
every name kept have the same outcome: the same graph, registry and bindings, or the same error. -/
theorem compile_eq_of_agreeOnKept {left right : Document} {options : Options}
    (agree : ∀ name, options.isIgnored name = false →
      left.definitions.lookup? name = right.definitions.lookup? name)
    (paths : left.paths = right.paths) : compile left options = compile right options := by
  have first := Resolution.resolveAll_eq agree
  rw [compile, compile, ← first, ← paths]
  cases resolved : resolveAll left.definitions options with
  | error error => rfl
  | ok graph =>
    have visible : ∀ model ∈ graph.models, options.isIgnored model.definitionName = false :=
      fun model mem => Compile.isIgnored_of_resolveAll resolved mem
    have second := Compile.modelProperties_eq agree visible (Compile.bindNames graph)
    simp only [bind, Except.bind, second]

/-- The small document, but with two of the definitions passed over leading in a circle. -/
def circledDocument : Document :=
  { sampleDocument with
    definitions := (sampleDocument.definitions.insert WellKnown.time
      { reference := some (definitionsLead ++ WellKnown.quantity) }).insert WellKnown.quantity
        { reference := some (definitionsLead ++ WellKnown.time) } }

theorem compile_eq_of_agreeOnKept_of_sample : ∃ compiled,
    compile sampleDocument .standard = .ok compiled ∧
    compile circledDocument .standard = .ok compiled := by
  obtain ⟨compiled, h⟩ := exists_compile_sampleDocument
  have agree : ∀ name, Options.standard.isIgnored name = false →
      sampleDocument.definitions.lookup? name = circledDocument.definitions.lookup? name := by
    intro name visible
    have notQuantity : name ≠ WellKnown.quantity := by
      rintro rfl
      revert visible
      decide
    have notTime : name ≠ WellKnown.time := by
      rintro rfl
      revert visible
      decide
    rw [circledDocument, Table.lookup?_insert_of_ne _ notQuantity,
      Table.lookup?_insert_of_ne _ notTime]
  exact ⟨compiled, h, (compile_eq_of_agreeOnKept agree rfl).symm.trans h⟩

end KubeSchema

import KubeSchema.Proofs.HistoryTheorems

/-!
# Operations are bound or skipped

Binding goes through the operations of a document one by one, in order of path and verb
(`ofPaths_eq`). An operation says which type it acts on and what it does (`Binds`), or a first check
of it fails (`Fails`), and never both. `Records` is the invariant of the loop: the table lists
exactly the operations of the first kind among those met so far, and the others are set aside in
order. `Accounts` says the same of the whole document, without the loop.
-/

namespace KubeSchema

/-! ## Operations -/

/-- A value under a verb of a path. -/
structure PathOperation where
  path : String
  verb : String
  node : Json

namespace PathOperation

/-- A document lists an operation: the value stands there under a verb that is not the one for
parameters. -/
structure IsListed (paths : Table String PathItem) (path verb : String) (node : Json) : Prop where
  found : ∃ item, paths.lookup? path = some item ∧ item.lookup? verb = some node
  notParameters : verb ≠ Bindings.parametersVerb

/-- In order of path, and of verb under one path. -/
def Before (first second : String × String) : Prop :=
  compare first.1 second.1 = .lt ∨ first.1 = second.1 ∧ compare first.2 second.2 = .lt

/-- The operations under one path, in order of verb. -/
def ofItem (path : String) (item : PathItem) : List PathOperation :=
  (item.entries.filter fun entry => entry.1 ≠ Bindings.parametersVerb).map fun entry =>
    ⟨path, entry.1, entry.2⟩

/-- The operations of a document, in order. -/
def all (paths : Table String PathItem) : List PathOperation :=
  paths.entries.flatMap fun entry => ofItem entry.1 entry.2

variable {paths : Table String PathItem} {path verb : String} {node : Json}

lemma mem_ofItem {item : PathItem} {operation : PathOperation} :
    operation ∈ ofItem path item ↔ operation.path = path ∧
      item.lookup? operation.verb = some operation.node ∧
      operation.verb ≠ Bindings.parametersVerb := by
  unfold ofItem
  rw [List.mem_map]
  constructor
  · rintro ⟨⟨verb, node⟩, mem, rfl⟩
    have mem := List.mem_filter.1 mem
    exact ⟨rfl, item.lookup?_eq_some_iff.2 mem.1, by simpa using mem.2⟩
  · intro ⟨hpath, found, notParameters⟩
    have mem := item.lookup?_eq_some_iff.1 found
    exact ⟨(operation.verb, operation.node), List.mem_filter.2 ⟨mem, by simpa using notParameters⟩,
      by rw [← hpath]⟩

lemma IsListed.unique {other : Json} (first : IsListed paths path verb node)
    (second : IsListed paths path verb other) : node = other := by
  obtain ⟨item, hitem, found⟩ := first.found
  obtain ⟨again, hagain, foundAgain⟩ := second.found
  rw [hitem] at hagain
  cases hagain
  rw [found] at foundAgain
  exact Option.some.inj foundAgain

lemma mem_all :
    (⟨path, verb, node⟩ : PathOperation) ∈ all paths ↔ IsListed paths path verb node := by
  unfold all
  rw [List.mem_flatMap]
  constructor
  · rintro ⟨⟨other, item⟩, mem, listed⟩
    obtain ⟨rfl, found, notParameters⟩ := mem_ofItem.1 listed
    exact ⟨⟨item, paths.lookup?_eq_some_iff.2 mem, found⟩, notParameters⟩
  · intro ⟨⟨item, hitem, found⟩, notParameters⟩
    exact ⟨(path, item), paths.lookup?_eq_some_iff.1 hitem,
      mem_ofItem.2 ⟨rfl, found, notParameters⟩⟩

/-- The operations are listed in strict order. -/
lemma all_sorted (paths : Table String PathItem) :
    (all paths).Pairwise fun a b => Before (a.path, a.verb) (b.path, b.verb) := by
  unfold all
  rw [List.pairwise_flatMap]
  constructor
  · intro entry _
    unfold ofItem
    rw [List.pairwise_map]
    have sorted := entry.2.sorted.filter fun entry => decide (entry.1 ≠ Bindings.parametersVerb)
    exact sorted.imp fun lt => .inr ⟨rfl, lt⟩
  · refine paths.sorted.imp fun {first second} lt a ha b hb => ?_
    have hfirst := (mem_ofItem.1 ha).1
    have hsecond := (mem_ofItem.1 hb).1
    left
    show compare a.path b.path = .lt
    rw [hfirst, hsecond]
    exact lt

lemma Before.ne {first second : String × String} (h : Before first second) : first ≠ second := by
  rintro rfl
  rcases h with lt | ⟨-, lt⟩
  · simp [Std.ReflCmp.compare_self] at lt
  · simp [Std.ReflCmp.compare_self] at lt

end PathOperation

open PathOperation (IsListed Before)

namespace Bindings

/-! ## What an operation says -/

/-- A value is an object that shapes as an operation, which names the type and the action. -/
structure Binds (node : Json) (gvk : Gvk) (action : Action) : Prop where
  object : ∃ members, node = .object members
  shaped : ∃ operation tag, Operation.ofJson node = .ok operation ∧ operation.gvk = some gvk ∧
    operation.action = some tag ∧ Action.parse tag = action

/-- The first check of a value that fails. -/
inductive Fails (node : Json) : SkipReason → Prop
  | notAnObject (other : ∀ members, node ≠ .object members) : Fails node (.notAnObject node)
  | malformed {members : List (String × Json)} {error : ShapeError}
    (object : node = .object members) (unfit : Operation.ofJson node = .error error) :
    Fails node (.malformed error)
  | noGvk {members : List (String × Json)} {operation : Operation} (object : node = .object members)
    (shaped : Operation.ofJson node = .ok operation) (missing : operation.gvk = none) :
    Fails node .noGvk
  | noAction {members : List (String × Json)} {operation : Operation} {gvk : Gvk}
    (object : node = .object members) (shaped : Operation.ofJson node = .ok operation)
    (found : operation.gvk = some gvk) (missing : operation.action = none) : Fails node .noAction

variable {node : Json} {gvk : Gvk} {action : Action} {reason : SkipReason}

/-- The target of a value is found by the checks, in their order. -/
lemma target_cases (node : Json) :
    (∃ gvk action, target node = .ok (gvk, action) ∧ Binds node gvk action) ∨
      ∃ reason, target node = .error reason ∧ Fails node reason := by
  unfold target
  split
  · next members =>
    split
    · next error unfit => exact .inr ⟨_, rfl, .malformed rfl unfit⟩
    · next operation shaped =>
      split
      · next missing => exact .inr ⟨_, rfl, .noGvk rfl shaped missing⟩
      · next found missing => exact .inr ⟨_, rfl, .noAction rfl shaped found missing⟩
      · next gvk tag found hasAction =>
        exact .inl ⟨gvk, _, rfl, ⟨members, rfl⟩, operation, tag, shaped, found, hasAction, rfl⟩
  · next other => exact .inr ⟨_, rfl, .notAnObject other⟩

theorem target_eq_ok_iff : target node = .ok (gvk, action) ↔ Binds node gvk action := by
  constructor
  · intro h
    obtain ⟨other, second, found, binds⟩ | ⟨reason, failed, -⟩ := target_cases node
    · rw [h] at found
      cases found
      exact binds
    · rw [h] at failed
      cases failed
  · intro ⟨⟨members, object⟩, operation, tag, shaped, hasGvk, hasAction, parsed⟩
    subst object
    simp only [target, shaped, hasGvk, hasAction, parsed]

theorem target_eq_error_iff : target node = .error reason ↔ Fails node reason := by
  constructor
  · intro h
    obtain ⟨gvk, action, found, -⟩ | ⟨other, failed, fails⟩ := target_cases node
    · rw [h] at found
      cases found
    · rw [h] at failed
      cases failed
      exact fails
  · intro fails
    cases fails with
    | notAnObject other =>
      unfold target
      split
      · next members => exact absurd rfl (other members)
      · rfl
    | malformed object unfit =>
      subst object
      simp only [target, unfit]
    | noGvk object shaped missing =>
      subst object
      simp only [target, shaped, missing]
    | noAction object shaped found missing =>
      subst object
      simp only [target, shaped, found, missing]

/-- A value binds, or else a check of it fails. -/
lemma not_binds_iff : (∀ gvk action, ¬ Binds node gvk action) ↔ ∃ reason, Fails node reason := by
  simp only [← target_eq_ok_iff, ← target_eq_error_iff]
  rcases target node with reason | ⟨gvk, action⟩ <;> simp

/-! ## The table -/

/-- The table lists a path for a type and an action. -/
def Holds (bindings : Bindings) (gvk : Gvk) (action : Action) (path : String) : Prop :=
  ∃ row paths, bindings.actionsOf? gvk = some row ∧ row.lookup? action = some paths ∧
    paths.contains path = true

/-- No row of the table is empty, and no set of paths in a row. -/
structure IsFilled (bindings : Bindings) : Prop where
  rows : ∀ gvk row, bindings.actionsOf? gvk = some row → row.isEmpty = false
  sets : ∀ gvk row action paths, bindings.actionsOf? gvk = some row →
    row.lookup? action = some paths → paths.isEmpty = false

/-- The paths listed for a type and an action. -/
def pathsOf (bindings : Bindings) (gvk : Gvk) (action : Action) : NameSet :=
  (((bindings.actionsOf? gvk).getD Table.empty).lookup? action).getD Table.empty

variable {bindings : Bindings} {other : Gvk} {second : Action} {path found : String}

lemma holds_iff : bindings.Holds gvk action path ↔
    (bindings.pathsOf gvk action).contains path = true := by
  unfold Holds pathsOf
  constructor
  · intro ⟨row, paths, hrow, hpaths, listed⟩
    rw [hrow, Option.getD_some, hpaths, Option.getD_some]
    exact listed
  · intro listed
    cases hrow : bindings.actionsOf? gvk with
    | none =>
      rw [hrow] at listed
      cases listed
    | some row =>
      rw [hrow, Option.getD_some] at listed
      cases hpaths : row.lookup? action with
      | none =>
        rw [hpaths] at listed
        cases listed
      | some paths =>
        rw [hpaths, Option.getD_some] at listed
        exact ⟨row, paths, rfl, hpaths, listed⟩

lemma actionsOf?_bind_self : (bindings.bind gvk action path).actionsOf? gvk =
    some (((bindings.actionsOf? gvk).getD Table.empty).insert action
      ((bindings.pathsOf gvk action).insert path ())) :=
  bindings.table.lookup?_insert_self _

lemma actionsOf?_bind_of_ne (h : other ≠ gvk) :
    (bindings.bind gvk action path).actionsOf? other = bindings.actionsOf? other :=
  bindings.table.lookup?_insert_of_ne h

/-- Binding an operation lists its path for its type and action, and nothing else. -/
lemma holds_bind_iff : (bindings.bind gvk action path).Holds other second found ↔
    (other = gvk ∧ second = action ∧ found = path) ∨ bindings.Holds other second found := by
  rw [holds_iff, holds_iff, pathsOf]
  by_cases sameGvk : other = gvk
  · subst sameGvk
    rw [actionsOf?_bind_self, Option.getD_some]
    by_cases sameAction : second = action
    · subst sameAction
      rw [Table.lookup?_insert_self, Option.getD_some, Table.contains_insert_iff]
      simp
    · rw [Table.lookup?_insert_of_ne _ sameAction]
      simp [sameAction, pathsOf]
  · rw [actionsOf?_bind_of_ne sameGvk]
    simp [sameGvk, pathsOf]

lemma IsFilled.bind (filled : bindings.IsFilled) :
    (bindings.bind gvk action path).IsFilled := by
  constructor
  · intro other row hrow
    by_cases same : other = gvk
    · subst same
      rw [actionsOf?_bind_self] at hrow
      cases hrow
      exact Table.isEmpty_insert _
    · rw [actionsOf?_bind_of_ne same] at hrow
      exact filled.rows other row hrow
  · intro other row second paths hrow hpaths
    by_cases same : other = gvk
    · subst same
      rw [actionsOf?_bind_self] at hrow
      cases hrow
      rcases (Table.lookup?_insert_eq_some_iff _).1 hpaths with ⟨-, rfl⟩ | ⟨-, hpaths⟩
      · exact Table.isEmpty_insert _
      · -- another set of the row was there before, so the row was
        cases hbefore : bindings.actionsOf? other with
        | none =>
          rw [hbefore] at hpaths
          cases hpaths
        | some before =>
          rw [hbefore] at hpaths
          exact filled.sets other before second paths hbefore hpaths
    · rw [actionsOf?_bind_of_ne same] at hrow
      exact filled.sets other row second paths hrow hpaths

/-! ## The loop -/

/-- Takes one operation into account. -/
def record (bindings : Bindings) (operation : PathOperation) : Bindings :=
  match target operation.node with
  | .ok (gvk, action) => bindings.bind gvk action operation.path
  | .error reason => bindings.skip operation.path operation.verb reason

/-- Binding goes through the operations in order. -/
lemma ofPaths_eq (paths : Table String PathItem) :
    ofPaths paths = (PathOperation.all paths).foldl record {} := by
  unfold ofPaths PathOperation.all
  rw [List.foldl_flatMap]
  congr 1
  funext bindings ⟨path, item⟩
  unfold PathOperation.ofItem
  rw [List.foldl_map, List.foldl_filter]
  show item.entries.foldl (visit path) bindings = item.entries.foldl _ bindings
  congr 1
  funext bindings ⟨verb, node⟩
  by_cases isParameters : verb = parametersVerb
  · simp [visit, isParameters]
  · have kept : decide (verb ≠ parametersVerb) = true := by simpa using isParameters
    rw [if_pos kept]
    exact if_neg isParameters

/-- How an operation is set aside, unless it binds. -/
def skipped? (operation : PathOperation) : Option SkippedOperation :=
  match target operation.node with
  | .ok _ => none
  | .error reason => some ⟨operation.path, operation.verb, reason⟩

lemma skipped?_eq_some_iff {operation : PathOperation} {skipped : SkippedOperation} :
    skipped? operation = some skipped ↔ operation.path = skipped.path ∧
      operation.verb = skipped.verb ∧ Fails operation.node skipped.reason := by
  unfold skipped?
  rw [← target_eq_error_iff]
  obtain ⟨path, verb, reason⟩ := skipped
  cases target operation.node with
  | ok found => simp
  | error other => simp

/-- After some operations, the table lists the paths of those that bind, and the others have been
set aside in order. -/
structure Records (done : List PathOperation) (bindings : Bindings) : Prop where
  holds : ∀ gvk action path, bindings.Holds gvk action path ↔
    ∃ operation ∈ done, operation.path = path ∧ Binds operation.node gvk action
  skipped : bindings.skipped = done.filterMap skipped?
  filled : bindings.IsFilled

lemma records_nil : Records [] {} where
  holds gvk action path := by
    constructor
    · rintro ⟨row, paths, hrow, -⟩
      cases hrow
    · rintro ⟨operation, mem, -⟩
      cases mem
  skipped := rfl
  filled := ⟨fun gvk row hrow => (by cases hrow), fun gvk row action paths hrow => (by cases hrow)⟩

/-- One operation more may list its own path. -/
lemma exists_mem_concat_iff {done : List PathOperation} {operation : PathOperation} :
    (∃ met ∈ done ++ [operation], met.path = path ∧ Binds met.node gvk action) ↔
      (∃ met ∈ done, met.path = path ∧ Binds met.node gvk action) ∨
        operation.path = path ∧ Binds operation.node gvk action := by
  constructor
  · rintro ⟨met, mem, holds⟩
    rcases List.mem_append.1 mem with mem | mem
    · exact .inl ⟨met, mem, holds⟩
    · obtain rfl := List.mem_singleton.1 mem
      exact .inr holds
  · rintro (⟨met, mem, holds⟩ | holds)
    · exact ⟨met, List.mem_append_left _ mem, holds⟩
    · exact ⟨operation, List.mem_append_right _ List.mem_cons_self, holds⟩

/-- One operation more. -/
lemma Records.record {done : List PathOperation} (records : Records done bindings)
    (operation : PathOperation) : Records (done ++ [operation]) (bindings.record operation) := by
  unfold Bindings.record
  cases htarget : target operation.node with
  | ok found =>
    obtain ⟨gvk, action⟩ := found
    have binds : ∀ other second, Binds operation.node other second ↔
        other = gvk ∧ second = action := by
      intro other second
      rw [← target_eq_ok_iff, htarget]
      simp [eq_comm]
    refine ⟨fun other second path => ?_, ?_, records.filled.bind⟩
    · rw [exists_mem_concat_iff, binds, ← records.holds, or_comm]
      show (bindings.bind gvk action operation.path).Holds other second path ↔ _
      rw [holds_bind_iff]
      exact or_congr ⟨fun ⟨sameGvk, sameAction, samePath⟩ => ⟨samePath.symm, sameGvk, sameAction⟩,
        fun ⟨samePath, sameGvk, sameAction⟩ => ⟨sameGvk, sameAction, samePath.symm⟩⟩ .rfl
    · show bindings.skipped = _
      rw [List.filterMap_append, ← records.skipped]
      simp [skipped?, htarget]
  | error reason =>
    have fails : ∀ gvk action, ¬ Binds operation.node gvk action :=
      not_binds_iff.2 ⟨reason, target_eq_error_iff.1 htarget⟩
    refine ⟨fun other second path => ?_, ?_, ⟨records.filled.rows, records.filled.sets⟩⟩
    · rw [exists_mem_concat_iff, ← records.holds]
      exact (or_iff_left fun own => fails other second own.2).symm
    · show bindings.skipped ++ [⟨operation.path, operation.verb, reason⟩] = _
      rw [List.filterMap_append, ← records.skipped]
      simp [skipped?, htarget]

lemma records_ofPaths (paths : Table String PathItem) :
    Records (PathOperation.all paths) (ofPaths paths) := by
  rw [ofPaths_eq]
  apply foldl_invariant Records records_nil
  intro done operation tail _ bindings records
  exact records.record operation

/-! ## The whole document -/

/-- The places of the operations that were set aside. -/
def places (bindings : Bindings) : List (String × String) :=
  bindings.skipped.map fun skipped => (skipped.path, skipped.verb)

/-- What the bindings of a document say of its operations. -/
structure Accounts (paths : Table String PathItem) (bindings : Bindings) : Prop where
  /-- An operation is set aside unless it binds. -/
  bound : ∀ path verb node, IsListed paths path verb node →
    ((path, verb) ∉ bindings.places ↔ ∃ gvk action, Binds node gvk action)
  once : ∀ path verb node, IsListed paths path verb node →
    (∀ gvk action, ¬ Binds node gvk action) → bindings.places.count (path, verb) = 1
  /-- What is set aside is an operation, with the first check of it that fails. -/
  skipped : ∀ path verb reason, ⟨path, verb, reason⟩ ∈ bindings.skipped ↔
    ∃ node, IsListed paths path verb node ∧ Fails node reason
  sorted : bindings.places.Pairwise Before
  /-- The table lists the paths of the operations that bind, and no others. -/
  table : ∀ gvk action path, bindings.Holds gvk action path ↔
    ∃ verb node, IsListed paths path verb node ∧ Binds node gvk action
  filled : bindings.IsFilled

lemma mem_skipped_ofPaths_iff {paths : Table String PathItem} {path verb : String}
    {reason : SkipReason} : ⟨path, verb, reason⟩ ∈ (ofPaths paths).skipped ↔
      ∃ node, IsListed paths path verb node ∧ Fails node reason := by
  rw [(records_ofPaths paths).skipped, List.mem_filterMap]
  constructor
  · rintro ⟨⟨path, verb, node⟩, mem, skipped⟩
    obtain ⟨rfl, rfl, fails⟩ := skipped?_eq_some_iff.1 skipped
    exact ⟨node, PathOperation.mem_all.1 mem, fails⟩
  · rintro ⟨node, listed, fails⟩
    exact ⟨⟨path, verb, node⟩, PathOperation.mem_all.2 listed,
      skipped?_eq_some_iff.2 ⟨rfl, rfl, fails⟩⟩

lemma places_ofPaths_sorted (paths : Table String PathItem) :
    (ofPaths paths).places.Pairwise Before := by
  unfold places
  rw [(records_ofPaths paths).skipped, List.pairwise_map]
  refine (PathOperation.all_sorted paths).filterMap skipped? ?_
  intro first second before left hleft right hright
  obtain ⟨hpath, hverb, -⟩ := skipped?_eq_some_iff.1 hleft
  obtain ⟨hother, hsecond, -⟩ := skipped?_eq_some_iff.1 hright
  rwa [hpath, hverb, hother, hsecond] at before

/-- An operation is set aside exactly when a check of it fails. -/
lemma mem_places_ofPaths_iff {paths : Table String PathItem} {path verb : String} {node : Json}
    (listed : IsListed paths path verb node) :
    (path, verb) ∈ (ofPaths paths).places ↔ ∃ reason, Fails node reason := by
  unfold places
  rw [List.mem_map]
  constructor
  · rintro ⟨⟨_, _, reason⟩, mem, same⟩
    cases same
    obtain ⟨found, again, fails⟩ := mem_skipped_ofPaths_iff.1 mem
    rw [listed.unique again]
    exact ⟨reason, fails⟩
  · rintro ⟨reason, fails⟩
    exact ⟨⟨path, verb, reason⟩, mem_skipped_ofPaths_iff.2 ⟨node, listed, fails⟩, rfl⟩

lemma accounts_ofPaths (paths : Table String PathItem) : (ofPaths paths).Accounts paths := by
  have records := records_ofPaths paths
  have sorted := places_ofPaths_sorted paths
  have nodup : (ofPaths paths).places.Nodup := sorted.imp Before.ne
  refine ⟨fun path verb node listed => ?_, fun path verb node listed unbound => ?_,
    fun path verb reason => mem_skipped_ofPaths_iff, sorted, fun gvk action path => ?_,
    records.filled⟩
  · rw [mem_places_ofPaths_iff listed, ← not_binds_iff]
    simp
  · have mem := (mem_places_ofPaths_iff listed).2 (not_binds_iff.1 unbound)
    exact List.count_eq_one_of_mem nodup mem
  · rw [records.holds]
    constructor
    · rintro ⟨⟨path, verb, node⟩, mem, rfl, binds⟩
      exact ⟨verb, node, PathOperation.mem_all.1 mem, binds⟩
    · rintro ⟨verb, node, listed, binds⟩
      exact ⟨⟨path, verb, node⟩, PathOperation.mem_all.2 listed, rfl, binds⟩

/-- **Operations.** Each operation of a document is bound or set aside, once and not both, for the
reason that its value gives; the table lists the paths of exactly those that are bound, without
empty rows. A model of a compilation has the operations of the row of its type. -/
theorem ofPaths_accounts (paths : Table String PathItem) :
    (ofPaths paths).Accounts paths ∧
    ∀ definitions options compiled, compile ⟨definitions, paths⟩ options = .ok compiled →
      ∀ model : Model, compiled.operationsFor? model =
        (ofPaths paths).actionsOf? ⟨model.group, model.apiVersion, model.kind⟩ := by
  refine ⟨accounts_ofPaths paths, fun definitions options compiled h model => ?_⟩
  obtain ⟨-, -, -, -, -, -, -, bindings⟩ := Compile.exists_steps_of_compile h
  unfold CompiledSchema.operationsFor?
  rw [bindings]
  rfl

/-- The type of pods. -/
def podGvk : Gvk := ⟨"", "v1", "Pod"⟩

/-- The value of an operation on pods, with a tag if one is given. -/
def podOperation (tag : Option String) : Json :=
  .object <|
    (tag.map fun tag => ("x-kubernetes-action", .string tag)).toList ++
    [("x-kubernetes-group-version-kind", .object [("kind", .string "Pod"),
      ("version", .string "v1")])]

/-- Paths with operations that bind, two of them for the same action under different tags, and with
one operation for each check that can fail. -/
def podPaths : Table String PathItem :=
  .ofList [
    ("/pods", .ofList [("parameters", .array []), ("get", podOperation (some "list")),
      ("post", podOperation (some "POST")), ("head", .string "none"), ("put", podOperation none)]),
    ("/pods/new", .ofList [("post", podOperation (some "create")),
      ("trace", .object [("x-kubernetes-action", .integer 1)]),
      ("watch", .object [("x-kubernetes-action", .string "watch")])])]

/-- A document with a model for pods. -/
def podDocument : Document where
  definitions := .ofList [("io.k8s.api.core.v1.Pod", { gvks := [podGvk] })]
  paths := podPaths

theorem ofPaths_accounts_of_pods : ∃ compiled model,
    compile podDocument .standard = .ok compiled ∧ compiled.graph.model? ⟨0⟩ = some model ∧
    (ofPaths podPaths).Accounts podPaths ∧
    (ofPaths podPaths).places =
      [("/pods", "head"), ("/pods", "put"), ("/pods/new", "trace"), ("/pods/new", "watch")] ∧
    (compiled.operationsFor? model).map (fun row =>
        row.entries.map fun entry => (entry.1.name, entry.2.keys))
      = some [("Create", ["/pods", "/pods/new"]), ("List", ["/pods"])] := by
  have found : ((compile podDocument .standard).toOption.bind fun compiled =>
      (compiled.graph.model? ⟨0⟩).map Model.gvk) = some podGvk := by
    decide +kernel
  cases h : compile podDocument .standard with
  | error error =>
    rw [h] at found
    cases found
  | ok compiled =>
    rw [h] at found
    obtain ⟨model, hmodel, isPod⟩ := Option.map_eq_some_iff.1 found
    have accounts := ofPaths_accounts podPaths
    refine ⟨compiled, model, rfl, hmodel, accounts.1, by decide +kernel, ?_⟩
    rw [accounts.2 _ _ compiled h model]
    show ((ofPaths podPaths).actionsOf? model.gvk).map _ = _
    rw [isPod]
    decide +kernel

end Bindings

end KubeSchema

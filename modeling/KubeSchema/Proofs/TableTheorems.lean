import KubeSchema.Table
import Mathlib.Data.List.Nodup
import Mathlib.Tactic.Lemma

/-!
# Looking up in tables

`Table.lookup?` searches the entries of a sorted table, so what it finds is exactly what is listed.
The same holds of `List.lookup` once no key is listed twice; the two meet where a table's entries
are put into another order (properties in emission order). Slots and models are looked up by
position in a list that only grows.
-/

namespace KubeSchema

universe u v

/-! ## Positions -/

/-- After an addition at the end, an element is the new one or has its old position. -/
lemma getElem?_concat_eq_some_iff {α : Type u} {entries : List α} {last value : α} {index : Nat} :
    (entries ++ [last])[index]? = some value ↔
      (index = entries.length ∧ value = last) ∨ entries[index]? = some value := by
  rcases Nat.lt_trichotomy index entries.length with h | h | h
  · rw [List.getElem?_append_left h]
    simp [Nat.ne_of_lt h]
  · subst h
    simp [eq_comm]
  · rw [List.getElem?_eq_none (by simp; omega), List.getElem?_eq_none (by omega)]
    simp [Nat.ne_of_gt h]

/-! ## Association lists -/

section Assoc

variable {κ : Type u} {α : Type v} [BEq κ] [LawfulBEq κ] {entries : List (κ × α)} {key : κ}
  {value : α}

/-- Without a repeated key, looking up finds exactly the entries of the list. -/
theorem lookup_eq_some_iff_mem (nodup : (entries.map Prod.fst).Nodup) :
    entries.lookup key = some value ↔ (key, value) ∈ entries := by
  induction entries with
  | nil => simp
  | cons entry rest ih =>
    obtain ⟨k, v⟩ := entry
    obtain ⟨fresh, nodup⟩ := List.nodup_cons.1 nodup
    rw [List.lookup_cons, List.mem_cons]
    by_cases h : key = k
    · -- a later entry of the key would repeat it
      subst h
      have hrest : (key, value) ∉ rest := fun mem => fresh (List.mem_map.2 ⟨_, mem, rfl⟩)
      simp [hrest, eq_comm]
    · have hbeq : (key == k) = false := by simpa using h
      rw [hbeq]
      simp [h, ih nodup]

/-- An entry put in front is found under its own key only. -/
lemma lookup_cons_eq_some_iff {k : κ} {v : α} :
    ((k, v) :: entries).lookup key = some value ↔
      (key = k ∧ v = value) ∨ (key ≠ k ∧ entries.lookup key = some value) := by
  rw [List.lookup_cons]
  by_cases h : key = k
  · subst h
    simp
  · have hbeq : (key == k) = false := by simpa using h
    rw [hbeq]
    simp [h]

end Assoc

/-! ## Sorted keys -/

section Sorted

variable {κ : Type u} [Ord κ] [Std.OrientedOrd κ]

/-- A strictly increasing list has no repeated key. -/
lemma nodup_of_sorted {keys : List κ} (sorted : keys.Pairwise fun a b => compare a b = .lt) :
    keys.Nodup := by
  refine sorted.imp fun {a b} lt same => ?_
  rw [same] at lt
  rw [Std.OrientedCmp.gt_of_lt lt] at lt
  cases lt

/-- Two strictly increasing lists of the same keys are the same. -/
lemma eq_of_sorted_of_mem_iff {left right : List κ}
    (sortedLeft : left.Pairwise fun a b => compare a b = .lt)
    (sortedRight : right.Pairwise fun a b => compare a b = .lt)
    (h : ∀ key, key ∈ left ↔ key ∈ right) : left = right := by
  have perm := (List.perm_ext_iff_of_nodup (nodup_of_sorted sortedLeft)
    (nodup_of_sorted sortedRight)).2 h
  refine perm.eq_of_pairwise (fun a b _ _ lt gt => ?_) sortedLeft sortedRight
  -- no key is both below and above another
  rw [Std.OrientedCmp.gt_of_lt gt] at lt
  cases lt

/-- Two lists of entries with strictly increasing keys are the same if their entries are. -/
lemma entries_eq_of_sorted_of_mem_iff {α : Type v} {left right : List (κ × α)}
    (sortedLeft : left.Pairwise fun a b => compare a.1 b.1 = .lt)
    (sortedRight : right.Pairwise fun a b => compare a.1 b.1 = .lt)
    (h : ∀ entry, entry ∈ left ↔ entry ∈ right) : left = right := by
  have nodup : ∀ {entries : List (κ × α)},
      (entries.Pairwise fun a b => compare a.1 b.1 = .lt) → entries.Nodup := by
    intro entries sorted
    have keys : (entries.map Prod.fst).Pairwise fun a b => compare a b = .lt :=
      List.pairwise_map.2 sorted
    exact (nodup_of_sorted keys).of_map
  have perm := (List.perm_ext_iff_of_nodup (nodup sortedLeft) (nodup sortedRight)).2 h
  refine perm.eq_of_pairwise (fun a b _ _ lt gt => ?_) sortedLeft sortedRight
  rw [Std.OrientedCmp.gt_of_lt gt] at lt
  cases lt

end Sorted

/-- Keys in order that differ are strictly in order. -/
lemma lt_of_isLE_of_ne {κ : Type u} {order : κ → κ → Ordering} [Std.LawfulEqCmp order] {a b : κ}
    (le : (order a b).isLE = true) (ne : a ≠ b) : order a b = .lt := by
  cases same : order a b with
  | lt => rfl
  | eq => exact absurd (Std.LawfulEqCmp.eq_of_compare same) ne
  | gt =>
    rw [same] at le
    cases le

/-- Sorting puts entries into weakly increasing order of their keys. -/
lemma pairwise_isLE_mergeSort {κ : Type u} {α : Type v} {order : κ → κ → Ordering}
    [Std.TransCmp order] (key : α → κ) (entries : List α) :
    (entries.mergeSort fun a b => (order (key a) (key b)).isLE).Pairwise
      fun a b => (order (key a) (key b)).isLE = true := by
  refine List.pairwise_mergeSort (fun a b c first second => ?_) (fun a b => ?_) _
  · exact Std.TransCmp.isLE_trans first second
  · have swapped : order (key b) (key a) = (order (key a) (key b)).swap :=
      Std.OrientedCmp.eq_swap
    rw [swapped]
    cases order (key a) (key b) <;> rfl

/-- Entries without a repeated key are put into strictly increasing order of their keys. -/
lemma pairwise_lt_mergeSort {κ : Type u} {α : Type v} {order : κ → κ → Ordering}
    [Std.TransCmp order] [Std.LawfulEqCmp order] (key : α → κ) {entries : List α}
    (nodup : (entries.map key).Nodup) :
    (entries.mergeSort fun a b => (order (key a) (key b)).isLE).Pairwise
      fun a b => order (key a) (key b) = .lt := by
  have ordered : (entries.mergeSort fun a b => (order (key a) (key b)).isLE).Pairwise
      fun a b => (order (key a) (key b)).isLE = true := pairwise_isLE_mergeSort key entries
  have distinct : ((entries.mergeSort fun a b => (order (key a) (key b)).isLE).map key).Nodup :=
    ((List.mergeSort_perm entries _).map key).nodup_iff.2 nodup
  rw [List.Nodup, List.pairwise_map] at distinct
  exact (ordered.and distinct).imp fun ⟨le, ne⟩ => lt_of_isLE_of_ne le ne

/-! ## Tables -/

namespace Table

section Keys

variable {κ : Type u} {α : Type v} [Ord κ] (table : Table κ α)

lemma keys_sorted : table.keys.Pairwise fun a b => compare a b = .lt := by
  rw [keys, List.pairwise_map]
  exact table.sorted

theorem keys_nodup [Std.OrientedOrd κ] : table.keys.Nodup :=
  nodup_of_sorted table.keys_sorted

end Keys

section Lookup

variable {κ : Type u} {α : Type v} [Ord κ] [Std.LawfulEqOrd κ] (table : Table κ α) {key : κ}
  {value : α}

/-- Looking up finds exactly the listed entries. -/
theorem lookup?_eq_some_iff : table.lookup? key = some value ↔ (key, value) ∈ table.entries := by
  obtain ⟨entries, sorted⟩ := table
  simp only [lookup?]
  induction entries with
  | nil => simp
  | cons entry rest ih =>
    obtain ⟨head, tail⟩ := List.pairwise_cons.1 sorted
    obtain ⟨k, v⟩ := entry
    rw [List.find?_cons, List.mem_cons]
    by_cases h : key = k
    · -- all later keys are larger
      subst h
      have hrest : (key, value) ∉ rest := fun mem => by
        have := head _ mem
        simp [Std.ReflCmp.compare_self] at this
      simp [Std.ReflCmp.compare_self, hrest, eq_comm]
    · have hne : (compare key k == .eq) = false := by
        simpa [Std.compare_eq_iff_eq] using h
      rw [hne]
      simp [h, ih tail]

theorem contains_iff_mem_keys : table.contains key = true ↔ key ∈ table.keys := by
  rw [contains, Option.isSome_iff_exists, keys, List.mem_map]
  constructor
  · rintro ⟨v, found⟩
    exact ⟨(key, v), table.lookup?_eq_some_iff.1 found, rfl⟩
  · rintro ⟨⟨k, v⟩, mem, rfl⟩
    exact ⟨v, table.lookup?_eq_some_iff.2 mem⟩

lemma mem_keys_iff : key ∈ table.keys ↔ ∃ value, table.lookup? key = some value := by
  rw [← contains_iff_mem_keys, contains, Option.isSome_iff_exists]

lemma lookup?_eq_none_iff : table.lookup? key = none ↔ key ∉ table.keys := by
  rw [← contains_iff_mem_keys, contains]
  simp

/-- The entries in any other order are looked up alike. -/
theorem lookup_of_perm [Std.OrientedOrd κ] [BEq κ] [LawfulBEq κ] {entries : List (κ × α)}
    (perm : entries.Perm table.entries) : entries.lookup key = table.lookup? key := by
  have nodup : (entries.map Prod.fst).Nodup := (perm.map Prod.fst).nodup_iff.2 table.keys_nodup
  refine Option.ext fun v => ?_
  rw [lookup_eq_some_iff_mem nodup, lookup?_eq_some_iff, perm.mem_iff]

end Lookup

section Insertion

variable {κ : Type u} {α : Type v} [Ord κ] [Std.TransOrd κ] [Std.LawfulEqOrd κ] (table : Table κ α)
  {key : κ} {value : α}

@[simp] theorem lookup?_insert_self (other : α) :
    (table.insert key other).lookup? key = some other := by
  rw [lookup?_insert, if_pos (Std.compare_eq_iff_eq.2 rfl)]

theorem lookup?_insert_of_ne {other : κ} (h : other ≠ key) :
    (table.insert key value).lookup? other = table.lookup? other := by
  rw [lookup?_insert, if_neg (fun eq => h (Std.compare_eq_iff_eq.1 eq))]

lemma lookup?_insert_eq_some_iff {other : κ} {v : α} :
    (table.insert key value).lookup? other = some v ↔
      (other = key ∧ v = value) ∨ (other ≠ key ∧ table.lookup? other = some v) := by
  by_cases h : other = key
  · subst h
    rw [lookup?_insert_self]
    simp [eq_comm]
  · rw [lookup?_insert_of_ne _ h]
    simp [h]

lemma contains_insert_iff {other : κ} :
    (table.insert key value).contains other = true ↔ other = key ∨ table.contains other = true := by
  unfold contains
  by_cases h : other = key
  · subst h
    rw [lookup?_insert_self]
    simp
  · rw [lookup?_insert_of_ne _ h]
    simp [h]

/-- A table with an entry is not empty. -/
lemma isEmpty_insert : (table.insert key value).isEmpty = false := by
  have found : (table.insert key value).lookup? key = some value := table.lookup?_insert_self value
  have listed := (table.insert key value).lookup?_eq_some_iff.1 found
  exact List.isEmpty_eq_false_iff.2 (List.ne_nil_of_mem listed)

/-- A new key is put between the keys below it and those above it. -/
lemma exists_split_insertEntry {entries : List (κ × α)}
    (sorted : entries.Pairwise fun a b => compare a.1 b.1 = .lt)
    (new : key ∉ entries.map Prod.fst) (value : α) :
    ∃ below above, entries = below ++ above ∧
      insertEntry key value entries = below ++ (key, value) :: above ∧
      ∀ entry ∈ above, compare key entry.1 = .lt := by
  induction entries with
  | nil => exact ⟨[], [], rfl, rfl, fun entry mem => by cases mem⟩
  | cons head rest ih =>
    obtain ⟨least, tail⟩ := List.pairwise_cons.1 sorted
    rw [insertEntry]
    split
    · next lt =>
      refine ⟨[], head :: rest, rfl, rfl, fun entry mem => ?_⟩
      rcases List.mem_cons.1 mem with rfl | mem
      · exact lt
      · exact Std.TransCmp.lt_trans lt (least entry mem)
    · next eq =>
      rw [Std.compare_eq_iff_eq.1 eq] at new
      exact absurd List.mem_cons_self new
    · have newTail : key ∉ rest.map Prod.fst := fun mem => new (List.mem_cons_of_mem _ mem)
      obtain ⟨below, above, split, inserted, larger⟩ := ih tail newTail
      refine ⟨head :: below, above, ?_, ?_, larger⟩
      · rw [split, List.cons_append]
      · rw [inserted, List.cons_append]

end Insertion

end Table

end KubeSchema

/-!
# Sorted tables

A finite map whose entries are kept in strictly increasing key order, so that a table has one form
only, and listing it is listing it in order. A later insertion under the same key replaces the value.
Main statements: what `lookup?` sees after `insert`, and that the keys stay sorted.
-/

namespace KubeSchema

universe u v

/-- Puts an entry into its place in a sorted list, replacing the entry of an equal key. -/
def insertEntry {κ : Type u} {α : Type v} [Ord κ] (key : κ) (value : α) :
    List (κ × α) → List (κ × α)
  | [] => [(key, value)]
  | entry :: rest =>
    match compare key entry.1 with
    | .lt => (key, value) :: entry :: rest
    | .eq => (key, value) :: rest
    | .gt => entry :: insertEntry key value rest

/-- A finite map with strictly increasing keys. -/
structure Table (κ : Type u) (α : Type v) [Ord κ] where
  entries : List (κ × α)
  sorted : entries.Pairwise fun a b => compare a.1 b.1 = .lt
  deriving DecidableEq

namespace Table

variable {κ : Type u} {α : Type v} [Ord κ]

section Insertion

variable {bound key : κ} {value : α} {entries : List (κ × α)}

/-- A key below the new one and below all old ones is below every key after the insertion. -/
theorem lt_of_mem_insertEntry (below : compare bound key = .lt)
    (all : ∀ e ∈ entries, compare bound e.1 = .lt) :
    ∀ e ∈ insertEntry key value entries, compare bound e.1 = .lt := by
  induction entries with
  | nil => simpa [insertEntry] using below
  | cons entry rest ih =>
    intro e mem
    simp only [insertEntry] at mem
    split at mem
    · rcases List.mem_cons.1 mem with rfl | mem
      · exact below
      · exact all e mem
    · rcases List.mem_cons.1 mem with rfl | mem
      · exact below
      · exact all e (List.mem_cons_of_mem _ mem)
    · rcases List.mem_cons.1 mem with rfl | mem
      · exact all _ List.mem_cons_self
      · exact ih (fun x hx => all x (List.mem_cons_of_mem _ hx)) e mem

theorem sorted_insertEntry [Std.TransOrd κ]
    (sorted : entries.Pairwise fun a b => compare a.1 b.1 = .lt) :
    (insertEntry key value entries).Pairwise fun a b => compare a.1 b.1 = .lt := by
  induction entries with
  | nil => simp [insertEntry]
  | cons entry rest ih =>
    obtain ⟨head, tail⟩ := List.pairwise_cons.1 sorted
    simp only [insertEntry]
    split
    · next h =>
      refine List.pairwise_cons.2 ⟨fun e mem => ?_, sorted⟩
      rcases List.mem_cons.1 mem with rfl | mem
      · exact h
      · exact Std.TransCmp.lt_trans h (head e mem)
    · next h =>
      exact List.pairwise_cons.2 ⟨fun e mem => Std.TransCmp.lt_of_eq_of_lt h (head e mem), tail⟩
    · next h =>
      exact List.pairwise_cons.2
        ⟨lt_of_mem_insertEntry (Std.OrientedCmp.lt_of_gt h) head, ih tail⟩

end Insertion

/-- The table without entries. -/
def empty : Table κ α := ⟨[], .nil⟩

instance : Inhabited (Table κ α) := ⟨empty⟩

/-- The table after binding a key, in place of any earlier binding of it. -/
def insert [Std.TransOrd κ] (table : Table κ α) (key : κ) (value : α) : Table κ α :=
  ⟨insertEntry key value table.entries, sorted_insertEntry table.sorted⟩

/-- The table that binds each key of a list to its last value there. -/
def ofList [Std.TransOrd κ] (entries : List (κ × α)) : Table κ α :=
  entries.foldl (fun table entry => table.insert entry.1 entry.2) empty

/-- The value bound to a key. -/
def lookup? (table : Table κ α) (key : κ) : Option α :=
  (table.entries.find? fun entry => compare key entry.1 == .eq).map (·.2)

/-- Whether a key is bound. -/
def contains (table : Table κ α) (key : κ) : Bool :=
  (table.lookup? key).isSome

/-- The keys in increasing order. -/
def keys (table : Table κ α) : List κ :=
  table.entries.map (·.1)

/-- The number of bound keys. -/
def size (table : Table κ α) : Nat :=
  table.entries.length

/-- Whether no key is bound. -/
def isEmpty (table : Table κ α) : Bool :=
  table.entries.isEmpty

@[simp] theorem lookup?_empty (key : κ) : (empty : Table κ α).lookup? key = none := rfl

/-- A bound key gives the value of its last binding; other keys are not touched. -/
theorem lookup?_insert [Std.TransOrd κ] (table : Table κ α) (key other : κ) (value : α) :
    (table.insert key value).lookup? other =
      if compare other key = .eq then some value else table.lookup? other := by
  obtain ⟨entries, sorted⟩ := table
  simp only [lookup?, insert]
  clear sorted
  induction entries with
  | nil =>
    by_cases h : compare other key = .eq <;> simp [insertEntry, h]
  | cons entry rest ih =>
    simp only [insertEntry]
    split
    · by_cases h : compare other key = .eq <;> simp [h]
    · next eq =>
      by_cases h : compare other key = .eq
      · simp [h]
      · have : compare other entry.1 ≠ .eq := fun he =>
          h (Std.TransCmp.eq_trans he (Std.OrientedCmp.eq_symm eq))
        simp [h, this]
    · next gt =>
      by_cases he : compare other entry.1 = .eq
      · have h : compare other key ≠ .eq := fun h => by
          have := Std.TransCmp.eq_trans (Std.OrientedCmp.eq_symm h) he
          simp [this] at gt
        simp [he, h]
      · have ih' := ih
        simp only [List.find?_cons, beq_eq_false_iff_ne.2 he] at ih' ⊢
        simpa using ih'

end Table

/-- A finite set of names, listed in order. -/
abbrev NameSet := Table String Unit

namespace NameSet

/-- The set of the names of a list. -/
def ofNames (names : List String) : NameSet :=
  Table.ofList (names.map fun name => (name, ()))

end NameSet

end KubeSchema

import KubeSchema.Naming
import KubeSchema.Proofs.CaseTheorems
import KubeSchema.Proofs.WordsTheorems

/-!
# Identifiers of wire names

A wire name with a sigil becomes its capitalized words; any other one is only capitalized. No
uppercase is empty or holds a separator, so an identifier is never lost, and a name with a sigil
leaves no separator behind. Main lemmas: `followsSigil_iff`, which says what a sigil is,
`sanitizeChars_of_words` and `sanitizeChars_of_plain`; the main result is `sanitize_by_words`.
-/

namespace KubeSchema

namespace Text

/-! ## Capitalized words -/

lemma capitalizeChars_eq_nil_iff {cs : List Char} : capitalizeChars cs = [] ↔ cs = [] := by
  cases cs with
  | nil => simp [capitalizeChars]
  | cons c rest =>
    obtain ⟨head, tail, maps, -⟩ := exists_upper_eq_cons c
    simp [capitalizeChars, maps]

end Text

namespace Naming

open Text

lemma isWordSeparator_eq_false_iff {c : Char} : isWordSeparator c = false ↔ c ≠ '-' ∧ c ≠ '_' := by
  simp [isWordSeparator]

lemma toNat_of_separator {c : Char} (separator : isWordSeparator c = true) :
    c.toNat = 0x2D ∨ c.toNat = 0x5F := by
  have either : c = '-' ∨ c = '_' := by simpa [isWordSeparator] using separator
  obtain rfl | rfl := either
  · exact .inl rfl
  · exact .inr rfl

/-- Only a separator has a separator in its uppercase. -/
lemma not_separator_upper {c : Char} (inside : isWordSeparator c = false) :
    ∀ x ∈ upper c, isWordSeparator x = false := by
  intro x mem
  by_cases ascii : c.toNat < 0x80
  · rw [upper_of_ascii ascii, List.mem_singleton] at mem
    rw [mem]
    exact of_ascii (p := fun c => isWordSeparator c = false → isWordSeparator c.toUpper = false)
      (by decide) ascii inside
  · rw [← Bool.not_eq_true]
    intro separator
    have place := toNat_of_separator separator
    have capital := capital_of_mem_upper ascii mem (by omega)
    omega

lemma not_separator_capitalizeChars {cs : List Char} (whole : ∀ c ∈ cs, isWordSeparator c = false) :
    ∀ x ∈ capitalizeChars cs, isWordSeparator x = false := by
  cases cs with
  | nil => simp [capitalizeChars]
  | cons c rest =>
    intro x mem
    obtain mem | mem := List.mem_append.1 mem
    · exact not_separator_upper (whole c List.mem_cons_self) x mem
    · exact whole x (List.mem_cons_of_mem c mem)

section Words

variable {rest : List Char} {found : List (List Char)}

lemma pascalChars_eq (has : HasWords isWordSeparator rest found) :
    pascalChars rest = found.flatMap capitalizeChars := by
  rw [pascalChars, hasWords_iff.1 has]

/-- Words that are joined leave something. -/
lemma flatMap_capitalizeChars_ne_nil (has : HasWords isWordSeparator rest found)
    (filled : found ≠ []) : found.flatMap capitalizeChars ≠ [] := by
  intro empty
  obtain ⟨word, mem⟩ := List.exists_mem_of_ne_nil found filled
  have gone := List.flatMap_eq_nil_iff.1 empty word mem
  exact (has.of_mem mem).1 (capitalizeChars_eq_nil_iff.1 gone)

/-- Words that are joined hold no separator. -/
lemma not_separator_flatMap (has : HasWords isWordSeparator rest found) :
    ∀ x ∈ found.flatMap capitalizeChars, isWordSeparator x = false := by
  intro x mem
  obtain ⟨word, inFound, inWord⟩ := List.mem_flatMap.1 mem
  exact not_separator_capitalizeChars (has.of_mem inFound).2 x inWord

end Words

/-! ## Sigils -/

/-- What follows the sigil of a wire name: all leading `$` are taken off, or one leading `x-`. -/
inductive FollowsSigil : List Char → List Char → Prop
  | dollar {rest : List Char} (more : ℕ) (last : ∀ c ∈ rest.head?, c ≠ '$') :
      FollowsSigil (List.replicate (more + 1) '$' ++ rest) rest
  | vendor (rest : List Char) : FollowsSigil ('x' :: '-' :: rest) rest

variable {wire rest : List Char} {found : List (List Char)}

/-- Dropping further `$` from the front leaves what follows the sigil. -/
lemma followsSigil_dropWhile (others : List Char) :
    FollowsSigil ('$' :: others) (others.dropWhile (· == '$')) := by
  have dollars : others.takeWhile (· == '$')
      = List.replicate (others.takeWhile (· == '$')).length '$' := by
    apply List.eq_replicate_of_mem
    intro c mem
    simpa using List.mem_takeWhile_imp mem
  have joined : List.replicate ((others.takeWhile (· == '$')).length + 1) '$'
      ++ others.dropWhile (· == '$') = '$' :: others := by
    rw [List.replicate_succ, ← dollars, List.cons_append, List.takeWhile_append_dropWhile]
  have last : ∀ c ∈ (others.dropWhile (· == '$')).head?, c ≠ '$' := by
    intro c first
    simpa using eq_false_of_mem_head?_dropWhile _ _ c first
  rw [← joined]
  exact .dollar _ last

lemma followsSigil_iff : FollowsSigil wire rest ↔ afterSigil? wire = some rest := by
  constructor
  · intro follows
    cases follows with
    | dollar more last =>
      have dropped : (List.replicate more '$' ++ rest).dropWhile (· == '$') = rest :=
        dropWhile_append_eq (by simp) (by simpa using last)
      rw [List.replicate_succ, List.cons_append, afterSigil?, dropped]
    | vendor => rfl
  · intro after
    unfold afterSigil? at after
    split at after
    · obtain rfl := Option.some.inj after
      exact followsSigil_dropWhile _
    · obtain rfl := Option.some.inj after
      exact .vendor _
    · cases after

lemma afterSigil?_eq_none_iff :
    afterSigil? wire = none ↔ ¬ ['$'] <+: wire ∧ ¬ ['x', '-'] <+: wire := by
  constructor
  · intro absent
    constructor
    · intro ⟨after, starts⟩
      rw [← starts] at absent
      cases absent
    · intro ⟨after, starts⟩
      rw [← starts] at absent
      cases absent
  · intro ⟨noDollar, noVendor⟩
    unfold afterSigil?
    split
    · exact absurd ⟨_, rfl⟩ noDollar
    · exact absurd ⟨_, rfl⟩ noVendor
    · rfl

/-! ## Identifiers -/

lemma sanitizeChars_of_plain (plain : afterSigil? wire = none) :
    sanitizeChars wire = capitalizeChars wire := by
  rw [sanitizeChars, plain]

/-- A name with a sigil becomes its words, each capitalized. -/
lemma sanitizeChars_of_words (follows : FollowsSigil wire rest)
    (has : HasWords isWordSeparator rest found) (filled : found ≠ []) :
    sanitizeChars wire = found.flatMap capitalizeChars := by
  have left := flatMap_capitalizeChars_ne_nil has filled
  unfold sanitizeChars
  rw [followsSigil_iff.1 follows]
  dsimp only
  split
  · rename_i empty
    rw [pascalChars_eq has] at empty
    exact absurd empty left
  · exact pascalChars_eq has

/-- A name whose words are gone falls back on itself, so that only the empty name is lost. -/
lemma sanitizeChars_eq_nil_iff : sanitizeChars wire = [] ↔ wire = [] := by
  unfold sanitizeChars
  split
  · exact capitalizeChars_eq_nil_iff
  · rename_i rest after
    split
    · exact capitalizeChars_eq_nil_iff
    · rename_i left
      have wordless : wire ≠ [] := by
        intro empty
        rw [empty] at after
        cases after
      exact iff_of_false left wordless

lemma sanitize_eq_empty_iff {text : String} : sanitize text = "" ↔ text = "" := by
  rw [sanitize, ← String.toList_inj, ← String.toList_inj, String.toList_ofList]
  exact sanitizeChars_eq_nil_iff

/-- Two texts with the same words. -/
def SameWords (first second : List Char) : Prop :=
  ∃ found, HasWords isWordSeparator first found ∧ HasWords isWordSeparator second found

/-- A name that joins the words of a text: it is not empty, it has no separator, and it is nothing
but the words, each capitalized. -/
structure Joins (rest : List Char) (name : String) : Prop where
  nonempty : name ≠ ""
  apart : ∀ c ∈ name.toList, c ≠ '-' ∧ c ≠ '_'
  joined : ∃ found, (∀ others, HasWords isWordSeparator rest others ↔ others = found) ∧
    name.toList = found.flatMap capitalizeChars

/-- A wire name without a sigil, with the uppercase of its first character and what follows it. -/
structure IsPlain (wire : List Char) (capital : Char) (rest : List Char) : Prop where
  noDollar : ¬ ['$'] <+: wire
  noVendor : ¬ ['x', '-'] <+: wire
  begins : ∃ first, wire = first :: rest ∧ upper first = [capital]

lemma IsPlain.sanitizeChars_eq {capital : Char} (plain : IsPlain wire capital rest) :
    sanitizeChars wire = capital :: rest := by
  obtain ⟨first, rfl, maps⟩ := plain.begins
  rw [sanitizeChars_of_plain (afterSigil?_eq_none_iff.2 ⟨plain.noDollar, plain.noVendor⟩),
    capitalizeChars, maps]
  rfl

/-- A name with a sigil and something after it joins its words. -/
lemma sanitize_joins {text : String} (follows : FollowsSigil text.toList rest)
    (something : ∃ c ∈ rest, c ≠ '-' ∧ c ≠ '_') : Joins rest (sanitize text) := by
  obtain ⟨c, mem, apart⟩ := something
  have has : HasWords isWordSeparator rest (words isWordSeparator rest) := hasWords_iff.2 rfl
  have filled := has.ne_nil mem (isWordSeparator_eq_false_iff.2 apart)
  have joined : (sanitize text).toList
      = (words isWordSeparator rest).flatMap capitalizeChars := by
    rw [sanitize, String.toList_ofList, sanitizeChars_of_words follows has filled]
  refine ⟨?_, ?_, ⟨_, fun others => ?_, joined⟩⟩
  · intro empty
    rw [empty] at joined
    exact flatMap_capitalizeChars_ne_nil has filled joined.symm
  · intro x inside
    rw [joined] at inside
    exact isWordSeparator_eq_false_iff.1 (not_separator_flatMap has x inside)
  · rw [hasWords_iff, eq_comm]

/-- **Identifiers of wire names.** Only the empty name has an empty identifier. A name with a sigil
and something after it joins the words that follow, so that names with the same words get the same
identifier; and two names without a sigil get the same one exactly if they have the same uppercase
of the first character and the same rest. -/
theorem sanitize_by_words (wire other : String) :
    (sanitize wire = "" ↔ wire = "") ∧
      (∀ rest, FollowsSigil wire.toList rest → (∃ c ∈ rest, c ≠ '-' ∧ c ≠ '_') →
        Joins rest (sanitize wire) ∧
          ∀ others, FollowsSigil other.toList others → SameWords rest others →
            sanitize wire = sanitize other) ∧
      ∀ capital rest otherCapital others, IsPlain wire.toList capital rest →
        IsPlain other.toList otherCapital others →
          (sanitize wire = sanitize other ↔ capital = otherCapital ∧ rest = others) := by
  refine ⟨sanitize_eq_empty_iff, ?_, ?_⟩
  · intro rest follows something
    refine ⟨sanitize_joins follows something, ?_⟩
    intro others followsOther ⟨found, has, hasOther⟩
    obtain ⟨c, mem, apart⟩ := something
    have filled := has.ne_nil mem (isWordSeparator_eq_false_iff.2 apart)
    rw [sanitize, sanitize, sanitizeChars_of_words follows has filled,
      sanitizeChars_of_words followsOther hasOther filled]
  · intro capital rest otherCapital others plain plainOther
    rw [sanitize, sanitize, plain.sanitizeChars_eq, plainOther.sanitizeChars_eq,
      String.ofList_inj, List.cons.injEq]

/-- Two names of different sigils with the same words, and two that differ in a separator. -/
theorem sanitize_by_words_of_listType :
    sanitize "x-list--type" = sanitize "$$list_type" ∧
      (∀ c ∈ (sanitize "x-list--type").toList, c ≠ '-' ∧ c ≠ '_') ∧
      sanitize "external_id" ≠ sanitize "externalId" := by
  have vendor : FollowsSigil "x-list--type".toList "list--type".toList :=
    followsSigil_iff.2 rfl
  have dollar : FollowsSigil "$$list_type".toList "list_type".toList :=
    followsSigil_iff.2 rfl
  have same : SameWords "list--type".toList "list_type".toList :=
    ⟨["list".toList, "type".toList], hasWords_iff.2 rfl, hasWords_iff.2 rfl⟩
  have something : ∃ c ∈ "list--type".toList, c ≠ '-' ∧ c ≠ '_' :=
    ⟨'l', List.mem_cons_self, by decide, by decide⟩
  have plain : IsPlain "external_id".toList 'E' "xternal_id".toList :=
    ⟨by decide, by decide, 'e', rfl, by decide⟩
  have plainOther : IsPlain "externalId".toList 'E' "xternalId".toList :=
    ⟨by decide, by decide, 'e', rfl, by decide⟩
  have sigils := (sanitize_by_words "x-list--type" "$$list_type").2.1 _ vendor something
  have apart := (sanitize_by_words "external_id" "externalId").2.2 _ _ _ _ plain plainOther
  exact ⟨sigils.2 _ dollar same, sigils.1.apart, fun equal => by simpa using (apart.1 equal).2⟩

end Naming

end KubeSchema

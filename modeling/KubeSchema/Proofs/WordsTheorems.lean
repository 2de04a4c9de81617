import KubeSchema.Text.Blank
import KubeSchema.Text.Words
import Mathlib.Data.List.TakeWhile

/-!
# Words and trimmed texts

What is found when a text is cut at separators and trimmed, said without the functions that do it.
Main statements: the words of a text are its longest stretches without a separator (`hasWords_iff`),
and trimming gives the one text that is left between the blanks at both ends (`trims_iff`).
-/

namespace KubeSchema.Text

/-! ## Pieces -/

/-- No piece of a text contains what the text was cut at. -/
lemma not_separator_of_mem_splitOnP {isSeparator : Char → Bool} {cs piece : List Char}
    (mem : piece ∈ cs.splitOnP isSeparator) : ∀ c ∈ piece, isSeparator c = false := by
  induction cs generalizing piece with
  | nil =>
    rw [List.splitOnP_nil, List.mem_singleton] at mem
    simp [mem]
  | cons c rest ih =>
    rw [List.splitOnP_cons_eq_if_modifyHead] at mem
    by_cases separator : isSeparator c = true
    · rw [if_pos separator, List.mem_cons] at mem
      obtain rfl | mem := mem
      · simp
      · exact ih mem
    · rw [if_neg separator] at mem
      cases pieces : rest.splitOnP isSeparator with
      | nil => simp [pieces] at mem
      | cons first others =>
        rw [pieces, List.modifyHead_cons, List.mem_cons] at mem
        obtain rfl | mem := mem
        · have whole := ih (pieces ▸ List.mem_cons_self)
          simpa [separator] using whole
        · exact ih (pieces ▸ List.mem_cons_of_mem first mem)

/-! ## The front of a text -/

/-- What is dropped from the front ends at a character that is to stay. -/
lemma eq_false_of_mem_head?_dropWhile (p : Char → Bool) (cs : List Char) :
    ∀ c ∈ (cs.dropWhile p).head?, p c = false := by
  intro c first
  have stop := List.head?_dropWhile_not p cs
  rwa [Option.mem_def.1 first] at stop

lemma dropWhile_append_eq {p : Char → Bool} {before cs : List Char}
    (all : ∀ c ∈ before, p c = true) (first : ∀ c ∈ cs.head?, p c = false) :
    (before ++ cs).dropWhile p = cs := by
  rw [List.dropWhile_append_of_pos all]
  cases cs with
  | nil => rfl
  | cons c rest => exact List.dropWhile_cons_of_neg (by simp [first c rfl])

/-! ## Words -/

/-- The words of a text: its longest stretches without a separator, from left to right. -/
inductive HasWords (isSeparator : Char → Bool) : List Char → List (List Char) → Prop
  | done : HasWords isSeparator [] []
  | separator {c : Char} {rest : List Char} {found : List (List Char)}
      (cut : isSeparator c = true) (others : HasWords isSeparator rest found) :
      HasWords isSeparator (c :: rest) found
  | word {word rest : List Char} {found : List (List Char)} (nonempty : word ≠ [])
      (whole : ∀ c ∈ word, isSeparator c = false)
      (longest : ∀ c ∈ rest.head?, isSeparator c = true)
      (others : HasWords isSeparator rest found) :
      HasWords isSeparator (word ++ rest) (word :: found)

section Words

variable {isSeparator : Char → Bool} {cs rest : List Char} {found : List (List Char)}

lemma words_nil : words isSeparator [] = [] := by
  simp [words]

lemma words_cons_of_separator {c : Char} (cut : isSeparator c = true) :
    words isSeparator (c :: rest) = words isSeparator rest := by
  simp [words, List.splitOnP_cons_eq_if_modifyHead, cut]

/-- A word ends at a separator or with the text. -/
lemma words_append {word : List Char} (nonempty : word ≠ [])
    (whole : ∀ c ∈ word, isSeparator c = false)
    (longest : ∀ c ∈ rest.head?, isSeparator c = true) :
    words isSeparator (word ++ rest) = word :: words isSeparator rest := by
  cases rest with
  | nil => simp [words, List.splitOnP_eq_singleton whole, nonempty]
  | cons c rest =>
    have cut : isSeparator c = true := longest c rfl
    have split := List.splitOnP_append_cons_of_forall_mem whole c cut rest
    rw [words_cons_of_separator cut]
    simp [words, split, nonempty]

lemma HasWords.eq_words (has : HasWords isSeparator cs found) : words isSeparator cs = found := by
  induction has with
  | done => exact words_nil
  | separator cut _ ih => rw [words_cons_of_separator cut, ih]
  | word nonempty whole longest _ ih => rw [words_append nonempty whole longest, ih]

/-- A text that begins with no separator begins with a word: all that stands before the next one. -/
lemma exists_word {c : Char} (inside : isSeparator c = false) (rest : List Char) :
    ∃ word after, c :: rest = word ++ after ∧ word ≠ [] ∧
      (∀ x ∈ word, isSeparator x = false) ∧ ∀ x ∈ after.head?, isSeparator x = true := by
  refine ⟨(c :: rest).takeWhile (!isSeparator ·), (c :: rest).dropWhile (!isSeparator ·),
    List.takeWhile_append_dropWhile.symm, by simp [inside], ?_, ?_⟩
  · intro x mem
    simpa using List.mem_takeWhile_imp mem
  · intro x first
    simpa using eq_false_of_mem_head?_dropWhile _ _ x first

/-- Every text has words. -/
lemma exists_hasWords (isSeparator : Char → Bool) (cs : List Char) :
    ∃ found, HasWords isSeparator cs found := by
  induction size : cs.length using Nat.strong_induction_on generalizing cs with
  | _ size ih =>
    subst size
    cases cs with
    | nil => exact ⟨[], .done⟩
    | cons c rest =>
      by_cases cut : isSeparator c = true
      · obtain ⟨found, others⟩ := ih rest.length (by simp) rest rfl
        exact ⟨found, .separator cut others⟩
      · have inside : isSeparator c = false := by simpa using cut
        obtain ⟨word, after, split, nonempty, whole, longest⟩ := exists_word inside rest
        have shorter : after.length < (c :: rest).length := by
          have positive := List.length_pos_iff.2 nonempty
          rw [split, List.length_append]
          omega
        obtain ⟨found, others⟩ := ih after.length shorter after rfl
        rw [split]
        exact ⟨word :: found, .word nonempty whole longest others⟩

/-- Cutting a text finds exactly its words. -/
theorem hasWords_iff : HasWords isSeparator cs found ↔ words isSeparator cs = found := by
  constructor
  · exact HasWords.eq_words
  · intro same
    obtain ⟨other, has⟩ := exists_hasWords isSeparator cs
    rwa [← same, has.eq_words]

/-- A word is never empty and holds no separator. -/
lemma HasWords.of_mem {word : List Char} (has : HasWords isSeparator cs found)
    (mem : word ∈ found) : word ≠ [] ∧ ∀ c ∈ word, isSeparator c = false := by
  induction has with
  | done => cases mem
  | separator _ _ ih => exact ih mem
  | word nonempty whole _ _ ih =>
    obtain rfl | mem := List.mem_cons.1 mem
    · exact ⟨nonempty, whole⟩
    · exact ih mem

/-- A character that is no separator makes a word. -/
lemma HasWords.ne_nil {c : Char} (has : HasWords isSeparator cs found) (mem : c ∈ cs)
    (inside : isSeparator c = false) : found ≠ [] := by
  induction has with
  | done => cases mem
  | separator cut _ ih =>
    obtain rfl | mem := List.mem_cons.1 mem
    · rw [cut] at inside
      cases inside
    · exact ih mem
  | word => exact List.cons_ne_nil _ _

end Words

/-! ## Trimming -/

/-- The text `core` stands between the blanks at both ends of `cs`. -/
structure Trims (cs core : List Char) : Prop where
  surrounded : ∃ before after, cs = before ++ core ++ after ∧
    (∀ c ∈ before, isBlank c = true) ∧ ∀ c ∈ after, isBlank c = true
  first : ∀ c ∈ core.head?, isBlank c = false
  last : ∀ c ∈ core.getLast?, isBlank c = false

/-- What is dropped from the front is blank. -/
lemma exists_blanks (cs : List Char) :
    ∃ blanks, cs = blanks ++ cs.dropWhile isBlank ∧ ∀ c ∈ blanks, isBlank c = true :=
  ⟨cs.takeWhile isBlank, List.takeWhile_append_dropWhile.symm,
    fun _ mem => List.mem_takeWhile_imp mem⟩

lemma trims_trimChars (cs : List Char) : Trims cs (trimChars cs) := by
  obtain ⟨before, split, leading⟩ := exists_blanks cs
  obtain ⟨after, splitBack, trailing⟩ := exists_blanks (cs.dropWhile isBlank).reverse
  have tail : cs.dropWhile isBlank = trimChars cs ++ after.reverse := by
    rw [trimChars, ← List.reverse_append, ← splitBack, List.reverse_reverse]
  refine ⟨⟨before, after.reverse, ?_, leading, ?_⟩, ?_, ?_⟩
  · rw [List.append_assoc, ← tail, ← split]
  · intro c mem
    exact trailing c (List.mem_reverse.1 mem)
  · intro c first
    apply eq_false_of_mem_head?_dropWhile isBlank cs
    rw [tail, List.head?_append, Option.mem_def.1 first]
    rfl
  · intro c last
    rw [trimChars, List.getLast?_reverse] at last
    exact eq_false_of_mem_head?_dropWhile _ _ c last

lemma Trims.eq_trimChars {cs core : List Char} (trims : Trims cs core) : trimChars cs = core := by
  obtain ⟨before, after, rfl, leading, trailing⟩ := trims.surrounded
  rw [trimChars, List.append_assoc, List.dropWhile_append_of_pos leading]
  cases core with
  | nil =>
    -- nothing but blanks: all of them are dropped from the front
    rw [List.nil_append, List.dropWhile_eq_nil_iff.2 trailing]
    rfl
  | cons c rest =>
    have front : (c :: rest ++ after).dropWhile isBlank = c :: rest ++ after :=
      dropWhile_append_eq (List.forall_mem_nil _) trims.first
    have back : (after.reverse ++ (c :: rest).reverse).dropWhile isBlank = (c :: rest).reverse := by
      apply dropWhile_append_eq
      · simpa using trailing
      · rw [List.head?_reverse]
        exact trims.last
    rw [front, List.reverse_append, back, List.reverse_reverse]

/-- Trimming gives exactly the text between the blanks. -/
theorem trims_iff {cs core : List Char} : Trims cs core ↔ trimChars cs = core := by
  constructor
  · exact Trims.eq_trimChars
  · intro same
    rw [← same]
    exact trims_trimChars cs

end KubeSchema.Text

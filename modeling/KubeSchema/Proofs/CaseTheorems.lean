import KubeSchema.Text.Case
import Mathlib.Tactic.Lemma

/-!
# Capitalizing twice

The uppercase of a character begins with a character that is its own uppercase, so a capitalized
text is left alone by capitalizing it once more. Both mapping tables are read as one list of entries
here; the sources and the first targets of all entries are two sets of code points that have nothing
in common. Main lemmas: `exists_upper_eq_cons`, `capitalize_capitalize` and, for texts that are to be
compared with ASCII words, `ascii_of_upper_eq_cons`.
-/

namespace KubeSchema.Text

/-! ## Sets of code points -/

/-- A set of code points, as the bits of a number. -/
def codeSet (codes : List Nat) : Nat :=
  codes.foldr (fun code set => 1 <<< code ||| set) 0

lemma testBit_codeSet (codes : List Nat) (code : Nat) :
    (codeSet codes).testBit code = true ↔ code ∈ codes := by
  induction codes with
  | nil => simp [codeSet]
  | cons head rest ih =>
    have step : codeSet (head :: rest) = 1 <<< head ||| codeSet rest := rfl
    rw [step, Nat.testBit_or, Bool.or_eq_true, ih, List.mem_cons, Nat.one_shiftLeft,
      Nat.testBit_two_pow, decide_eq_true_iff, eq_comm]

lemma not_mem_of_codeSet_and {left right : List Nat} {code : Nat}
    (disjoint : codeSet left &&& codeSet right = 0) (mem : code ∈ left) : code ∉ right := by
  intro other
  have bit : (codeSet left &&& codeSet right).testBit code = true := by
    rw [Nat.testBit_and, (testBit_codeSet left code).2 mem, (testBit_codeSet right code).2 other]
    rfl
  rw [disjoint, Nat.zero_testBit] at bit
  exact Bool.false_ne_true bit

/-! ## The tables as one list -/

/-- The characters of a run, each with its partner. -/
def CaseRun.entries (run : CaseRun) : List (Nat × List Nat) :=
  (List.range' run.first ((run.last - run.first) / run.stride + 1) run.stride).map
    fun (code : Nat) => (code, [(code + run.offset).toNat])

/-- Every character beyond ASCII that is not its own uppercase, with its uppercase. -/
def upperTable : List (Nat × List Nat) :=
  upperExpansions ++ upperRuns.flatMap CaseRun.entries

lemma CaseRun.mem_entries {run : CaseRun} {code partner : Nat}
    (found : run.partner? code = some partner) : (code, [partner]) ∈ run.entries := by
  unfold partner? at found
  split at found
  · rename_i inside
    obtain ⟨least, greatest, aligned⟩ := inside
    have steps : (code - run.first) / run.stride < (run.last - run.first) / run.stride + 1 :=
      Nat.lt_succ_of_le (Nat.div_le_div_right (Nat.sub_le_sub_right greatest _))
    have reached : run.first + run.stride * ((code - run.first) / run.stride) = code := by
      rw [Nat.mul_div_cancel' (Nat.dvd_of_mod_eq_zero aligned)]
      omega
    refine List.mem_map.2 ⟨code, List.mem_range'.2 ⟨_, steps, reached.symm⟩, ?_⟩
    rw [Option.some.inj found]
  · cases found

/-- Beyond ASCII a character is its own uppercase, or the table has its uppercase. -/
lemma upper_eq_self_or_mem_upperTable {c : Char} (beyond : ¬ c.toNat < 0x80) :
    upper c = [c] ∨ ∃ codes, (c.toNat, codes) ∈ upperTable ∧ upper c = codes.map Char.ofNat := by
  simp only [upper, beyond, if_false, mapCase]
  cases expansion : upperExpansions.lookup c.toNat with
  | some codes =>
    obtain ⟨before, after, split, -⟩ := List.lookup_eq_some_iff.1 expansion
    exact .inr ⟨codes, by simp [upperTable, split], rfl⟩
  | none =>
    cases partner : upperRuns.findSome? (·.partner? c.toNat) with
    | none => exact .inl rfl
    | some code =>
      obtain ⟨run, mem, found⟩ := List.exists_of_findSome?_eq_some partner
      refine .inr ⟨[code], List.mem_append_right _ ?_, rfl⟩
      exact List.mem_flatMap.2 ⟨run, mem, CaseRun.mem_entries found⟩

/-! ## What the tables hold -/

/-- What holds of every entry is checked by walking over the table: the proposition itself is
decided by a recursion as deep as the table is long. -/
lemma forall_mem_upperTable {p : Nat × List Nat → Prop} [DecidablePred p]
    (checked : (upperTable.all fun entry => decide (p entry)) = true) :
    ∀ entry ∈ upperTable, p entry :=
  fun entry mem => of_decide_eq_true (List.all_eq_true.1 checked entry mem)

/-- No uppercase begins with a character that has an uppercase of its own. -/
lemma upperTable_disjoint :
    codeSet (upperTable.filterMap (·.2.head?)) &&&
      codeSet (List.range' 0x61 26 ++ upperTable.map Prod.fst) = 0 := by
  decide +kernel

/-- The letters that begin an ASCII uppercase of a character beyond ASCII: the uppercase of `ﬁ` and
of the other ligatures with `f`, of `ı`, and of `ſ`, `ß` and the ligatures with `s`. -/
def strayInitials : List Char :=
  ['F', 'I', 'S']

/-- No uppercase is empty; the ASCII characters in it are capitals; and one that is in ASCII as a
whole begins with one of the three letters. -/
lemma upperTable_checked : ∀ entry ∈ upperTable, entry.2 ≠ [] ∧
    (∀ code ∈ entry.2, (Char.ofNat code).toNat < 0x80 →
      0x41 ≤ (Char.ofNat code).toNat ∧ (Char.ofNat code).toNat ≤ 0x5A) ∧
    ((∀ code ∈ entry.2, (Char.ofNat code).toNat < 0x80) →
      ∀ head ∈ entry.2.head?, Char.ofNat head ∈ strayInitials) :=
  forall_mem_upperTable (by decide +kernel)

/-! ## Within ASCII -/

lemma of_ascii {p : Char → Prop} (checked : ∀ code : Fin 0x80, p (Char.ofNat code)) {c : Char}
    (ascii : c.toNat < 0x80) : p c := by
  have holds := checked ⟨c.toNat, ascii⟩
  rwa [show Char.ofNat c.toNat = c from Char.ofNat_toNat c] at holds

lemma toLower_toUpper {c : Char} (ascii : c.toNat < 0x80) : c.toUpper.toLower = c.toLower :=
  of_ascii (p := fun c => c.toUpper.toLower = c.toLower) (by decide) ascii

lemma toUpper_toLower {c : Char} (ascii : c.toNat < 0x80) : c.toLower.toUpper = c.toUpper :=
  of_ascii (p := fun c => c.toLower.toUpper = c.toUpper) (by decide) ascii

lemma toLower_toLower {c : Char} (ascii : c.toNat < 0x80) : c.toLower.toLower = c.toLower :=
  of_ascii (p := fun c => c.toLower.toLower = c.toLower) (by decide) ascii

lemma toUpper_eq_self {c : Char} (outside : c.toNat ∉ List.range' 0x61 26) : c.toUpper = c := by
  unfold Char.toUpper
  refine dif_neg fun letter => outside ?_
  have least : 0x61 ≤ c.toNat := letter.1
  have greatest : c.toNat ≤ 0x7A := letter.2
  rw [List.mem_range'_1]
  omega

/-! ## The first character of an uppercase -/

/-- Beyond the letters that ASCII and the table have an uppercase for, a character is its own. -/
lemma upper_eq_self {c : Char}
    (settled : c.toNat ∉ List.range' 0x61 26 ++ upperTable.map Prod.fst) : upper c = [c] := by
  by_cases ascii : c.toNat < 0x80
  · rw [upper_of_ascii ascii, toUpper_eq_self fun mem => settled (List.mem_append_left _ mem)]
  · obtain self | ⟨codes, mem, -⟩ := upper_eq_self_or_mem_upperTable ascii
    · exact self
    · exact absurd (List.mem_append_right _ (List.mem_map_of_mem mem)) settled

/-- The head of an entry is its own uppercase, as the sources and the heads are disjoint. -/
lemma upper_head {source head : Nat} {tail : List Nat}
    (mem : (source, head :: tail) ∈ upperTable) :
    upper (Char.ofNat head) = [Char.ofNat head] := by
  by_cases valid : head.isValidChar
  · have same : (Char.ofNat head).toNat = head := by
      rw [Char.ofNat, dif_pos valid]
      rfl
    apply upper_eq_self
    rw [same]
    exact not_mem_of_codeSet_and upperTable_disjoint (List.mem_filterMap.2 ⟨_, mem, rfl⟩)
  · have nul : Char.ofNat head = Char.ofNat 0 := by
      rw [Char.ofNat, dif_neg valid]
      rfl
    rw [nul]
    decide

/-- The uppercase of a character begins with a character that is its own uppercase. -/
lemma exists_upper_eq_cons (c : Char) :
    ∃ head tail, upper c = head :: tail ∧ upper head = [head] := by
  by_cases ascii : c.toNat < 0x80
  · exact ⟨c.toUpper, [], upper_of_ascii ascii,
      of_ascii (p := fun c => upper c.toUpper = [c.toUpper]) (by decide) ascii⟩
  · obtain self | ⟨codes, mem, maps⟩ := upper_eq_self_or_mem_upperTable ascii
    · exact ⟨c, [], self, self⟩
    · cases codes with
      | nil => exact absurd rfl (upperTable_checked _ mem).1
      | cons head tail => exact ⟨_, _, maps, upper_head mem⟩

/-- A character beyond ASCII has no ASCII uppercase, except where that begins with one of three
letters. -/
lemma ascii_of_upper_eq_cons {c head : Char} {tail : List Char} (maps : upper c = head :: tail)
    (plain : ∀ x ∈ head :: tail, x.toNat < 0x80) (initial : head ∉ strayInitials) :
    c.toNat < 0x80 := by
  by_cases ascii : c.toNat < 0x80
  · exact ascii
  · obtain self | ⟨codes, mem, table⟩ := upper_eq_self_or_mem_upperTable ascii
    · rw [self] at maps
      obtain ⟨rfl, -⟩ := List.cons.inj maps
      exact plain c List.mem_cons_self
    · rw [table] at maps
      have ascii : ∀ code ∈ codes, (Char.ofNat code).toNat < 0x80 := fun code mem =>
        plain _ (maps ▸ List.mem_map_of_mem mem)
      obtain ⟨first, rest, rfl, rfl, -⟩ := List.map_eq_cons_iff.1 maps
      exact absurd ((upperTable_checked _ mem).2.2 ascii first rfl) initial

/-- The ASCII characters in the uppercase of a character beyond ASCII are capitals. -/
lemma capital_of_mem_upper {c x : Char} (beyond : ¬ c.toNat < 0x80) (inside : x ∈ upper c)
    (ascii : x.toNat < 0x80) : 0x41 ≤ x.toNat ∧ x.toNat ≤ 0x5A := by
  obtain self | ⟨codes, mem, table⟩ := upper_eq_self_or_mem_upperTable beyond
  · rw [self, List.mem_singleton] at inside
    rw [inside] at ascii
    exact absurd ascii beyond
  · rw [table] at inside
    obtain ⟨code, inCodes, rfl⟩ := List.mem_map.1 inside
    exact (upperTable_checked _ mem).2.1 code inCodes ascii

/-! ## Capitalized texts -/

lemma capitalizeChars_capitalizeChars (cs : List Char) :
    capitalizeChars (capitalizeChars cs) = capitalizeChars cs := by
  cases cs with
  | nil => rfl
  | cons c rest =>
    obtain ⟨head, tail, maps, self⟩ := exists_upper_eq_cons c
    simp [capitalizeChars, maps, self]

/-- Capitalizing a capitalized text changes nothing. -/
theorem capitalize_capitalize (text : String) : capitalize (capitalize text) = capitalize text := by
  apply String.toList_injective
  rw [toList_capitalize, toList_capitalize, capitalizeChars_capitalizeChars]

end KubeSchema.Text

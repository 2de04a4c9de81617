import KubeSchema.Naming
import KubeSchema.Proofs.ActionTheorems
import KubeSchema.Proofs.GivenNameTheorems

/-!
# Versions in generated names

The display form of a version puts it into title case and then capitalizes `alpha` and `beta` where
they stand. Neither step changes more than the case of a letter, and the result depends on the
letters only, not on their case: so the forms of two versions are the same exactly if the versions
are, up to case. Main lemmas: `map_replaceFrom`, by which replacing a word is invisible to a map
that does not tell the word from its replacement, and `asciiLower_versionQualifier`; the main result
is `versionQualifier_separates`.
-/

namespace KubeSchema

/-- Every character of a text is in ASCII. -/
def IsAscii (text : String) : Prop :=
  ∀ c ∈ text.toList, c.toNat < 0x80

instance : DecidablePred IsAscii := fun text =>
  decidable_of_iff ((text.toList.all fun c => decide (c.toNat < 0x80)) = true) (by simp [IsAscii])

namespace Text

/-! ## Replacing a word -/

/-- A map that does not tell a word from its replacement does not see the replacing. -/
lemma map_replaceFrom {α : Type} (f : Char → α) {word replacement : List Char}
    (nonempty : word ≠ []) (same : replacement.map f = word.map f) (skip : ℕ) (cs : List Char) :
    (replaceFrom word replacement skip cs).map f = (cs.drop skip).map f := by
  fun_induction replaceFrom word replacement skip cs with
  | case1 skip => simp
  | case2 skip c rest ih => rw [ih, List.drop_succ_cons]
  | case3 c rest found ih =>
    -- the rest of the word is passed over, so the scan goes on where the word ends
    obtain ⟨after, split⟩ := List.isPrefixOf_iff_prefix.1 found
    have onward : rest.drop (word.length - 1) = after := by
      have whole : (c :: rest).drop word.length = after := by rw [← split, List.drop_left]
      have positive : 0 < word.length := List.length_pos_iff.2 nonempty
      rwa [← Nat.sub_one_add_one_eq_of_pos positive, List.drop_succ_cons] at whole
    rw [List.map_append, ih, onward, same, ← List.map_append, split, List.drop_zero]
  | case4 c rest absent ih => rw [List.map_cons, ih, List.drop_zero, List.drop_zero, List.map_cons]

lemma map_replaceWord {α : Type} (f : Char → α) {word replacement : List Char}
    (nonempty : word ≠ []) (same : replacement.map f = word.map f) (cs : List Char) :
    (replaceWord word replacement cs).map f = cs.map f :=
  map_replaceFrom f nonempty same 0 cs

/-! ## Title case -/

lemma flatMap_lower {cs : List Char} (ascii : ∀ c ∈ cs, c.toNat < 0x80) :
    cs.flatMap lower = cs.map Char.toLower := by
  rw [List.map_eq_flatMap]
  exact List.flatMap_congr fun c mem => lower_of_ascii (ascii c mem)

lemma titleChars_of_ascii {c : Char} {rest : List Char} (ascii : ∀ x ∈ c :: rest, x.toNat < 0x80) :
    titleChars (c :: rest) = c.toUpper :: rest.map Char.toLower := by
  have first : c.toNat < 0x80 := ascii c List.mem_cons_self
  have others : ∀ x ∈ rest, x.toNat < 0x80 := fun x mem => ascii x (List.mem_cons_of_mem c mem)
  rw [titleChars, upper_of_ascii first, flatMap_lower others]
  rfl

/-- Title case changes nothing but case. -/
lemma map_toLower_titleChars {cs : List Char} (ascii : ∀ c ∈ cs, c.toNat < 0x80) :
    (titleChars cs).map Char.toLower = cs.map Char.toLower := by
  cases cs with
  | nil => rfl
  | cons c rest =>
    have again : (rest.map Char.toLower).map Char.toLower = rest.map Char.toLower := by
      rw [List.map_map]
      exact List.map_congr_left fun x mem => toLower_toLower (ascii x (List.mem_cons_of_mem c mem))
    have first : c.toUpper.toLower = c.toLower := toLower_toUpper (ascii c List.mem_cons_self)
    rw [titleChars_of_ascii ascii, List.map_cons, again, first, List.map_cons]

/-- Title case does not depend on case. -/
lemma titleChars_congr {cs ds : List Char} (ascii : ∀ c ∈ cs, c.toNat < 0x80)
    (asciiOther : ∀ c ∈ ds, c.toNat < 0x80) (same : cs.map Char.toLower = ds.map Char.toLower) :
    titleChars cs = titleChars ds := by
  cases cs with
  | nil =>
    rw [List.map_nil, eq_comm, List.map_eq_nil_iff] at same
    rw [same]
  | cons c rest =>
    cases ds with
    | nil => cases same
    | cons d others =>
      obtain ⟨sameFirst, sameRest⟩ := List.cons.inj same
      have capital : c.toUpper = d.toUpper := by
        rw [← toUpper_toLower (ascii c List.mem_cons_self), sameFirst,
          toUpper_toLower (asciiOther d List.mem_cons_self)]
      rw [titleChars_of_ascii ascii, titleChars_of_ascii asciiOther, capital, sameRest]

end Text

namespace Naming

open Text

variable {version other : String}

/-- The display form of a version differs from it in case only. -/
lemma asciiLower_versionQualifier (ascii : IsAscii version) :
    asciiLower (versionQualifier version) = asciiLower version := by
  apply String.toList_injective
  simp only [asciiLower, versionQualifier, String.toList_map, String.toList_ofList]
  rw [map_replaceWord _ (by decide) (by decide), map_replaceWord _ (by decide) (by decide),
    map_toLower_titleChars ascii]

/-- The display form of a version depends on its letters only. -/
lemma versionQualifier_congr (ascii : IsAscii version) (asciiOther : IsAscii other)
    (same : asciiLower version = asciiLower other) :
    versionQualifier version = versionQualifier other := by
  have letters : version.toList.map Char.toLower = other.toList.map Char.toLower := by
    simpa [asciiLower] using congrArg String.toList same
  rw [versionQualifier, titleChars_congr ascii asciiOther letters, versionQualifier]

lemma versionQualifier_eq_iff (ascii : IsAscii version) (asciiOther : IsAscii other) :
    versionQualifier version = versionQualifier other ↔ asciiLower version = asciiLower other := by
  constructor
  · intro same
    rw [← asciiLower_versionQualifier ascii, same, asciiLower_versionQualifier asciiOther]
  · exact versionQualifier_congr ascii asciiOther

lemma isAscii_versionQualifier (ascii : IsAscii version) : IsAscii (versionQualifier version) := by
  intro c mem
  have lowered : c.toLower ∈ (asciiLower version).toList := by
    rw [← asciiLower_versionQualifier ascii, asciiLower, String.toList_map]
    exact List.mem_map_of_mem mem
  rw [asciiLower, String.toList_map] at lowered
  obtain ⟨letter, inside, same⟩ := List.mem_map.1 lowered
  apply StandardAction.ascii_of_toLower
  rw [← same]
  exact of_ascii (p := fun c => c.toLower.toNat < 0x80) (by decide) (ascii letter inside)

/-- The display form of a display form is the form itself. -/
lemma versionQualifier_versionQualifier (ascii : IsAscii version) :
    versionQualifier (versionQualifier version) = versionQualifier version :=
  versionQualifier_congr (isAscii_versionQualifier ascii) ascii (asciiLower_versionQualifier ascii)

end Naming

end KubeSchema

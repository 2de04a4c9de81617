import KubeSchema.Action
import KubeSchema.Proofs.CaseTheorems
import KubeSchema.Proofs.TableTheorems
import Mathlib.Data.List.Destutter

/-!
# The actions that tags stand for

A known tag is read without regard to ASCII case; any other tag is capitalized with the full case
mapping. The two readings never meet: a tag is known after capitalization exactly if it was known
before, because no character beyond ASCII has an uppercase that begins a known tag. So the name of
an action is read as the action itself. Main lemmas: `StandardAction.ofTag?_capitalize` and
`Action.parse_name`; the main result is `Action.parse_canonical`.
-/

namespace KubeSchema

open Text (capitalize capitalizeChars upper strayInitials)

/-- The text with ASCII capitals in lowercase. -/
def asciiLower (text : String) : String :=
  text.map Char.toLower

/-! ## Known tags -/

namespace StandardAction

/-- The words for standard actions. -/
def tags : List String :=
  ["connect", "post", "create", "delete", "deletecollection", "get", "list", "patch", "proxy",
    "put", "update", "watch", "watchlist"]

lemma mem_tags {text : String} {action : StandardAction} (known : ofTag? text = some action) :
    text ∈ tags := by
  unfold ofTag? at known
  split at known
  case h_14 => cases known
  all_goals simp [tags]

lemma ascii_of_mem_tags {tag : String} (mem : tag ∈ tags) : ∀ c ∈ tag.toList, c.toNat < 0x80 := by
  have checked : (tags.all fun tag => tag.toList.all fun c => decide (c.toNat < 0x80)) = true := by
    decide
  intro c inside
  exact of_decide_eq_true (List.all_eq_true.1 (List.all_eq_true.1 checked tag mem) c inside)

/-- No known tag begins like an uppercase of a character beyond ASCII. -/
lemma initial_of_mem_tags {tag : String} (mem : tag ∈ tags) :
    ∀ c ∈ tag.toList.head?, c ∉ strayInitials.map Char.toLower := by
  have checked : (tags.all fun tag =>
      tag.toList.head?.all fun c => decide (c ∉ strayInitials.map Char.toLower)) = true := by
    decide
  intro c first
  have holds := List.all_eq_true.1 checked tag mem
  rw [Option.mem_def.1 first] at holds
  exact of_decide_eq_true holds

lemma ofTag?_name (action : StandardAction) : ofTag? (asciiLower action.name) = some action := by
  cases action <;> decide +kernel

lemma name_of_ofName? {text : String} {action : StandardAction}
    (named : ofName? text = some action) : action.name = text := by
  simpa using List.find?_some named

/-- A character that is in ASCII once lowered was so before. -/
lemma ascii_of_toLower {c : Char} (lowered : c.toLower.toNat < 0x80) : c.toNat < 0x80 := by
  unfold Char.toLower at lowered
  split at lowered
  · rename_i letter
    have greatest : c.toNat ≤ 0x5A := letter.2
    omega
  · exact lowered

/-- Every character of a known tag is in ASCII, in whatever case the tag is written. -/
lemma ascii_of_known {cs : List Char} {action : StandardAction}
    (known : ofTag? (asciiLower (String.ofList cs)) = some action) : ∀ c ∈ cs, c.toNat < 0x80 := by
  intro c mem
  apply ascii_of_toLower
  apply ascii_of_mem_tags (mem_tags known)
  simpa [asciiLower] using List.mem_map_of_mem mem

/-- A capitalized tag that is known was written in ASCII from the start. -/
lemma ascii_of_known_upper {c : Char} {rest : List Char} {action : StandardAction}
    (known : ofTag? (asciiLower (String.ofList (upper c ++ rest))) = some action) :
    c.toNat < 0x80 := by
  obtain ⟨head, tail, maps, -⟩ := Text.exists_upper_eq_cons c
  rw [maps] at known
  refine Text.ascii_of_upper_eq_cons maps (fun x mem => ?_) fun stray => ?_
  · exact ascii_of_known known x (List.mem_append_left rest mem)
  · -- the initial of a known tag is none of the three letters
    refine initial_of_mem_tags (mem_tags known) head.toLower ?_ (List.mem_map_of_mem stray)
    simp [asciiLower]

/-- Capitalizing a tag makes it neither known nor unknown. -/
lemma ofTag?_capitalize (tag : String) :
    ofTag? (asciiLower (capitalize tag)) = ofTag? (asciiLower tag) := by
  obtain ⟨cs, rfl⟩ : ∃ cs, tag = String.ofList cs := ⟨tag.toList, by simp⟩
  cases cs with
  | nil => rfl
  | cons c rest =>
    have capitalized :
        capitalize (String.ofList (c :: rest)) = String.ofList (upper c ++ rest) := by
      simp [capitalize, capitalizeChars]
    rw [capitalized]
    by_cases ascii : c.toNat < 0x80
    · refine congrArg ofTag? (String.toList_injective ?_)
      simp [asciiLower, Text.upper_of_ascii ascii, Text.toLower_toUpper ascii]
    · have unknown : ofTag? (asciiLower (String.ofList (c :: rest))) = none :=
        Option.eq_none_iff_forall_ne_some.2 fun action known =>
          ascii (ascii_of_known known c List.mem_cons_self)
      have still : ofTag? (asciiLower (String.ofList (upper c ++ rest))) = none :=
        Option.eq_none_iff_forall_ne_some.2 fun action known => ascii (ascii_of_known_upper known)
      rw [unknown, still]

/-- The names of the standard actions are themselves known tags. -/
lemma ofName?_eq_none {text : String} (unknown : ofTag? (asciiLower text) = none) :
    ofName? text = none := by
  refine Option.eq_none_iff_forall_ne_some.2 fun action named => ?_
  rw [← name_of_ofName? named, ofTag?_name] at unknown
  cases unknown

end StandardAction

/-! ## Reading a tag -/

namespace Action

/-- What a tag stands for: a known tag for its standard action, and any other for an action of its
own, whose name is the capitalized tag and the name of no standard action. -/
structure ReadsAs (tag : String) (action : Action) : Prop where
  standard : ∀ known, action = .standard known ↔
    StandardAction.ofTag? (asciiLower tag) = some known
  other : action.isOther = true ↔ StandardAction.ofTag? (asciiLower tag) = none
  capitalized : action.isOther = true →
    action.name = capitalize tag ∧ ∀ known : StandardAction, known.name ≠ capitalize tag

lemma parse_of_known {tag : String} {action : StandardAction}
    (known : StandardAction.ofTag? (asciiLower tag) = some action) :
    parse tag = .standard action := by
  unfold parse
  unfold asciiLower at known
  rw [known]

lemma parse_of_unknown {tag : String} (unknown : StandardAction.ofTag? (asciiLower tag) = none) :
    ∃ distinct, parse tag = .other (capitalize tag) distinct := by
  have distinct : StandardAction.ofName? (capitalize tag) = none :=
    StandardAction.ofName?_eq_none (by rw [StandardAction.ofTag?_capitalize, unknown])
  refine ⟨distinct, ?_⟩
  unfold parse
  unfold asciiLower at unknown
  rw [unknown]
  show ofName _ = _
  unfold ofName
  split
  · rename_i named
    rw [distinct] at named
    cases named
  · rfl

lemma parse_readsAs (tag : String) : ReadsAs tag (parse tag) := by
  cases read : StandardAction.ofTag? (asciiLower tag) with
  | some action =>
    rw [parse_of_known read]
    exact ⟨by simp [read], by simp [read, isOther], nofun⟩
  | none =>
    obtain ⟨distinct, parsed⟩ := parse_of_unknown read
    rw [parsed]
    refine ⟨by simp [read], by simp [read, isOther], fun _ => ⟨rfl, fun known same => ?_⟩⟩
    rw [← same, StandardAction.ofName?_name] at distinct
    cases distinct

/-- Two tags say the same: they are known tags of one standard action, or unknown ones that look the
same when they are capitalized. -/
def SameTag (first second : String) : Prop :=
  StandardAction.ofTag? (asciiLower first) = StandardAction.ofTag? (asciiLower second) ∧
    (StandardAction.ofTag? (asciiLower first) = none → capitalize first = capitalize second)

lemma parse_eq_parse_iff {first second : String} :
    parse first = parse second ↔ SameTag first second := by
  unfold SameTag
  cases read : StandardAction.ofTag? (asciiLower first) with
  | some action =>
    rw [parse_of_known read]
    have reads := (parse_readsAs second).standard action
    simpa [eq_comm] using reads
  | none =>
    obtain ⟨_, parsed⟩ := parse_of_unknown read
    cases readSecond : StandardAction.ofTag? (asciiLower second) with
    | some action => simp [parsed, parse_of_known readSecond]
    | none =>
      obtain ⟨_, parsedSecond⟩ := parse_of_unknown readSecond
      simp [parsed, parsedSecond]

/-- The name of an action is read as the action itself. -/
lemma parse_name (tag : String) : parse (parse tag).name = parse tag := by
  cases read : StandardAction.ofTag? (asciiLower tag) with
  | some action =>
    rw [parse_of_known read]
    exact parse_of_known (StandardAction.ofTag?_name action)
  | none =>
    obtain ⟨_, parsed⟩ := parse_of_unknown read
    have again : StandardAction.ofTag? (asciiLower (capitalize tag)) = none := by
      rw [StandardAction.ofTag?_capitalize, read]
    obtain ⟨_, reparsed⟩ := parse_of_unknown again
    apply name_injective
    rw [parsed]
    show (parse (capitalize tag)).name = capitalize tag
    rw [reparsed]
    exact Text.capitalize_capitalize tag

/-! ## Order -/

lemma compare_eq_lt_iff {first second : Action} :
    compare first second = .lt ↔ first.name < second.name :=
  compareOfLessAndEq_eq_lt

/-- In a list in weak order whose neighbours differ, an action is strictly below all later ones. -/
lemma pairwise_lt_of_apart {actions : List Action}
    (ordered : actions.Pairwise fun a b => (compare a b).isLE = true)
    (apart : actions.IsChain (· ≠ ·)) : actions.Pairwise fun a b => compare a b = .lt := by
  induction actions with
  | nil => exact .nil
  | cons head rest ih =>
    obtain ⟨least, ordered⟩ := List.pairwise_cons.1 ordered
    have strict := ih ordered apart.tail
    refine List.pairwise_cons.2 ⟨fun later mem => ?_, strict⟩
    cases rest with
    | nil => cases mem
    | cons next rest =>
      have le := least next List.mem_cons_self
      have ne := (List.isChain_cons_cons.1 apart).1
      have lt : compare head next = .lt := lt_of_isLE_of_ne le ne
      obtain rfl | mem := List.mem_cons.1 mem
      · exact lt
      · exact Std.TransCmp.lt_trans lt ((List.pairwise_cons.1 strict).1 later mem)

/-- Sorted actions without equal neighbours have strictly increasing names. -/
lemma pairwise_lt_destutter (actions : List Action) :
    ((actions.mergeSort fun a b => (compare a b).isLE).destutter (· ≠ ·)).Pairwise
      fun first second => first.name < second.name := by
  have sorted : (actions.mergeSort fun a b => (compare a b).isLE).Pairwise
      fun first second => (compare first second).isLE = true := pairwise_isLE_mergeSort id actions
  have ordered := sorted.sublist (List.destutter_sublist (· ≠ ·) _)
  have strict := pairwise_lt_of_apart ordered (List.isChain_destutter _ _)
  exact strict.imp compare_eq_lt_iff.1

/-- **Actions are canonical.** Two tags stand for one action exactly if they say the same, and
exactly if the actions have one name, so that the order of names is an order of actions; the name of
an action stands for the action; no action of its own has a standard name; and a sorted list of
actions without equal neighbours has strictly increasing names. -/
theorem parse_canonical (first second : String) (tags : List String) :
    ReadsAs first (parse first) ∧
      (parse first = parse second ↔ SameTag first second) ∧
      (parse first = parse second ↔ (parse first).name = (parse second).name) ∧
      compare (parse first) (parse second) = compare (parse first).name (parse second).name ∧
      (compare (parse first) (parse second) = .eq ↔ parse first = parse second) ∧
      parse (parse first).name = parse first ∧
      (((tags.map parse).mergeSort fun a b => (compare a b).isLE).destutter (· ≠ ·)).Pairwise
        (·.name < ·.name) :=
  ⟨parse_readsAs first, parse_eq_parse_iff, ⟨congrArg name, name_injective⟩, rfl,
    Std.compare_eq_iff_eq, parse_name first, pairwise_lt_destutter _⟩

end Action

end KubeSchema

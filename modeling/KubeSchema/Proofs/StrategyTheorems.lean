import KubeSchema.MergeStrategy
import KubeSchema.Proofs.WordsTheorems
import Mathlib.Data.List.Induction
import Mathlib.Logic.Relation

/-!
# What a patch strategy depends on

A strategy is read off the tokens of a text one after the other. The reading amounts to asking
which of the two known tokens are there: their order, their number, the blanks around them, and
tokens that mean nothing here make no difference. `Edit` lists these differences. Main statement:
`MergeStrategy.parse_by_tokens`, by which two texts give one strategy exactly if edits lead from the
pieces of one to the pieces of the other.
-/

namespace KubeSchema.MergeStrategy

open Text (Trims trimChars trims_iff)

/-! ## The tokens of a text -/

/-- The pieces of a text stand between its commas. -/
structure HasPieces (text : String) (pieces : List (List Char)) : Prop where
  joined : text.toList = [','].intercalate pieces
  nonempty : pieces ≠ []
  apart : ∀ piece ∈ pieces, ',' ∉ piece

/-- The tokens of pieces: what is left of each without the blanks around it, unless nothing. -/
inductive Holds : List (List Char) → List String → Prop
  | done : Holds [] []
  | blank {piece : List Char} {rest : List (List Char)} {found : List String}
      (nothing : Trims piece []) (others : Holds rest found) : Holds (piece :: rest) found
  | token {piece core : List Char} {rest : List (List Char)} {found : List String}
      (trims : Trims piece core) (something : core ≠ []) (others : Holds rest found) :
      Holds (piece :: rest) (String.ofList core :: found)

/-- The tokens of a text. -/
def HasTokens (text : String) (found : List String) : Prop :=
  ∃ pieces, HasPieces text pieces ∧ Holds pieces found

/-- The tokens of pieces, computed. -/
def tokensOf (pieces : List (List Char)) : List String :=
  ((pieces.map trimChars).filter (!·.isEmpty)).map String.ofList

variable {text : String} {pieces rest : List (List Char)} {found : List String}

lemma tokens_eq (text : String) : tokens text = tokensOf (text.toList.splitOn ',') :=
  rfl

lemma hasPieces_iff : HasPieces text pieces ↔ text.toList.splitOn ',' = pieces := by
  constructor
  · intro has
    rw [has.joined, List.splitOn_intercalate ',' has.apart has.nonempty]
  · rintro rfl
    refine ⟨(List.intercalate_splitOn ',').symm, List.splitOn_ne_nil ',' _, ?_⟩
    intro piece mem comma
    have whole := Text.not_separator_of_mem_splitOnP mem ',' comma
    simp at whole

lemma tokensOf_cons_of_blank {piece : List Char} (nothing : trimChars piece = []) :
    tokensOf (piece :: rest) = tokensOf rest := by
  simp [tokensOf, nothing]

lemma tokensOf_cons_of_token {piece : List Char} (something : trimChars piece ≠ []) :
    tokensOf (piece :: rest) = String.ofList (trimChars piece) :: tokensOf rest := by
  simp [tokensOf, something]

lemma holds_iff : Holds pieces found ↔ tokensOf pieces = found := by
  constructor
  · intro holds
    induction holds with
    | done => rfl
    | blank nothing _ ih => rw [tokensOf_cons_of_blank (trims_iff.1 nothing), ih]
    | token trims something _ ih =>
      obtain rfl := trims_iff.1 trims
      rw [tokensOf_cons_of_token something, ih]
  · rintro rfl
    induction pieces with
    | nil => exact .done
    | cons piece rest ih =>
      by_cases nothing : trimChars piece = []
      · rw [tokensOf_cons_of_blank nothing]
        exact .blank (trims_iff.2 nothing) ih
      · rw [tokensOf_cons_of_token nothing]
        exact .token (trims_iff.2 rfl) nothing ih

lemma hasTokens_iff : HasTokens text found ↔ tokens text = found := by
  simp [HasTokens, hasPieces_iff, holds_iff, tokens_eq]

/-! ## Reading the tokens -/

/-- The tokens that mean something. -/
def known : List String :=
  ["merge", "retainKeys"]

/-- What a list of tokens stands for: the strategy asks for what stands among them, and the others
are left over, in order and as often as they occur. -/
structure Answers (found : List String) (answer : MergeStrategy × List String) : Prop where
  merges : answer.1.isMerge = true ↔ "merge" ∈ found
  retains : answer.1.isRetainKeys = true ↔ "retainKeys" ∈ found
  others : answer.2 = found.filter fun token => decide (token ∉ known)

/-- The request that tokens amount to, whatever their order. -/
def Request.ofTokens (found : List String) : Request :=
  ⟨decide ("merge" ∈ found), decide ("retainKeys" ∈ found),
    found.filter fun token => decide (token ∉ known)⟩

/-- One token more. -/
lemma add_ofTokens (found : List String) (token : String) :
    (Request.ofTokens found).add token = Request.ofTokens (found ++ [token]) := by
  by_cases merge : token = "merge"
  · simp [Request.ofTokens, Request.add, known, merge]
  · by_cases retain : token = "retainKeys"
    · simp [Request.ofTokens, Request.add, known, retain]
    · have other : token ∉ known := by simp [known, merge, retain]
      simp [Request.ofTokens, Request.add, merge, retain, other, Ne.symm merge, Ne.symm retain]

/-- All tokens, read one after the other. -/
lemma foldl_add (found : List String) :
    found.foldl Request.add Request.none = Request.ofTokens found := by
  induction found using List.reverseRecOn with
  | nil => rfl
  | append_singleton rest token ih =>
    rw [List.foldl_append, ih, List.foldl_cons, List.foldl_nil, add_ofTokens]

/-- Reading a text is asking for its tokens. -/
lemma parse_eq (text : String) :
    parse text = ((Request.ofTokens (tokens text)).strategy,
      (Request.ofTokens (tokens text)).unknown) := by
  rw [← foldl_add]
  rfl

lemma isMerge_strategy (request : Request) : request.strategy.isMerge = request.merge := by
  obtain ⟨merge, retainKeys, unknown⟩ := request
  cases merge <;> cases retainKeys <;> rfl

lemma isRetainKeys_strategy (request : Request) :
    request.strategy.isRetainKeys = request.retainKeys := by
  obtain ⟨merge, retainKeys, unknown⟩ := request
  cases merge <;> cases retainKeys <;> rfl

lemma answers_parse (text : String) : Answers (tokens text) (parse text) := by
  rw [parse_eq]
  refine ⟨?_, ?_, rfl⟩
  · rw [isMerge_strategy]
    exact decide_eq_true_iff
  · rw [isRetainKeys_strategy]
    exact decide_eq_true_iff

/-- A strategy is what it asks for. -/
lemma eq_iff {first second : MergeStrategy} :
    first = second ↔
      first.isMerge = second.isMerge ∧ first.isRetainKeys = second.isRetainKeys := by
  cases first <;> cases second <;> decide

/-- Two texts give one strategy exactly if they have the same known tokens. -/
lemma parse_fst_eq_iff {first second : String} :
    (parse first).1 = (parse second).1 ↔
      ∀ token ∈ known, token ∈ tokens first ↔ token ∈ tokens second := by
  have left := answers_parse first
  have right := answers_parse second
  rw [eq_iff, Bool.eq_iff_iff, Bool.eq_iff_iff (a := (parse first).1.isRetainKeys), left.merges,
    left.retains, right.merges, right.retains]
  simp [known]

/-! ## Edits -/

/-- A change of the pieces of a text that asks for nothing else: they are put in another order, or
one of them gets other blanks around it, or one is put in that is blank, that has the same token as
another one, or whose token means nothing. -/
inductive Edit : List (List Char) → List (List Char) → Prop
  | reorder {first second : List (List Char)} (perm : first.Perm second) : Edit first second
  | pad {piece padded core : List Char} (before after : List (List Char)) (trims : Trims piece core)
      (trimsPadded : Trims padded core) :
      Edit (before ++ piece :: after) (before ++ padded :: after)
  | blank {piece : List Char} (before after : List (List Char)) (nothing : Trims piece []) :
      Edit (before ++ after) (before ++ piece :: after)
  | again {piece other core : List Char} (before after : List (List Char))
      (mem : other ∈ before ++ after) (trimsOther : Trims other core) (trims : Trims piece core) :
      Edit (before ++ after) (before ++ piece :: after)
  | unknown {piece core : List Char} (before after : List (List Char)) (trims : Trims piece core)
      (meaningless : String.ofList core ∉ known) :
      Edit (before ++ after) (before ++ piece :: after)

/-- Two texts whose pieces are linked by edits. -/
def Reworded (first second : String) : Prop :=
  ∃ pieces others, HasPieces first pieces ∧ HasPieces second others ∧
    Relation.EqvGen Edit pieces others

/-- Two texts with the same tokens in any order. -/
def Rearranged (first second : String) : Prop :=
  ∃ found others, HasTokens first found ∧ HasTokens second others ∧ found.Perm others

lemma ne_nil_of_known {token : String} (mem : token ∈ known) : token.toList ≠ [] := by
  have checked : ∀ token ∈ known, token.toList ≠ [] := by decide
  exact checked token mem

lemma trims_of_known {token : String} (mem : token ∈ known) :
    Trims token.toList token.toList := by
  rw [trims_iff]
  have checked : ∀ token ∈ known, trimChars token.toList = token.toList := by decide
  exact checked token mem

/-- A known token stands among the tokens if a piece is this token between blanks. -/
lemma mem_tokensOf_iff {token : String} (mem : token ∈ known) :
    token ∈ tokensOf pieces ↔ ∃ piece ∈ pieces, trimChars piece = token.toList := by
  constructor
  · intro inside
    obtain ⟨core, core_mem, rfl⟩ := List.mem_map.1 inside
    obtain ⟨piece, piece_mem, trimmed⟩ := List.mem_map.1 (List.mem_filter.1 core_mem).1
    exact ⟨piece, piece_mem, by simpa using trimmed⟩
  · intro ⟨piece, piece_mem, trimmed⟩
    have core_mem : token.toList ∈ pieces.map trimChars :=
      List.mem_map.2 ⟨piece, piece_mem, trimmed⟩
    have kept : token.toList ∈ (pieces.map trimChars).filter (!·.isEmpty) :=
      List.mem_filter.2 ⟨core_mem, by simp [ne_nil_of_known mem]⟩
    exact List.mem_map.2 ⟨token.toList, kept, by simp⟩

lemma mem_tokensOf_insert {token : String} (mem : token ∈ known) (piece : List Char)
    (before after : List (List Char)) :
    token ∈ tokensOf (before ++ piece :: after) ↔
      trimChars piece = token.toList ∨ token ∈ tokensOf (before ++ after) := by
  rw [mem_tokensOf_iff mem, mem_tokensOf_iff mem]
  simp only [List.mem_append, List.mem_cons]
  grind

/-- One edit keeps the known tokens. -/
lemma Edit.mem_iff {first second : List (List Char)} (edit : Edit first second) {token : String}
    (mem : token ∈ known) : token ∈ tokensOf first ↔ token ∈ tokensOf second := by
  cases edit with
  | reorder perm =>
    rw [mem_tokensOf_iff mem, mem_tokensOf_iff mem]
    simp only [perm.mem_iff]
  | pad before after trims trimsPadded =>
    rw [mem_tokensOf_insert mem, mem_tokensOf_insert mem, trims_iff.1 trims,
      trims_iff.1 trimsPadded]
  | blank before after nothing =>
    rw [mem_tokensOf_insert mem, trims_iff.1 nothing, or_iff_right]
    exact fun same => ne_nil_of_known mem same.symm
  | again before after inside trimsOther trims =>
    rw [mem_tokensOf_insert mem, trims_iff.1 trims, or_iff_right_of_imp]
    intro same
    exact (mem_tokensOf_iff mem).2 ⟨_, inside, (trims_iff.1 trimsOther).trans same⟩
  | unknown before after trims meaningless =>
    rw [mem_tokensOf_insert mem, trims_iff.1 trims, or_iff_right]
    intro same
    rw [same, String.ofList_toList] at meaningless
    exact meaningless mem

/-- Any number of edits keeps the known tokens. -/
lemma mem_iff_of_eqvGen {first second : List (List Char)}
    (linked : Relation.EqvGen Edit first second) {token : String} (mem : token ∈ known) :
    token ∈ tokensOf first ↔ token ∈ tokensOf second := by
  induction linked with
  | rel _ _ edit => exact edit.mem_iff mem
  | refl _ => exact Iff.rfl
  | symm _ _ _ ih => exact ih.symm
  | trans _ _ _ _ _ first second => exact first.trans second

/-! ## The known tokens alone -/

/-- The known tokens of pieces, once each. -/
def essence (pieces : List (List Char)) : List (List Char) :=
  (known.filter fun token => decide (token ∈ tokensOf pieces)).map String.toList

lemma essence_congr {first second : List (List Char)}
    (same : ∀ token ∈ known, token ∈ tokensOf first ↔ token ∈ tokensOf second) :
    essence first = essence second := by
  refine congrArg (List.map String.toList) (List.filter_congr fun token mem => ?_)
  rw [decide_eq_decide]
  exact same token mem

lemma mem_tokensOf_cons {token : String} (mem : token ∈ known) (piece : List Char)
    (rest : List (List Char)) :
    token ∈ tokensOf (piece :: rest) ↔ trimChars piece = token.toList ∨ token ∈ tokensOf rest :=
  mem_tokensOf_insert mem piece [] rest

/-- A piece changes nothing if its token means nothing or is there already. -/
lemma essence_cons_of_idle {piece : List Char}
    (idle : ∀ token ∈ known, trimChars piece = token.toList → token ∈ tokensOf rest) :
    essence (piece :: rest) = essence rest := by
  refine essence_congr fun token mem => ?_
  rw [mem_tokensOf_cons mem]
  exact or_iff_right_of_imp (idle token mem)

/-- A known token that is new takes its place among the others. -/
lemma essence_cons_of_new {piece : List Char} {token : String} (mem : token ∈ known)
    (trimmed : trimChars piece = token.toList) (new : token ∉ tokensOf rest) :
    (essence (piece :: rest)).Perm (token.toList :: essence rest) := by
  have nodup : known.Nodup := by decide
  have perm : (known.filter fun other => decide (other ∈ tokensOf (piece :: rest))).Perm
      (token :: known.filter fun other => decide (other ∈ tokensOf rest)) := by
    refine (List.perm_ext_iff_of_nodup (nodup.filter _) ?_).2 fun other => ?_
    · exact List.nodup_cons.2 ⟨by simp [new], nodup.filter _⟩
    · rw [List.mem_cons, List.mem_filter, List.mem_filter, decide_eq_true_iff, decide_eq_true_iff]
      by_cases inside : other ∈ known
      · rw [mem_tokensOf_cons inside, trimmed, String.toList_inj, eq_comm (a := token)]
        simp [inside]
      · have apart : other ≠ token := fun same => inside (same ▸ mem)
        simp [inside, apart]
  exact perm.map String.toList

lemma Edit.cons {first second : List (List Char)} (piece : List Char) (edit : Edit first second) :
    Edit (piece :: first) (piece :: second) := by
  cases edit with
  | reorder perm => exact .reorder (perm.cons piece)
  | pad before after trims trimsPadded => exact .pad (piece :: before) after trims trimsPadded
  | blank before after nothing => exact .blank (piece :: before) after nothing
  | again before after mem trimsOther trims =>
    exact .again (piece :: before) after (List.mem_cons_of_mem piece mem) trimsOther trims
  | unknown before after trims meaningless =>
    exact .unknown (piece :: before) after trims meaningless

lemma eqvGen_cons {first second : List (List Char)} (piece : List Char)
    (linked : Relation.EqvGen Edit first second) :
    Relation.EqvGen Edit (piece :: first) (piece :: second) := by
  induction linked with
  | rel _ _ edit => exact .rel _ _ (edit.cons piece)
  | refl _ => exact .refl _
  | symm _ _ _ ih => exact .symm _ _ ih
  | trans _ _ _ _ _ first second => exact .trans _ _ _ first second

/-- A piece that is put in front of the known tokens goes away, or takes its place among them. -/
lemma eqvGen_cons_essence (piece : List Char) (rest : List (List Char)) :
    Relation.EqvGen Edit (piece :: essence rest) (essence (piece :: rest)) := by
  obtain ⟨token, trimmed⟩ : ∃ token : String, trimChars piece = token.toList :=
    ⟨String.ofList (trimChars piece), by simp⟩
  have trims : Trims piece token.toList := trims_iff.2 trimmed
  by_cases mem : token ∈ known
  · by_cases new : token ∉ tokensOf rest
    · -- only the blanks around it go away
      have padded : Edit (piece :: essence rest) (token.toList :: essence rest) :=
        .pad [] (essence rest) trims (trims_of_known mem)
      have reordered : Edit (token.toList :: essence rest) (essence (piece :: rest)) :=
        .reorder (essence_cons_of_new mem trimmed new).symm
      exact .trans _ _ _ (.rel _ _ padded) (.rel _ _ reordered)
    · have there : token ∈ tokensOf rest := not_not.1 new
      have idle : essence (piece :: rest) = essence rest := by
        refine essence_cons_of_idle fun other _ same => ?_
        rwa [← String.toList_injective (trimmed.symm.trans same)]
      have inside : token.toList ∈ essence rest :=
        List.mem_map_of_mem (List.mem_filter.2 ⟨mem, decide_eq_true there⟩)
      rw [idle]
      exact .symm _ _ (.rel _ _ (.again [] (essence rest) inside (trims_of_known mem) trims))
  · have idle : essence (piece :: rest) = essence rest := by
      refine essence_cons_of_idle fun other known same => absurd known ?_
      rwa [← String.toList_injective (trimmed.symm.trans same)]
    have meaningless : String.ofList token.toList ∉ known := by simpa using mem
    rw [idle]
    exact .symm _ _ (.rel _ _ (.unknown [] (essence rest) trims meaningless))

/-- Edits strip a list of pieces down to its known tokens, once each. -/
lemma eqvGen_essence (pieces : List (List Char)) :
    Relation.EqvGen Edit pieces (essence pieces) := by
  induction pieces with
  | nil => exact .refl []
  | cons piece rest ih =>
    exact .trans _ _ _ (eqvGen_cons piece ih) (eqvGen_cons_essence piece rest)

lemma parse_fst_eq_iff_reworded {first second : String} :
    (parse first).1 = (parse second).1 ↔ Reworded first second := by
  rw [parse_fst_eq_iff, tokens_eq, tokens_eq]
  constructor
  · intro same
    have left := eqvGen_essence (first.toList.splitOn ',')
    have right := eqvGen_essence (second.toList.splitOn ',')
    rw [essence_congr same] at left
    exact ⟨_, _, hasPieces_iff.2 rfl, hasPieces_iff.2 rfl, .trans _ _ _ left (.symm _ _ right)⟩
  · intro ⟨pieces, others, hasFirst, hasSecond, linked⟩ token mem
    rw [hasPieces_iff.1 hasFirst, hasPieces_iff.1 hasSecond]
    exact mem_iff_of_eqvGen linked mem

/-- **A strategy depends on the set of known tokens.** A text has one list of tokens; its strategy
asks for the known ones among them, and the others are left over in order. Two texts have one
strategy exactly if their pieces are linked by edits that move, repeat or pad a token, or put in a
blank or an unknown one; in particular if they have the same tokens in any order. -/
theorem parse_by_tokens (first second : String) :
    (∃ found, (∀ other, HasTokens first other ↔ other = found) ∧ Answers found (parse first)) ∧
      ((parse first).1 = (parse second).1 ↔ Reworded first second) ∧
      (Rearranged first second → (parse first).1 = (parse second).1) := by
  refine ⟨⟨tokens first, fun other => ?_, answers_parse first⟩, parse_fst_eq_iff_reworded, ?_⟩
  · rw [hasTokens_iff, eq_comm]
  · intro ⟨found, others, hasFirst, hasSecond, perm⟩
    rw [parse_fst_eq_iff, hasTokens_iff.1 hasFirst, hasTokens_iff.1 hasSecond]
    exact fun token _ => perm.mem_iff

/-- Both known tokens in either order, with blanks, an empty piece and an unknown token. -/
theorem parse_by_tokens_of_rearranged :
    Rearranged "merge, replace ,\tretainKeys" "retainKeys,,replace ,merge" ∧
      (parse "merge, replace ,\tretainKeys").1 = (parse "retainKeys,,replace ,merge").1 := by
  have rearranged : Rearranged "merge, replace ,\tretainKeys" "retainKeys,,replace ,merge" :=
    ⟨["merge", "replace", "retainKeys"], ["retainKeys", "replace", "merge"],
      hasTokens_iff.2 rfl, hasTokens_iff.2 rfl, by decide⟩
  exact ⟨rearranged, (parse_by_tokens _ _).2.2 rearranged⟩

end KubeSchema.MergeStrategy

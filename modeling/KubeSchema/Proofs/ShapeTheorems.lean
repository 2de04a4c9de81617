import KubeSchema.Document.Shape
import KubeSchema.Proofs.LoopTheorems

/-!
# Two values shaped alike

Shaping is followed here on two values at once. Their outcomes are compared up to a view of the
error: as they are, or without saying why a value does not fit. A record is a loop over its members,
so values that are alike for one field are alike for the record that holds them. Main lemmas:
`Shape.Layout.alike_member`, `Shape.Layout.alike_element` and, on the order of members,
`PropertySchema.ofMembers_perm`.
-/

namespace KubeSchema

/-! ## Outcomes up to a view of the error -/

section Views

variable {ε δ α β γ : Type} {view : ε → δ}

/-- Two outcomes are the same as far as the view of an error tells. -/
def SameUpTo (view : ε → δ) (left right : Except ε α) : Prop :=
  left.mapError view = right.mapError view

namespace SameUpTo

lemma refl (outcome : Except ε α) : SameUpTo view outcome outcome :=
  rfl

/-- Outcomes that are the same are one value, or two errors that the view does not tell apart. -/
lemma cases {left right : Except ε α} (same : SameUpTo view left right) :
    (∃ value, left = .ok value ∧ right = .ok value) ∨
      ∃ error other, left = .error error ∧ right = .error other ∧ view error = view other := by
  cases left with
  | error error =>
    cases right with
    | error other => exact .inr ⟨error, other, rfl, rfl, Except.error.inj same⟩
    | ok value => cases same
  | ok value =>
    cases right with
    | error other => cases same
    | ok image => exact .inl ⟨value, rfl, congrArg Except.ok (Except.ok.inj same).symm⟩

/-- Outcomes that are the same stay so when they are followed by the same steps. -/
lemma bind {left right : Except ε α} {next other : α → Except ε β}
    (same : SameUpTo view left right) (rest : ∀ value, SameUpTo view (next value) (other value)) :
    SameUpTo view (left >>= next) (right >>= other) := by
  obtain ⟨value, rfl, rfl⟩ | ⟨error, reason, rfl, rfl, equal⟩ := same.cases
  · exact rest value
  · exact congrArg Except.error equal

lemma map {left right : Except ε α} (same : SameUpTo view left right) (f : α → β) :
    SameUpTo view (left.map f) (right.map f) := by
  obtain ⟨value, rfl, rfl⟩ | ⟨error, reason, rfl, rfl, equal⟩ := same.cases
  · exact .refl _
  · exact congrArg Except.error equal

/-- Where every error is replaced by one, it does not matter how much of it could be seen. -/
lemma mapError_const {ε' δ' : Type} {left right : Except ε α} (same : SameUpTo view left right)
    (error : ε') (view' : ε' → δ') :
    SameUpTo view' (left.mapError fun _ => error) (right.mapError fun _ => error) := by
  obtain ⟨value, rfl, rfl⟩ | ⟨first, second, rfl, rfl, -⟩ := same.cases
  · exact .refl _
  · exact .refl _

/-- Loops that differ in one element are the same if the element is taken in the same way. -/
lemma foldlM {step : β → γ → Except ε β} {head image : γ}
    (same : ∀ state, SameUpTo view (step state head) (step state image)) (front back : List γ)
    (start : β) :
    SameUpTo view ((front ++ head :: back).foldlM step start)
      ((front ++ image :: back).foldlM step start) := by
  rw [List.foldlM_append, List.foldlM_append]
  refine (refl _).bind fun state => ?_
  rw [List.foldlM_cons, List.foldlM_cons]
  exact (same state).bind fun state => .refl _

lemma mapM {step : γ → Except ε β} {head image : γ} (same : SameUpTo view (step head) (step image))
    (front back : List γ) :
    SameUpTo view ((front ++ head :: back).mapM step) ((front ++ image :: back).mapM step) := by
  rw [List.mapM_append, List.mapM_append, List.mapM_cons, List.mapM_cons]
  refine (refl _).bind fun before => ?_
  exact (same.bind fun value => .refl _).bind fun after => .refl _

end SameUpTo

lemma sameUpTo_id_iff {left right : Except ε α} : SameUpTo id left right ↔ left = right := by
  have same : ∀ outcome : Except ε α, outcome.mapError id = outcome := by
    intro outcome
    cases outcome <;> rfl
  rw [SameUpTo, same, same]

lemma sameUpTo_const_iff {left right : Except ε α} :
    SameUpTo (fun _ => ()) left right ↔ left.toOption = right.toOption := by
  cases left <;> cases right <;> simp [SameUpTo, Except.mapError, Except.toOption]

end Views

/-! ## Values that are alike -/

namespace Json

/-- The values are the same, or both are objects, or both are arrays. -/
inductive SameForm : Json → Json → Prop
  | same (value : Json) : SameForm value value
  | object (members others : List (String × Json)) : SameForm (.object members) (.object others)
  | array (elements others : List Json) : SameForm (.array elements) (.array others)

namespace SameForm

variable {first second third : Json}

lemma symm (form : SameForm first second) : SameForm second first := by
  cases form with
  | same => exact .same _
  | object => exact .object _ _
  | array => exact .array _ _

lemma trans (form : SameForm first second) (next : SameForm second third) :
    SameForm first third := by
  cases form with
  | same => exact next
  | object =>
    cases next with
    | same => exact .object _ _
    | object => exact .object _ _
  | array =>
    cases next with
    | same => exact .array _ _
    | array => exact .array _ _

end SameForm

end Json

/-- Two values of one form whose shaping has the same outcome. -/
structure Alike {α δ : Type} (view : ShapeError → δ) (shape : Json → Shaped α)
    (value other : Json) : Prop where
  form : value.SameForm other
  same : SameUpTo view (shape value) (shape other)

namespace Alike

variable {α δ : Type} {view : ShapeError → δ} {shape : Json → Shaped α} {first second third : Json}

lemma refl (value : Json) : Alike view shape value value :=
  ⟨.same value, .refl _⟩

lemma symm (alike : Alike view shape first second) : Alike view shape second first :=
  ⟨alike.form.symm, Eq.symm alike.same⟩

lemma trans (alike : Alike view shape first second) (next : Alike view shape second third) :
    Alike view shape first third :=
  ⟨alike.form.trans next.form, Eq.trans alike.same next.same⟩

end Alike

namespace Shape

section Containers

variable {α δ : Type} {view : ShapeError → δ} {shape : Json → Shaped α} {value other : Json}

lemma alike_optional (alike : Alike view shape value other) :
    SameUpTo view (optional shape value) (optional shape other) := by
  have form := alike.form
  cases form with
  | same => exact .refl _
  | object => exact alike.same.map some
  | array => exact alike.same.map some

lemma alike_sequence (alike : Alike view shape value other) (front back : List Json) :
    Alike view (sequence shape) (.array (front ++ value :: back))
      (.array (front ++ other :: back)) :=
  ⟨.array _ _, SameUpTo.mapM alike.same front back⟩

lemma alike_map (alike : Alike view shape value other) (key : String)
    (front back : List (String × Json)) :
    Alike view (map shape) (.object (front ++ (key, value) :: back))
      (.object (front ++ (key, other) :: back)) :=
  ⟨.object _ _,
    (SameUpTo.mapM (alike.same.bind fun _ => .refl _) front back).bind fun _ => .refl _⟩

end Containers

/-! ## Records -/

namespace Layout

variable {ρ φ δ : Type} {layout : Layout ρ φ} {view : ShapeError → δ} {value other : Json}

/-- Takes one member of an object into a record. -/
def takeMember (layout : Layout ρ φ) (target : ρ) (member : String × Json) : Shaped ρ :=
  match layout.field? member.1 with
  | none => .ok target
  | some field => layout.set target field member.2

lemma takeMembers_eq_foldlM (target : ρ) (members : List (String × Json)) :
    layout.takeMembers target members = members.foldlM layout.takeMember target := by
  induction members generalizing target with
  | nil => rfl
  | cons member rest ih =>
    obtain ⟨key, value⟩ := member
    rw [takeMembers, List.foldlM_cons, takeMember]
    dsimp only
    cases layout.field? key with
    | none => exact ih target
    | some field => exact congrArg (layout.set target field value >>= ·) (funext ih)

/-- Members that are no field of the record may be left out. -/
lemma takeMembers_filter (target : ρ) (members : List (String × Json)) :
    layout.takeMembers target members =
      layout.takeMembers target (members.filter fun member => (layout.field? member.1).isSome) := by
  rw [takeMembers_eq_foldlM, takeMembers_eq_foldlM]
  refine foldlM_filter_of_skip fun target member unread => ?_
  rw [takeMember, Option.not_isSome_iff_eq_none.1 (Bool.eq_false_iff.1 unread)]

lemma read_object_congr {before after : List (String × Json)}
    (same : before.filter (fun member => (layout.field? member.1).isSome) =
      after.filter fun member => (layout.field? member.1).isSome) (start : ρ) :
    layout.read start (.object before) = layout.read start (.object after) := by
  unfold read
  dsimp only
  rw [takeMembers_filter, same, ← takeMembers_filter]

lemma takeMembers_member {key : String} {field : φ} (found : layout.field? key = some field)
    (same : ∀ target, SameUpTo view (layout.set target field value)
      (layout.set target field other)) (target : ρ) (front back : List (String × Json)) :
    SameUpTo view (layout.takeMembers target (front ++ (key, value) :: back))
      (layout.takeMembers target (front ++ (key, other) :: back)) := by
  rw [takeMembers_eq_foldlM, takeMembers_eq_foldlM]
  refine SameUpTo.foldlM (fun target => ?_) front back target
  unfold takeMember
  dsimp only
  rw [found]
  exact same target

lemma takeElements_element {fields : List (φ × String)} {front : List Json}
    (same : ∀ entry ∈ fields[front.length]?, ∀ target,
      SameUpTo view (layout.set target entry.1 value) (layout.set target entry.1 other))
    (length : Nat) (target : ρ) (back : List Json) :
    SameUpTo view (layout.takeElements length target fields (front ++ value :: back))
      (layout.takeElements length target fields (front ++ other :: back)) := by
  induction front generalizing fields target with
  | nil =>
    cases fields with
    | nil => exact .refl _
    | cons entry fields => exact (same entry rfl target).bind fun target => .refl _
  | cons first front ih =>
    cases fields with
    | nil => exact .refl _
    | cons entry fields => exact (SameUpTo.refl _).bind fun target => ih same target

end Layout

end Shape

/-! ## Property schemas -/

namespace PropertySchema

open Shape (Layout)

/-- How a property schema is written. As an object it is read more strictly than other records: no
field may be given twice. -/
def layout : Layout PropertySchema Field where
  kind := .property
  fields := Field.all.map fun field => (field, field.key)
  field? := Field.ofKey?
  set node field value := withField node field value (ofJson value)

lemma ofElements_eq_takeElements (length : Nat) (node : PropertySchema) (fields : List Field)
    (elements : List Json) :
    ofElements length node fields elements =
      layout.takeElements length node (fields.map fun field => (field, field.key)) elements := by
  induction elements generalizing node fields with
  | nil => cases fields <;> rfl
  | cons value rest ih =>
    cases fields with
    | nil => rfl
    | cons field fields =>
      rw [ofElements]
      exact congrArg (withField node field value (ofJson value) >>= ·)
        (funext fun node => ih node _)

lemma ofJson_array (elements : List Json) :
    ofJson (.array elements) = layout.read {} (.array elements) := by
  rw [ofJson]
  exact ofElements_eq_takeElements _ _ _ _

lemma ofJson_object (members : List (String × Json)) :
    ofJson (.object members) = ofMembers {} [] members := by
  rw [ofJson]

/-- Takes one member of an object into a schema and the fields given so far. -/
def takeMember (state : PropertySchema × List Field) (member : String × Json) :
    Shaped (PropertySchema × List Field) :=
  match Field.ofKey? member.1 with
  | none => .ok state
  | some field =>
    if state.2.contains field then .error (.duplicateField field.key)
    else do return (← withField state.1 field member.2 (ofJson member.2), field :: state.2)

lemma ofMembers_eq_foldlM (node : PropertySchema) (seen : List Field)
    (members : List (String × Json)) :
    ofMembers node seen members = (members.foldlM takeMember (node, seen)).map Prod.fst := by
  induction members generalizing node seen with
  | nil => rw [ofMembers]; rfl
  | cons member rest ih =>
    obtain ⟨key, value⟩ := member
    rw [ofMembers, List.foldlM_cons, takeMember]
    dsimp only
    cases Field.ofKey? key with
    | none => exact ih node seen
    | some field =>
      dsimp only
      split
      · rfl
      · cases withField node field value (ofJson value) with
        | error error => rfl
        | ok node => exact ih node _

/-- Members that are no field of a schema may be left out. -/
lemma ofMembers_filter (members : List (String × Json)) :
    ofMembers {} [] members =
      ofMembers {} [] (members.filter fun member => (Field.ofKey? member.1).isSome) := by
  rw [ofMembers_eq_foldlM, ofMembers_eq_foldlM]
  refine congrArg (Except.map Prod.fst) (foldlM_filter_of_skip fun state member unread => ?_)
  rw [takeMember, Option.not_isSome_iff_eq_none.1 (Bool.eq_false_iff.1 unread)]

lemma ofJson_object_congr {before after : List (String × Json)}
    (same : before.filter (fun member => (Field.ofKey? member.1).isSome) =
      after.filter fun member => (Field.ofKey? member.1).isSome) :
    ofJson (.object before) = ofJson (.object after) := by
  rw [ofJson_object, ofJson_object, ofMembers_filter, same, ← ofMembers_filter]

lemma ofMembers_member {δ : Type} {view : ShapeError → δ} {value other : Json} {key : String}
    {field : Field} (found : Field.ofKey? key = some field)
    (same : ∀ node, SameUpTo view (withField node field value (ofJson value))
      (withField node field other (ofJson other))) (front back : List (String × Json)) :
    SameUpTo view (ofMembers {} [] (front ++ (key, value) :: back))
      (ofMembers {} [] (front ++ (key, other) :: back)) := by
  rw [ofMembers_eq_foldlM, ofMembers_eq_foldlM]
  refine (SameUpTo.foldlM (fun state => ?_) front back _).map Prod.fst
  unfold takeMember
  dsimp only
  rw [found]
  dsimp only
  split
  · exact .refl _
  · exact (same state.1).bind fun node => .refl _

/-- A schema does not tell the keys of a field apart. -/
lemma ofMembers_respelled {old new : String} (spelled : Field.ofKey? old = Field.ofKey? new)
    (value : Json) (front back : List (String × Json)) :
    ofMembers {} [] (front ++ (old, value) :: back) =
      ofMembers {} [] (front ++ (new, value) :: back) := by
  have same : ∀ state, takeMember state (old, value) = takeMember state (new, value) := by
    intro state
    unfold takeMember
    dsimp only
    rw [spelled]
  apply sameUpTo_id_iff.1
  rw [ofMembers_eq_foldlM, ofMembers_eq_foldlM]
  exact (SameUpTo.foldlM (fun state => sameUpTo_id_iff.2 (same state)) front back _).map Prod.fst

/-! ## The order of members -/

/-- The value of one field. -/
inductive Part
  | typeName (value : Option String)
  | format (value : Option String)
  | items (value : Option PropertySchema)
  | additional (value : Option (AdditionalProperties PropertySchema))
  | reference (value : Option String)
  | description (value : Option String)
  | patchStrategy (value : Option String)
  | patchMergeKey (value : Option String)
  | intOrString (value : Bool)

/-- The field that a part is the value of. -/
def Part.field : Part → Field
  | typeName _ => .typeName
  | format _ => .format
  | items _ => .items
  | additional _ => .additional
  | reference _ => .reference
  | description _ => .description
  | patchStrategy _ => .patchStrategy
  | patchMergeKey _ => .patchMergeKey
  | intOrString _ => .intOrString

/-- The schema with a part in the place of its field. -/
def put (node : PropertySchema) : Part → PropertySchema
  | .typeName value => { node with typeName := value }
  | .format value => { node with format := value }
  | .items value => { node with items := value }
  | .additional value => { node with additional := value }
  | .reference value => { node with reference := value }
  | .description value => { node with description := value }
  | .patchStrategy value => { node with patchStrategy := value }
  | .patchMergeKey value => { node with patchMergeKey := value }
  | .intOrString value => { node with intOrString := value }

/-- Values of different fields may be put in either order. -/
lemma put_comm (node : PropertySchema) {first second : Part} (ne : first.field ≠ second.field) :
    (node.put first).put second = (node.put second).put first := by
  cases first <;> cases second <;> first | rfl | exact absurd rfl ne

/-- What a field puts into a schema, or why it puts nothing, does not depend on the schema. -/
structure Puts (field : Field) (part : Shaped Part) (value : Json)
    (nested : Shaped PropertySchema) : Prop where
  eq_map : ∀ node, withField node field value nested = part.map (put node)
  field_eq : ∀ value, part = .ok value → value.field = field

lemma puts_map {α : Type} {field : Field} {value : Json} {nested : Shaped PropertySchema}
    (outcome : Shaped α) (make : α → Part) (field_eq : ∀ value, (make value).field = field)
    (eq_map : ∀ node, withField node field value nested = outcome.map (put node ∘ make)) :
    Puts field (outcome.map make) value nested := by
  cases outcome with
  | error error => exact ⟨eq_map, nofun⟩
  | ok value =>
    refine ⟨eq_map, fun part same => ?_⟩
    obtain rfl : make value = part := Except.ok.inj same
    exact field_eq value

lemma exists_puts (field : Field) (value : Json) (nested : Shaped PropertySchema) :
    ∃ part, Puts field part value nested := by
  let text := Shape.optional Shape.text value
  cases field with
  | typeName => exact ⟨_, puts_map text .typeName (fun _ => rfl) fun _ => rfl⟩
  | format => exact ⟨_, puts_map text .format (fun _ => rfl) fun _ => rfl⟩
  | reference => exact ⟨_, puts_map text .reference (fun _ => rfl) fun _ => rfl⟩
  | description => exact ⟨_, puts_map text .description (fun _ => rfl) fun _ => rfl⟩
  | patchStrategy => exact ⟨_, puts_map text .patchStrategy (fun _ => rfl) fun _ => rfl⟩
  | patchMergeKey => exact ⟨_, puts_map text .patchMergeKey (fun _ => rfl) fun _ => rfl⟩
  | intOrString =>
    exact ⟨_, puts_map (Shape.boolean value) .intOrString (fun _ => rfl) fun _ => rfl⟩
  | items =>
    cases value with
    | null => exact ⟨_, puts_map (.ok none) .items (fun _ => rfl) fun _ => rfl⟩
    | _ => exact ⟨_, puts_map (nested.map some) .items (fun _ => rfl) fun _ => by
        cases nested <;> rfl⟩
  | additional =>
    cases value with
    | null => exact ⟨_, puts_map (.ok none) .additional (fun _ => rfl) fun _ => rfl⟩
    | bool flag =>
      exact ⟨_, puts_map (.ok (some (.allowed flag))) .additional (fun _ => rfl) fun _ => rfl⟩
    | _ =>
      let schema := (nested.map fun schema => some (AdditionalProperties.schema schema)).mapError
        fun _ => ShapeError.noAdditionalForm
      exact ⟨_, puts_map schema .additional (fun _ => rfl) fun _ => by cases nested <;> rfl⟩

section Order

variable {node : PropertySchema} {seen other : List Field} {members others : List (String × Json)}

lemma ofMembers_of_unread {key : String} (unread : Field.ofKey? key = none) (value : Json) :
    ofMembers node seen ((key, value) :: members) = ofMembers node seen members := by
  rw [ofMembers, unread]

/-- Whether a schema can be taken from the members, and which, once the first one is a field. -/
lemma toOption_ofMembers_cons {key : String} {field : Field} {value : Json} {part : Shaped Part}
    (found : Field.ofKey? key = some field) (puts : Puts field part value (ofJson value)) :
    (ofMembers node seen ((key, value) :: members)).toOption =
      if field ∈ seen then none
      else part.toOption.bind fun part =>
        (ofMembers (node.put part) (field :: seen) members).toOption := by
  rw [ofMembers, found]
  dsimp only
  by_cases given : field ∈ seen
  · rw [if_pos given, if_pos (List.contains_iff_mem.2 given)]
    rfl
  · rw [if_neg given, if_neg fun contained => given (List.contains_iff_mem.1 contained),
      puts.eq_map]
    cases part <;> rfl

lemma ofMembers_congr_seen (same : ∀ field, field ∈ seen ↔ field ∈ other) :
    ofMembers node seen members = ofMembers node other members := by
  induction members generalizing node seen other with
  | nil => rw [ofMembers, ofMembers]
  | cons member rest ih =>
    obtain ⟨key, value⟩ := member
    rw [ofMembers, ofMembers]
    cases Field.ofKey? key with
    | none => exact ih same
    | some field =>
      have contains : seen.contains field = other.contains field := by
        rw [Bool.eq_iff_iff, List.contains_iff_mem, List.contains_iff_mem, same]
      dsimp only
      rw [contains]
      have rest : ∀ node, ofMembers node (field :: seen) rest =
          ofMembers node (field :: other) rest := fun node => ih fun field => by
        rw [List.mem_cons, List.mem_cons, same]
      exact if_congr Iff.rfl rfl
        (congrArg (withField node field value (ofJson value) >>= ·) (funext rest))

/-- Two neighbours that are fields may change places: one field given twice is refused in either
order, and different fields go to different places. -/
lemma ofMembers_swap_fields {key image : String} {field place : Field} {value mirror : Json}
    (found : Field.ofKey? key = some field) (taken : Field.ofKey? image = some place) :
    (ofMembers node seen ((key, value) :: (image, mirror) :: members)).toOption =
      (ofMembers node seen ((image, mirror) :: (key, value) :: members)).toOption := by
  obtain ⟨part, puts⟩ := exists_puts field value (ofJson value)
  obtain ⟨other, fits⟩ := exists_puts place mirror (ofJson mirror)
  simp only [toOption_ofMembers_cons found puts, toOption_ofMembers_cons taken fits]
  by_cases twice : field = place
  · simp [twice]
  · have apart : place ≠ field := Ne.symm twice
    simp only [List.mem_cons, twice, apart, false_or]
    by_cases given : field ∈ seen
    · simp [given]
    · by_cases met : place ∈ seen
      · simp [met]
      · simp only [given, met, if_false]
        cases part with
        | error error => cases other <;> rfl
        | ok part =>
          cases other with
          | error error => rfl
          | ok other =>
            have ne : part.field ≠ other.field := by
              rwa [puts.field_eq part rfl, fits.field_eq other rfl]
            show (ofMembers ((node.put part).put other) (place :: field :: seen) members).toOption =
              (ofMembers ((node.put other).put part) (field :: place :: seen) members).toOption
            rw [put_comm node ne]
            refine congrArg Except.toOption (ofMembers_congr_seen fun candidate => ?_)
            simp only [List.mem_cons]
            exact or_left_comm

lemma ofMembers_swap (first second : String × Json) :
    (ofMembers node seen (first :: second :: members)).toOption =
      (ofMembers node seen (second :: first :: members)).toOption := by
  obtain ⟨key, value⟩ := first
  obtain ⟨image, mirror⟩ := second
  -- a member that is no field is passed over on both sides
  cases found : Field.ofKey? key with
  | none =>
    rw [ofMembers_of_unread found]
    cases taken : Field.ofKey? image with
    | none =>
      rw [ofMembers_of_unread taken, ofMembers_of_unread taken, ofMembers_of_unread found]
    | some place =>
      obtain ⟨part, puts⟩ := exists_puts place mirror (ofJson mirror)
      simp only [toOption_ofMembers_cons taken puts, ofMembers_of_unread found]
  | some field =>
    cases taken : Field.ofKey? image with
    | none =>
      obtain ⟨part, puts⟩ := exists_puts field value (ofJson value)
      simp only [toOption_ofMembers_cons found puts, ofMembers_of_unread taken]
    | some place => exact ofMembers_swap_fields found taken

/-- The order of its members does not matter for whether a schema can be taken from an object, and
for which one it is; it matters for the error only. -/
lemma ofMembers_perm (perm : members.Perm others) :
    (ofMembers node seen members).toOption = (ofMembers node seen others).toOption := by
  induction perm generalizing node seen with
  | nil => rfl
  | cons member _ ih =>
    obtain ⟨key, value⟩ := member
    cases found : Field.ofKey? key with
    | none =>
      rw [ofMembers_of_unread found, ofMembers_of_unread found]
      exact ih
    | some field =>
      obtain ⟨part, puts⟩ := exists_puts field value (ofJson value)
      rw [toOption_ofMembers_cons found puts, toOption_ofMembers_cons found puts]
      simp only [ih]
  | swap first second rest => exact ofMembers_swap second first
  | trans _ _ first second => exact first.trans second

/-- A field that two members give is refused wherever they stand. -/
lemma exists_error_of_repeated {first second : String × Json} {field : Field}
    (mem : first ∈ members) (again : second ∈ members) (ne : first.1 ≠ second.1)
    (found : Field.ofKey? first.1 = some field) (repeated : Field.ofKey? second.1 = some field) :
    ∃ error, ofMembers node seen members = .error error := by
  obtain ⟨key, value⟩ := first
  obtain ⟨image, mirror⟩ := second
  obtain ⟨front, back, rfl⟩ := List.append_of_mem mem
  have others : (image, mirror) ∈ front ++ back := by
    obtain same | mem := List.mem_cons.1 (List.perm_middle.mem_iff.1 again)
    · exact absurd (congrArg Prod.fst same).symm ne
    · exact mem
  obtain ⟨before, after, split⟩ := List.append_of_mem others
  -- with the two members in front, the second one meets a field that is given already
  have perm : (front ++ (key, value) :: back).Perm
      ((key, value) :: (image, mirror) :: (before ++ after)) :=
    List.perm_middle.trans (.cons _ (split ▸ List.perm_middle))
  obtain ⟨part, puts⟩ := exists_puts field value (ofJson value)
  obtain ⟨other, fits⟩ := exists_puts field mirror (ofJson mirror)
  have refused : (ofMembers node seen (front ++ (key, value) :: back)).toOption = none := by
    rw [ofMembers_perm perm, toOption_ofMembers_cons found puts]
    simp [toOption_ofMembers_cons repeated fits]
  cases shaped : ofMembers node seen (front ++ (key, value) :: back) with
  | error error => exact ⟨error, rfl⟩
  | ok schema =>
    rw [shaped] at refused
    cases refused

end Order

end PropertySchema

end KubeSchema

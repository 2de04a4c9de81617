import KubeSchema.Text.Case

/-!
# API actions

An operation is tagged with the action it performs. Tags are read without regard to ASCII case, and
`post` and `put` are other words for creating and updating. A tag that is none of the known ones
becomes an action of its own, named by the capitalized tag. Main statement: an action is determined
by its name, so ordering actions by name is a linear order.
-/

namespace KubeSchema

/-- The actions with a meaning of their own. -/
inductive StandardAction
  | connect | create | delete | deleteCollection | get | list | patch | proxy | update | watch
  | watchList
  deriving DecidableEq, Repr

namespace StandardAction

/-- Every standard action, in order of name. -/
def all : List StandardAction :=
  [connect, create, delete, deleteCollection, get, list, patch, proxy, update, watch, watchList]

/-- The name under which the action is listed. -/
def name : StandardAction → String
  | connect => "Connect"
  | create => "Create"
  | delete => "Delete"
  | deleteCollection => "DeleteCollection"
  | get => "Get"
  | list => "List"
  | patch => "Patch"
  | proxy => "Proxy"
  | update => "Update"
  | watch => "Watch"
  | watchList => "WatchList"

/-- The action of a tag in lowercase. -/
def ofTag? : String → Option StandardAction
  | "connect" => some connect
  | "post" | "create" => some create
  | "delete" => some delete
  | "deletecollection" => some deleteCollection
  | "get" => some get
  | "list" => some list
  | "patch" => some patch
  | "proxy" => some proxy
  | "put" | "update" => some update
  | "watch" => some watch
  | "watchlist" => some watchList
  | _ => none

/-- The action of a name. -/
def ofName? (text : String) : Option StandardAction :=
  all.find? (·.name == text)

theorem ofName?_name (action : StandardAction) : ofName? action.name = some action := by
  cases action <;> decide

end StandardAction

/-- An action of an operation: a standard one, or one with a name that no standard action has. -/
inductive Action
  | standard (action : StandardAction)
  | other (name : String) (unknown : StandardAction.ofName? name = none)
  deriving DecidableEq

namespace Action

/-- The name under which the action is listed. -/
def name : Action → String
  | standard action => action.name
  | other name _ => name

/-- Whether the action is none of the standard ones. -/
def isOther : Action → Bool
  | standard _ => false
  | other _ _ => true

/-- The action of a name. -/
def ofName (text : String) : Action :=
  match h : StandardAction.ofName? text with
  | some action => standard action
  | none => other text h

/-- Reads the tag of an operation. -/
def parse (tag : String) : Action :=
  match StandardAction.ofTag? (tag.map Char.toLower) with
  | some action => standard action
  | none => ofName (Text.capitalize tag)

/-- No two actions share a name. -/
theorem name_injective {a b : Action} (h : a.name = b.name) : a = b := by
  cases a with
  | standard x =>
    cases b with
    | standard y =>
      have := congrArg StandardAction.ofName? (show x.name = y.name from h)
      simpa [StandardAction.ofName?_name] using this
    | other n hn =>
      have : x.name = n := h
      simp [← this, StandardAction.ofName?_name] at hn
  | other n hn =>
    cases b with
    | standard y =>
      have : n = y.name := h
      simp [this, StandardAction.ofName?_name] at hn
    | other m hm =>
      have : n = m := h
      subst this
      rfl

instance : Ord Action where
  compare := compareOn name

instance : Std.TransOrd Action :=
  inferInstanceAs (Std.TransCmp (compareOn name))

instance : Std.LawfulEqOrd Action where
  eq_of_compare h := name_injective (Std.LawfulEqOrd.eq_of_compare h)

end Action

end KubeSchema

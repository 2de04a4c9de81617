import KubeSchema.Text.Blank

/-!
# Merge strategies

How a list-valued property is combined when an object is patched. The schema gives the strategy as
tokens between commas, in any order and with blanks around them.
-/

namespace KubeSchema

/-- How a property is combined during a merge patch. -/
inductive MergeStrategy
  /-- The whole value is replaced. -/
  | replace
  /-- List elements are merged by their merge key. -/
  | merge
  /-- List elements are merged, and keys absent from the patch are dropped. -/
  | mergeRetainKeys
  /-- Keys absent from the patch are dropped. -/
  | retainKeys
  deriving DecidableEq, Repr, Inhabited

namespace MergeStrategy

/-- The strategy's name in listings. -/
def name : MergeStrategy → String
  | replace => "none"
  | merge => "merge"
  | mergeRetainKeys => "merge-retain-keys"
  | retainKeys => "retain-keys"

/-- Whether list elements are merged. -/
def isMerge : MergeStrategy → Bool
  | merge | mergeRetainKeys => true
  | _ => false

/-- Whether keys absent from the patch are dropped. -/
def isRetainKeys : MergeStrategy → Bool
  | retainKeys | mergeRetainKeys => true
  | _ => false

/-- What the tokens read so far ask for. -/
structure Request where
  merge : Bool
  retainKeys : Bool
  /-- The tokens that mean nothing here, in order. -/
  unknown : List String
  deriving DecidableEq, Repr

/-- The request of no token. -/
def Request.none : Request := ⟨false, false, []⟩

/-- Takes one more token into account. -/
def Request.add (request : Request) (token : String) : Request :=
  if token = "merge" then { request with merge := true }
  else if token = "retainKeys" then { request with retainKeys := true }
  else { request with unknown := request.unknown ++ [token] }

/-- The strategy that a request amounts to. -/
def Request.strategy (request : Request) : MergeStrategy :=
  match request.merge, request.retainKeys with
  | true, true => mergeRetainKeys
  | true, false => .merge
  | false, true => .retainKeys
  | false, false => replace

/-- The tokens of a text: what stands between commas, without blanks around it, unless nothing. -/
def tokens (text : String) : List String :=
  (((text.toList.splitOn ',').map Text.trimChars).filter (!·.isEmpty)).map String.ofList

/-- Reads the strategy off a text, together with the tokens that were not understood. -/
def parse (text : String) : MergeStrategy × List String :=
  let request := (tokens text).foldl Request.add Request.none
  (request.strategy, request.unknown)

end MergeStrategy

end KubeSchema

import KubeSchema.Decimal.Shortest
import KubeSchema.Table

/-!
# Generic values

The values that a schema text is read into before it is shaped. An object is a list of members; the
readers build it with `Json.ofMembers`, so what they give has its members in increasing key order and
each key once.
-/

namespace KubeSchema

open Decimal (Binary64 twoTo)

/-- A generic value. Numbers are whole or doubles, and the two kinds are never equal. -/
inductive Json
  | null
  | bool (value : Bool)
  | integer (value : Int)
  | float (value : Binary64)
  | string (value : String)
  | array (elements : List Json)
  | object (members : List (String × Json))
  deriving BEq, Repr, Inhabited

namespace Json

/-- The object of some members in key order; of several members with one key the last one counts. -/
def ofMembers (members : List (String × Json)) : Json :=
  .object (Table.ofList members).entries

/-- The least whole number of a generic value. -/
def leastInteger : Int := -twoTo 63

/-- The greatest whole number of a generic value. -/
def greatestInteger : Int := twoTo 64 - 1

/-- Whether a whole number is within the range of a generic value. -/
def isInteger (n : Int) : Bool :=
  leastInteger ≤ n ∧ n ≤ greatestInteger

/-- The name of a value's kind. -/
def kindName : Json → String
  | null => "null"
  | bool _ => "boolean"
  | integer _ | float _ => "number"
  | string _ => "string"
  | array _ => "array"
  | object _ => "object"

/-- Doubles are written with a fraction or an exponent always, and with an exponent from 10^16 on and
below 10^-5. -/
def floatLayout : Decimal.Layout :=
  { least := -5, greatest := 15, positiveMark := "e+", negativeMark := "e-", wholeEnd := ".0" }

end Json

end KubeSchema

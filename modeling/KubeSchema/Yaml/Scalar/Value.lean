import KubeSchema.Json.Number
import KubeSchema.Yaml.Token.Basic

/-!
# The values of scalars

A plain scalar without a tag is null, a truth value, a whole number, a double or else text, in this
order; any other scalar is text. The tags of these kinds ask for a value of the kind whatever the style,
and fail without one. Doubles are the nearest ones, and those that are not finite are null.
-/

namespace KubeSchema.Yaml

open Decimal (Binary64 twoTo)
open Json (Numeral digitsValue)

/-- Whether a text stands for null. -/
def isNullText (text : String) : Bool :=
  text == "null" || text == "Null" || text == "NULL" || text == "~"

/-- The truth value of a text. -/
def truth? (text : String) : Option Bool :=
  if text == "true" || text == "True" || text == "TRUE" then some true
  else if text == "false" || text == "False" || text == "FALSE" then some false
  else none

/-- Splits off a sign; `true` stands for a minus sign. -/
def splitSign : List Char → Bool × List Char
  | '+' :: rest => (false, rest)
  | '-' :: rest => (true, rest)
  | cs => (false, cs)

/-- Whether digits are padded with zeros, which makes them text. -/
def isPadded (digits : List Char) : Bool :=
  1 < digits.length && digits.head? == some '0' && digits.all Char.isDigit

/-! ## Whole numbers -/

/-- The value of digits in a base up to sixteen. -/
def digitsIn? (base : Nat) (digits : List Char) : Option Nat := do
  guard !digits.isEmpty
  digits.foldlM (fun value c => do
    let digit ← hexDigit? c
    guard (digit < base)
    return base * value + digit) 0

/-- The value of a whole number without its sign. Letters behind a zero give its base. -/
def magnitude? : List Char → Option Nat
  | '0' :: 'x' :: digits => digitsIn? 16 digits
  | '0' :: 'o' :: digits => digitsIn? 8 digits
  | '0' :: 'b' :: digits => digitsIn? 2 digits
  | digits => if isPadded digits then none else digitsIn? 10 digits

/-- The whole number that a text stands for, if it fits into 128 bits. -/
def integer? (text : List Char) : Option Int := do
  let (isNegative, digits) := splitSign text
  let magnitude ← magnitude? digits
  if isNegative then
    guard (magnitude ≤ twoTo 127)
    return -magnitude
  else
    guard (magnitude < twoTo 128)
    return magnitude

/-- The value of a whole number, if it is in the range of values. -/
def integerValue? (n : Int) : Option Json :=
  if Json.isInteger n then some (.integer n) else none

/-! ## Doubles -/

/-- The parts of a decimal number. It needs a digit in front of the point or behind it. -/
def numeral? (text : List Char) : Option Numeral := do
  let (isNegative, cs) := splitSign text
  let (whole, cs) := cs.span Char.isDigit
  let (fraction, cs) := match cs with
    | '.' :: rest => rest.span Char.isDigit
    | cs => ([], cs)
  guard !(whole ++ fraction).isEmpty
  let (exponent, cs) ← Numeral.exponentOf? cs
  guard cs.isEmpty
  return ⟨isNegative, whole, some fraction, exponent⟩

/-- The double nearest to a decimal number, unless it is beyond all of them. -/
def nearestFloat? (numeral : Numeral) : Option Binary64 := do
  let fraction := numeral.fraction.getD []
  let magnitude ←
    Binary64.ofDecimal? (digitsValue (numeral.whole ++ fraction)) (numeral.shift - fraction.length)
  return magnitude.withSign numeral.negative

/-- The texts for infinities and for what is no number. -/
def notFiniteTexts : List String :=
  [".inf", ".Inf", ".INF", "+.inf", "+.Inf", "+.INF", "-.inf", "-.Inf", "-.INF",
    ".nan", ".NaN", ".NAN"]

/-- The value of a text that stands for a double. -/
def floatValue? (text : List Char) : Option Json :=
  if notFiniteTexts.contains (String.ofList text) then some .null
  else ((numeral? text).bind nearestFloat?).map .float

/-! ## Scalars -/

/-- The value of a plain scalar without a tag. -/
def plainValue? (text : List Char) : Option Json :=
  let string := String.ofList text
  if string.isEmpty || isNullText string then some .null
  else
    match truth? string, integer? text with
    | some value, _ => some (.bool value)
    | none, some n => integerValue? n
    | none, none =>
      if isPadded (splitSign text).2 then some (.string string)
      else some ((floatValue? text).getD (.string string))

/-- What the tags of the common kinds begin with. -/
def commonTag (kind : String) : List Char :=
  ("tag:yaml.org,2002:" ++ kind).toList

/-- The bytes of octets. -/
def octetBytes (octets : List Char) : ByteArray :=
  ⟨(octets.map fun c => c.toNat.toUInt8).toArray⟩

/-- Whether a tag is one of the document's own, for which there are no values. -/
def isOwnTag : List Char → Bool
  | '!' :: name => (octetBytes name).validateUTF8
  | _ => false

/-- The value of a scalar. -/
def scalarValue? (tag : Option (List Char)) (style : ScalarStyle) (text : List Char) : Option Json :=
  let string := String.ofList text
  let untagged := match style with
    | .plain => plainValue? text
    | .other => some (.string string)
  match tag with
  | none => untagged
  | some tag =>
    if isOwnTag tag then none
    else if tag.head? == some '!' then untagged
    else if tag == commonTag "bool" then (truth? string).map .bool
    else if tag == commonTag "int" then (integer? text).bind integerValue?
    else if tag == commonTag "float" then floatValue? text
    else if tag == commonTag "null" then if isNullText string then some .null else none
    else some (.string string)

end KubeSchema.Yaml

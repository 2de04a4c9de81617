import KubeSchema.Json.Basic

/-!
# Numbers in JSON text

A number without fraction and exponent is whole as long as it is in range; `-0` and everything else is
a double. A double is computed from the digits that fit into 64 bits, times or divided by one power of
ten, so the last place may differ from the nearest double.
-/

namespace KubeSchema.Json

open Decimal (Binary64 twoTo)

/-- The parts of a number's text, each a list of digits. -/
structure Numeral where
  negative : Bool
  whole : List Char
  fraction : Option (List Char)
  exponent : Option (Bool × List Char)
  deriving DecidableEq, Repr

/-- The value of a list of decimal digits. -/
def digitsValue (digits : List Char) : Nat :=
  digits.foldl (fun n c => 10 * n + (c.toNat - '0'.toNat)) 0

/-- A nonempty run of digits and what follows it. -/
def digitRun? (cs : List Char) : Option (List Char × List Char) :=
  match cs.takeWhile Char.isDigit with
  | [] => none
  | digits => some (digits, cs.dropWhile Char.isDigit)

namespace Numeral

/-- The fraction at the head of a text, if a point introduces one. -/
def fractionOf? : List Char → Option (Option (List Char) × List Char)
  | '.' :: rest => (digitRun? rest).map fun (digits, rest) => (some digits, rest)
  | cs => some (none, cs)

/-- The exponent at the head of a text, if a mark introduces one; `true` stands for a minus sign. -/
def exponentOf? : List Char → Option (Option (Bool × List Char) × List Char)
  | c :: rest =>
    if c = 'e' ∨ c = 'E' then
      let (negative, rest) := match rest with
        | '+' :: rest => (false, rest)
        | '-' :: rest => (true, rest)
        | rest => (false, rest)
      (digitRun? rest).map fun (digits, rest) => (some (negative, digits), rest)
    else
      some (none, c :: rest)
  | [] => some (none, [])

/-- Splits the text of a number into its parts. Leading zeros are refused. -/
def ofChars? (cs : List Char) : Option Numeral := do
  let (negative, cs) := match cs with
    | '-' :: rest => (true, rest)
    | cs => (false, cs)
  let (whole, cs) ← digitRun? cs
  guard (whole.head? != some '0' || whole.length == 1)
  let (fraction, cs) ← fractionOf? cs
  let (exponent, cs) ← exponentOf? cs
  guard cs.isEmpty
  return ⟨negative, whole, fraction, exponent⟩

/-- Digits taken into a significand of 64 bits. -/
structure Significand where
  value : Nat
  /-- How many digits were taken. -/
  taken : Nat
  deriving Repr

/-- Continues a significand with digits, up to the first one that does not fit. -/
def Significand.take (s : Significand) : List Char → Significand
  | [] => s
  | c :: rest =>
    let next := 10 * s.value + (c.toNat - '0'.toNat)
    if next < twoTo 64 then Significand.take ⟨next, s.taken + 1⟩ rest else s

/-- The largest exponent of ten that one step multiplies or divides by. -/
def stepLimit : Nat := 308

/-- The double nearest to a power of ten. -/
def powerOfTen? (exponent : Nat) : Option Binary64 :=
  Binary64.ofDecimal? 1 exponent

/-- Divides by a number of largest steps, unless zero is reached before. -/
def shrink? (x : Binary64) : Nat → Option Binary64
  | 0 => some x
  | steps + 1 =>
    if x.isZero then some x
    else do shrink? (← x.div? (← powerOfTen? stepLimit)) steps

/-- Multiplies or divides by a power of ten, in several divisions if one is not enough. A product
beyond the largest double is refused. -/
def scale? (x : Binary64) (exponent : Int) : Option Binary64 :=
  if 0 ≤ exponent then
    if x.isZero then some x
    else if exponent ≤ stepLimit then do x.mul? (← powerOfTen? exponent.toNat)
    else none
  else do
    let places := (-exponent).toNat
    let steps := (places - 1) / stepLimit
    (← shrink? x steps).div? (← powerOfTen? (places - steps * stepLimit))

/-- The power of ten that the exponent gives. -/
def shift (numeral : Numeral) : Int :=
  match numeral.exponent with
  | none => 0
  | some (negative, digits) => if negative then -digitsValue digits else digitsValue digits

/-- The double of a number's text. Whole digits beyond 64 bits count by their place only, further
fraction digits not at all. -/
def toFloat? (numeral : Numeral) : Option Binary64 := do
  let whole := Significand.take ⟨0, 0⟩ numeral.whole
  let digits := Significand.take ⟨whole.value, 0⟩ (numeral.fraction.getD [])
  let exponent := (numeral.whole.length - whole.taken : Int) - digits.taken + numeral.shift
  let significand ← Binary64.ofNat? digits.value
  let magnitude ← scale? significand exponent
  return magnitude.withSign numeral.negative

/-- The value of a number's text. -/
def toJson? (numeral : Numeral) : Option Json :=
  let magnitude : Int := digitsValue numeral.whole
  let value := if numeral.negative then -magnitude else magnitude
  let isWhole := numeral.fraction.isNone && numeral.exponent.isNone
  if isWhole && isInteger value && !(numeral.negative && magnitude == 0) then
    some (.integer value)
  else
    (toFloat? numeral).map .float

end Numeral

/-- Reads the text of a number. -/
def number? (cs : List Char) : Option Json := do
  (← Numeral.ofChars? cs).toJson?

end KubeSchema.Json

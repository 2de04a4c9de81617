/-!
# Double-precision numbers, exactly

A finite double is a sign, a whole mantissa and a power of two, so its value is a rational number
that can be computed with. Everything that rounds goes through `Binary64.nearest?`, which rounds a
quotient of whole numbers to the nearest double and a tie to the even mantissa.
-/

namespace KubeSchema.Decimal

/-- A finite double: `mantissa * 2 ^ exponent`, negated if `negative`. Zero has both signs. -/
structure Binary64 where
  negative : Bool
  mantissa : Nat
  exponent : Int
  deriving DecidableEq, Repr, Inhabited

/-- A power of two. -/
def twoTo (n : Nat) : Nat := Nat.pow 2 n

/-- A power of ten. -/
def tenTo (n : Nat) : Nat := Nat.pow 10 n

/-- The number of decimal digits of a whole number. -/
def digitCount (n : Nat) : Nat :=
  (Nat.toDigits 10 n).length

namespace Binary64

/-- The exponent of the smallest doubles. -/
def leastExponent : Int := -1074

/-- The exponent of the largest doubles. -/
def greatestExponent : Int := 971

/-- Mantissas are below this power of two. -/
def precision : Nat := 53

/-- Zero with a sign. -/
def zero (negative : Bool) : Binary64 := ⟨negative, 0, leastExponent⟩

/-- The number with the other sign if asked for. -/
def withSign (x : Binary64) (negative : Bool) : Binary64 :=
  { x with negative := negative }

/-- Whether the number is a zero. -/
def isZero (x : Binary64) : Bool := x.mantissa == 0

/-- Numerator and denominator of `num / den * 2 ^ shift`. -/
def shifted (num den : Nat) (shift : Int) : Nat × Nat :=
  if 0 ≤ shift then (num * twoTo shift.toNat, den) else (num, den * twoTo (-shift).toNat)

/-- The whole number nearest to a quotient; of two equally near ones the even one. -/
def roundQuotient (num den : Nat) : Nat :=
  let floor := num / den
  let twice := 2 * (num % den)
  if twice > den ∨ (twice = den ∧ floor % 2 = 1) then floor + 1 else floor

/-- The double nearest to `num / den * 2 ^ shift`, unless it lies beyond the largest one. -/
def nearest? (num den : Nat) (shift : Int) : Option Binary64 :=
  if num = 0 then
    some (zero false)
  else
    -- the quotient lies strictly between the powers `size - 1` and `size + 1` of two
    let size : Int := num.log2 - den.log2 + shift
    let low : Int := max (size - precision) leastExponent
    let (n, d) := shifted num den (shift - low)
    let exponent := if n / d < twoTo precision then low else low + 1
    let (n, d) := shifted num den (shift - exponent)
    let mantissa := roundQuotient n d
    let (mantissa, exponent) :=
      if mantissa = twoTo precision then (twoTo (precision - 1), exponent + 1)
      else (mantissa, exponent)
    if exponent > greatestExponent then none else some ⟨false, mantissa, exponent⟩

/-- The double nearest to a whole number. -/
def ofNat? (n : Nat) : Option Binary64 :=
  nearest? n 1 0

/-- The double nearest to `digits * 10 ^ exponent`, unless it lies beyond the largest one. Numbers
far outside the range of doubles are decided by their size. -/
def ofDecimal? (digits : Nat) (exponent : Int) : Option Binary64 :=
  let size := digitCount digits + exponent
  if digits = 0 ∨ size < -330 then some (zero false)
  else if size > 310 then none
  else if 0 ≤ exponent then nearest? (digits * tenTo exponent.toNat) 1 0
  else nearest? digits (tenTo (-exponent).toNat) 0

/-- The rounded product of two numbers, taken as positive. -/
def mul? (x y : Binary64) : Option Binary64 :=
  nearest? (x.mantissa * y.mantissa) 1 (x.exponent + y.exponent)

/-- The rounded quotient of two numbers, taken as positive. -/
def div? (x y : Binary64) : Option Binary64 :=
  nearest? x.mantissa y.mantissa (x.exponent - y.exponent)

end Binary64

end KubeSchema.Decimal

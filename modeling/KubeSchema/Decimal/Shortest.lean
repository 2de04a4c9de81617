import KubeSchema.Decimal.Binary64

/-!
# The shortest decimal of a double

Of the decimals that round to a given double, the one with the fewest digits is written; of several
the nearest one. The search goes through the grids of one, two, … up to seventeen digits: if a point of
a grid lies among the reals that round to the double, so does one of the double's two neighbours on
that grid. How the digits are laid out is decided by a `Layout`.
-/

namespace KubeSchema.Decimal

/-- The decimal number `digits * 10 ^ exponent`. -/
structure Scientific where
  digits : Nat
  exponent : Int
  deriving DecidableEq, Repr

namespace Binary64

/-- The reals that round to a double, as three numerators over one denominator: the lower end, the
double itself and the upper end. The ends belong to it if the mantissa is even. -/
structure Basin where
  low : Nat
  value : Nat
  high : Nat
  den : Nat
  closed : Bool
  deriving Repr

/-- The basin of a double other than zero. Below a power of two the doubles lie twice as dense. -/
def basin (x : Binary64) : Basin :=
  let m := 4 * x.mantissa
  let dense := x.mantissa = twoTo (precision - 1) ∧ x.exponent > leastExponent
  let low := if dense then m - 1 else m - 2
  let (scale, den) := shifted 1 1 (x.exponent - 2)
  ⟨low * scale, m * scale, (m + 2) * scale, den, x.mantissa % 2 == 0⟩

/-- Whether `n / d` lies in the basin. -/
def Basin.holds (b : Basin) (n d : Nat) : Bool :=
  if b.closed then b.low * d ≤ n * b.den ∧ n * b.den ≤ b.high * d
  else b.low * d < n * b.den ∧ n * b.den < b.high * d

/-- The exponent of the leading decimal digit of `n / d`. -/
def leadingExponent (n d : Nat) : Int :=
  let guess : Int := digitCount n - digitCount d
  let reached := if 0 ≤ guess then d * tenTo guess.toNat ≤ n else d ≤ n * tenTo (-guess).toNat
  if reached then guess else guess - 1

/-- The point of the grid `10 ^ exponent` that stands for the double, if one of the two next to it
rounds to it: the nearer one, and of two equally near ones the even one. -/
def Basin.onGrid? (b : Basin) (exponent : Int) : Option Scientific :=
  -- the value and the grid's points over a common denominator, in which the grid has step `step`
  let (scale, step) : Nat × Nat :=
    if 0 ≤ exponent then (1, tenTo exponent.toNat) else (tenTo (-exponent).toNat, 1)
  let n := b.value * scale
  let d := b.den * step
  let below := n / d
  let twice := 2 * (n % d)
  let fits (k : Nat) : Bool := b.holds (k * step) scale
  let preferAbove : Bool := twice > d ∨ (twice = d ∧ below % 2 = 1)
  match fits below, fits (below + 1) with
  | true, true => some ⟨if preferAbove then below + 1 else below, exponent⟩
  | true, false => some ⟨below, exponent⟩
  | false, true => some ⟨below + 1, exponent⟩
  | false, false => none

/-- The shortest decimal that rounds to the double; zero is `0`. -/
def shortest (x : Binary64) : Scientific :=
  if x.isZero then ⟨0, 0⟩
  else
    let b := x.basin
    let leading := leadingExponent b.value b.den
    ((List.range 17).findSome? fun (count : Nat) => b.onGrid? (leading - count)).getD ⟨0, 0⟩

end Binary64

/-- How the digits of a number are laid out. -/
structure Layout where
  /-- The least exponent of the leading digit that is written without an exponent. -/
  least : Int
  /-- The greatest such exponent. -/
  greatest : Int
  /-- What stands before a positive exponent. -/
  positiveMark : String
  /-- What stands before a negative exponent. -/
  negativeMark : String
  /-- What ends a whole number that is written without an exponent. -/
  wholeEnd : String
  deriving Repr

namespace Layout

/-- Lays out a nonzero number by its significant digits and the exponent of the first of them. -/
def place (layout : Layout) (digits : List Char) (leading : Int) : String :=
  if leading < layout.least ∨ layout.greatest < leading then
    let fraction := if digits.length ≤ 1 then [] else '.' :: digits.drop 1
    let mark := if leading < 0 then layout.negativeMark else layout.positiveMark
    String.ofList (digits.take 1 ++ fraction) ++ mark ++ toString leading.natAbs
  else if leading < 0 then
    String.ofList (['0', '.'] ++ List.replicate (leading.natAbs - 1) '0' ++ digits)
  else
    let whole := digits.take (leading.natAbs + 1)
    let zeros := List.replicate (leading.natAbs + 1 - whole.length) '0'
    match digits.drop (leading.natAbs + 1) with
    | [] => String.ofList (whole ++ zeros) ++ layout.wholeEnd
    | fraction => String.ofList (whole ++ '.' :: fraction)

/-- The text of a double. -/
def write (layout : Layout) (x : Binary64) : String :=
  let sign := if x.negative then "-" else ""
  if x.isZero then
    sign ++ "0" ++ layout.wholeEnd
  else
    let number := x.shortest
    let digits := Nat.toDigits 10 number.digits
    let leading := number.exponent + digits.length - 1
    let significant := (digits.reverse.dropWhile (· == '0')).reverse
    sign ++ layout.place significant leading

end Layout

end KubeSchema.Decimal

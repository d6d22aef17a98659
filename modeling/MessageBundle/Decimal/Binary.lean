/-!
# Binary fractions of 53 bits

A binary fraction is a mantissa of at most 53 bits times a power of two. Ratios
of natural numbers are rounded to the nearest one; of two equally near, to the
one with the even mantissa. The exponent is bounded below, so that small ratios
keep fewer bits, and is not bounded above; `isFinite` tells which fractions lie in
the range of 64-bit floating point.
-/

namespace MessageBundle.Decimal

/-- A mantissa times a power of two, with no sign. -/
structure Binary where
  mantissa : Nat
  exponent : Int
  deriving DecidableEq, Repr

namespace Binary

/-- The least exponent. -/
def minExponent : Int := -1074

/-- The greatest exponent of a finite number of 64 bits. -/
def maxExponent : Int := 971

/-- The bits of a mantissa. -/
def precision : Nat := 53

/-- Zero. -/
def zero : Binary := ⟨0, minExponent⟩

/-- The fraction lies in the range of 64-bit floating point. -/
def isFinite (b : Binary) : Bool := b.exponent ≤ maxExponent

/-- A quotient rounded to the nearest integer, and of two equally near to the even one. -/
def roundQuotient (num den : Nat) : Nat :=
  let quotient := num / den
  let rest := 2 * (num % den)
  if rest < den then quotient
  else if den < rest then quotient + 1
  else if quotient % 2 = 0 then quotient
  else quotient + 1

/-- A ratio divided by a power of two. -/
def scaleDown (num den : Nat) (exponent : Int) : Nat × Nat :=
  if 0 ≤ exponent then (num, den * Nat.pow 2 exponent.toNat)
  else (num * Nat.pow 2 (-exponent).toNat, den)

/-- A ratio rounded at an exponent; a mantissa that grows by a bit moves up. -/
def roundAt (num den : Nat) (exponent : Int) : Binary :=
  let (num, den) := scaleDown num den exponent
  let mantissa := roundQuotient num den
  if mantissa = Nat.pow 2 precision then ⟨Nat.pow 2 (precision - 1), exponent + 1⟩
  else ⟨mantissa, exponent⟩

/-- The fraction nearest to a ratio. -/
def ofRatio (num den : Nat) : Binary :=
  if num = 0 then zero
  else
    let guess := max minExponent ((num.log2 : Int) - den.log2 - precision)
    let (n, d) := scaleDown num den guess
    if Nat.pow 2 precision ≤ n / d then roundAt num den (guess + 1) else roundAt num den guess

/-- The fraction as a ratio. -/
def toRatio (b : Binary) : Nat × Nat :=
  if 0 ≤ b.exponent then (b.mantissa * Nat.pow 2 b.exponent.toNat, 1)
  else (b.mantissa, Nat.pow 2 (-b.exponent).toNat)

/-- A power of ten. -/
def tenPow (n : Nat) : Binary := ofRatio (Nat.pow 10 n) 1

/-- A rounded product. -/
def mul (a b : Binary) : Binary :=
  ofRatio (a.toRatio.1 * b.toRatio.1) (a.toRatio.2 * b.toRatio.2)

/-- A rounded quotient. -/
def div (a b : Binary) : Binary :=
  ofRatio (a.toRatio.1 * b.toRatio.2) (a.toRatio.2 * b.toRatio.1)

end Binary

end MessageBundle.Decimal

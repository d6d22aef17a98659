import MessageBundle.Decimal.Binary

/-!
# Shortest decimals

Every binary fraction is the nearest one to an interval of numbers. Its shortest
decimal is the number in that interval with the fewest significant digits, and
among those the nearest to the fraction. Two may be equally near; a tie rule says
which of them is taken.
-/

namespace MessageBundle.Decimal

/-- Which of two neighbouring numbers is taken when both are equally near. -/
inductive Tie
  /-- The even one. -/
  | toEven
  /-- The greater one. -/
  | up
  deriving DecidableEq, Repr

/-- A number or its successor, as the tie rule says. -/
def Tie.choose (tie : Tie) (lower : Nat) : Nat :=
  match tie with
  | toEven => if lower % 2 = 0 then lower else lower + 1
  | up => lower + 1

/-- A number of decimal digits times a power of ten, with no sign. -/
structure Digits where
  coefficient : Nat
  exponent : Int
  deriving DecidableEq, Repr

namespace Digits

/-- The same number with as few digits as possible, at most `count` fewer. -/
def dropZeros : Nat → Digits → Digits
  | 0, d => d
  | count + 1, d =>
    if d.coefficient ≠ 0 ∧ d.coefficient % 10 = 0 then
      dropZeros count ⟨d.coefficient / 10, d.exponent + 1⟩
    else d

/-- The digits of the coefficient. -/
def digits (d : Digits) : List Char := Nat.toDigits 10 d.coefficient

/-- The power of ten of the first digit. -/
def leading (d : Digits) : Int := d.exponent + d.digits.length - 1

end Digits

namespace Binary

/-- A fraction and the ends of its interval, in quarters of its last place. -/
def quarters (b : Binary) : Nat × Nat × Nat :=
  let below :=
    if b.mantissa = Nat.pow 2 (precision - 1) ∧ minExponent < b.exponent then 1 else 2
  (4 * b.mantissa - below, 4 * b.mantissa, 4 * b.mantissa + 2)

/-- The power of ten of the first digit of a fraction. -/
def leadingPower (b : Binary) : Int :=
  let (num, den) := b.toRatio
  let guess := Int.fdiv (((b.mantissa.log2 : Int) + b.exponent) * 30103) 100000
  let reached (power : Int) : Bool :=
    if 0 ≤ power then den * Nat.pow 10 power.toNat ≤ num
    else den ≤ num * Nat.pow 10 (-power).toNat
  if reached (guess + 1) then guess + 1 else if reached guess then guess else guess - 1

/-- The point of the decimal grid with a last place of `10 ^ place` that lies in
the interval of a fraction nearest to it, if there is one. -/
def nearestOnGrid (b : Binary) (tie : Tie) (place : Int) : Option Nat :=
  let (low, value, high) := b.quarters
  let quarter := b.exponent - 2
  let unit := Nat.pow 2 quarter.toNat * Nat.pow 10 (-place).toNat
  let step := Nat.pow 10 place.toNat * Nat.pow 2 (-quarter).toNat
  let inside (point : Nat) : Bool :=
    if b.mantissa % 2 = 0 then low * unit ≤ point * step && point * step ≤ high * unit
    else low * unit < point * step && point * step < high * unit
  let lower := value * unit / step
  let upper := lower + 1
  match inside lower, inside upper with
  | false, false => none
  | true, false => some lower
  | false, true => some upper
  | true, true =>
    let toLower := value * unit - lower * step
    let toUpper := upper * step - value * unit
    if toLower < toUpper then some lower
    else if toUpper < toLower then some upper
    else some (tie.choose lower)

/-- The most digits a fraction needs. -/
def maxDigits : Nat := 17

/-- The shortest decimal of a fraction. -/
def shortest (b : Binary) (tie : Tie) : Digits :=
  if b.mantissa = 0 then ⟨0, 0⟩
  else
    let power := b.leadingPower
    let found := (List.range maxDigits).findSome? fun (count : Nat) =>
      let place := power - count
      (b.nearestOnGrid tie place).map fun coefficient => (⟨coefficient, place⟩ : Digits)
    (found.getD ⟨b.mantissa, b.exponent⟩).dropZeros maxDigits

end Binary

end MessageBundle.Decimal

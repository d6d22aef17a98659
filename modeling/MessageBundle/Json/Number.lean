import MessageBundle.Data.Basic
import MessageBundle.Decimal.Layout
import MessageBundle.Text.Digit

/-!
# Numbers in JSON

A number without a fraction and an exponent is an integer if 64 bits can hold it,
with a sign or without. Every other number, a negative zero among them, is a
binary fraction found in steps: as many of its digits as 64 bits can hold make a
whole number, which is rounded and then multiplied or divided by a power of ten,
and rounded again. A number that leaves the range of 64-bit floating point on
the way is none.

## Main definitions

* `Spelling` — the parts of a number as it is written
* `Spelling.toData` — what the number is as data
-/

namespace MessageBundle.Json

open Decimal

/-- A number as it is written: sign, digits before and after the point, and the
exponent, each as far as it is there. -/
structure Spelling where
  isNegative : Bool := false
  whole : List Nat := []
  fraction : List Nat := []
  exponentIsNegative : Bool := false
  exponent : List Nat := []
  deriving DecidableEq, Repr

/-- The bound of numbers of 64 bits. -/
def wordBound : Nat := Nat.pow 2 64

/-- The greatest exponent that is told from greater ones. -/
def maxExponent : Nat := Nat.pow 2 31 - 1

/-- The greatest power of ten that is used in one step. -/
def maxStep : Nat := 308

/-- The leading digits that 64 bits can hold, and how many digits follow them. -/
def takeWhole (value : Nat) : List Nat → Nat × Nat
  | [] => (value, 0)
  | digit :: rest =>
    if 10 * value + digit < wordBound then takeWhole (10 * value + digit) rest
    else (value, rest.length + 1)

/-- Digits after the point added as long as 64 bits can hold them, and how many were. -/
def takeFraction (value : Nat) (taken : Nat) : List Nat → Nat × Nat
  | [] => (value, taken)
  | digit :: rest =>
    if 10 * value + digit < wordBound then takeFraction (10 * value + digit) (taken + 1) rest
    else (value, taken)

/-- A fraction divided by a power of ten; three steps make every fraction zero. -/
def divideByTenPow : Nat → Binary → Nat → Binary
  | 0, b, power => if power ≤ maxStep then b.div (.tenPow power) else .zero
  | steps + 1, b, power =>
    if power ≤ maxStep then b.div (.tenPow power)
    else divideByTenPow steps (b.div (.tenPow maxStep)) (power - maxStep)

/-- A whole number times a power of ten, unless it is out of range. -/
def scale (value : Nat) (power : Int) : Option Binary :=
  let b := Binary.ofRatio value 1
  if power < 0 then some (divideByTenPow 3 b power.natAbs)
  else if power.toNat ≤ maxStep then
    let product := b.mul (.tenPow power.toNat)
    if product.isFinite then some product else none
  else if value = 0 then some .zero
  else none

/-- How a binary fraction from JSON is written in a message: the point stays in
place from `0.00001` up to sixteen digits before it, and a tie goes to the even digit. -/
def layout : Layout := ⟨some (-5), some 15, .toEven⟩

namespace Spelling

/-- The number is written without a fraction and an exponent. -/
def isWhole (s : Spelling) : Bool := s.fraction.isEmpty && s.exponent.isEmpty

/-- The binary fraction for the number, unless it is out of range. -/
def toBinary (s : Spelling) : Option Binary :=
  let (value, dropped) := takeWhole 0 s.whole
  let (value, taken) := takeFraction value 0 s.fraction
  let exponent := Text.ofDigits 10 s.exponent
  if maxExponent < exponent then
    if value ≠ 0 && !s.exponentIsNegative then none else some .zero
  else
    let power : Int := if s.exponentIsNegative then -(exponent : Int) else exponent
    scale value ((dropped : Int) - taken + power)

/-- The number as data; nothing if it is out of range. -/
def toData {φ : Type} (s : Spelling) : Option (Data φ) :=
  let value := Text.ofDigits 10 s.whole
  if s.isWhole && !s.isNegative && value < wordBound then some (.int value)
  else if s.isWhole && s.isNegative && value ≠ 0 && value ≤ wordBound / 2 then
    some (.int (-(value : Int)))
  else s.toBinary.map fun b => .real (layout.write s.isNegative b)

end Spelling

end MessageBundle.Json

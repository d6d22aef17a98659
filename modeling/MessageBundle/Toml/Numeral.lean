import MessageBundle.Data.Basic
import MessageBundle.Decimal.Layout
import MessageBundle.Text.Digit

/-!
# Numerals of TOML

A numeral has the shape of a number. A document needs the shape alone; the value
matters only to those who ask for it. A numeral can be without a value: no digit
follows the mark of its base, a character behind an underscore is no digit of the
base, or the number is too great.

## Main definitions

* `Numeral` — integers in four bases, and fractions
* `Numeral.ofChars?` — the numeral that characters have the shape of
* `Numeral.toData` — a numeral as data, with or without a value
-/

namespace MessageBundle.Toml

open Decimal Text

/-- The sign of a number. -/
inductive Sign
  | plus
  | minus
  deriving DecidableEq, Repr

namespace Sign

/-- A number with a sign. -/
def apply (sign : Sign) (value : Nat) : Int :=
  match sign with
  | plus => value
  | minus => -value

/-- A sign, if there is one, and what follows it. -/
def take : List Char → Option Sign × List Char
  | '+' :: rest => (some plus, rest)
  | '-' :: rest => (some minus, rest)
  | cs => (none, cs)

end Sign

/-- A numeral. -/
inductive Numeral
  /-- An integer; its characters need not be digits of its base. -/
  | integer (sign : Sign) (base : Nat) (characters : List Char)
  /-- Digits times a power of ten. -/
  | fraction (sign : Sign) (digits : List Nat) (power : Int)
  | infinity (sign : Sign)
  | notANumber
  deriving DecidableEq, Repr

namespace Numeral

/-! ### Shapes -/

/-- The characters without the underscores among them. -/
def ungrouped (cs : List Char) : List Char := cs.filter (· ≠ '_')

/-- An underscore has a digit on either side; behind a sign it may come first. -/
def groupsFit (isDigit : Char → Bool) (hasSign : Bool) (cs : List Char) : Bool :=
  (hasSign || cs.head? ≠ some '_') && cs.getLast? ≠ some '_' &&
    (cs.zip cs.tail).all fun (left, right) =>
      (right ≠ '_' || isDigit left) && (left ≠ '_' || isDigit right)

/-- A digit of the greatest base, which is what stands beside an underscore in an
integer of any base. -/
def isHexDigit (c : Char) : Bool := (hexDigit? c).isSome

/-- A zero in front is the only digit. -/
def zeroIsAlone (cs : List Char) : Bool := cs.head? ≠ some '0' || (ungrouped cs).length ≤ 1

/-- An integer behind the mark of its base. -/
def based? (base : Nat) (cs : List Char) : Option Numeral :=
  if (ungrouped cs).all (fun c => (digitIn? base c).isSome) && groupsFit isHexDigit false cs then
    some (.integer .plus base (ungrouped cs))
  else none

/-- A decimal integer. -/
def integer? (sign : Option Sign) (cs : List Char) : Option Numeral :=
  if zeroIsAlone cs && groupsFit isHexDigit sign.isSome cs then
    some (.integer (sign.getD .plus) 10 (ungrouped cs))
  else none

/-- A character of a run of decimal digits. -/
def isInRun (c : Char) : Bool := c.isDigit || c = '_'

/-- The decimal digits at the start of some characters, of which there has to be
one, and what follows them. -/
def takeDigits? (cs : List Char) : Option (List Nat × List Char) :=
  match (cs.takeWhile isInRun).filterMap (digitIn? 10) with
  | [] => none
  | digits => some (digits, cs.dropWhile isInRun)

/-- The digits behind a point, if there is a point, and what follows them. -/
def takeFraction? : List Char → Option (List Nat × List Char)
  | '.' :: rest => takeDigits? rest
  | cs => some ([], cs)

/-- The exponent that some characters are, zero if there are none. -/
def exponent? : List Char → Option Int
  | [] => some 0
  | mark :: rest => do
    if mark ≠ 'e' ∧ mark ≠ 'E' then none
    let (sign, rest) := Sign.take rest
    let (digits, rest) ← takeDigits? rest
    if rest.isEmpty then some ((sign.getD .plus).apply (ofDigits 10 digits)) else none

/-- A number with a point or an exponent. -/
def fraction? (sign : Option Sign) (cs : List Char) : Option Numeral := do
  let (whole, rest) ← takeDigits? cs
  let (behind, rest) ← takeFraction? rest
  let exponent ← exponent? rest
  if zeroIsAlone (cs.takeWhile isInRun) && groupsFit Char.isDigit sign.isSome cs then
    some (.fraction (sign.getD .plus) (whole ++ behind) (exponent - behind.length))
  else none

/-- A decimal number without its sign. Behind its first digits comes nothing or an
underscore, or else it is a fraction. -/
def unsigned? (sign : Option Sign) (cs : List Char) : Option Numeral :=
  let rest := cs.dropWhile Char.isDigit
  if cs = "inf".toList then some (.infinity (sign.getD .plus))
  else if cs = "nan".toList then some .notANumber
  else if rest.any ['.', 'e', 'E'].contains then fraction? sign cs
  else if cs ≠ [] ∧ (rest = [] ∨ rest.head? = some '_') then integer? sign cs
  else none

/-- The numeral that characters have the shape of; only a decimal one has a sign. -/
def ofChars? : List Char → Option Numeral
  | '0' :: 'x' :: rest => based? 16 rest
  | '0' :: 'o' :: rest => based? 8 rest
  | '0' :: 'b' :: rest => based? 2 rest
  | cs =>
    let (sign, rest) := Sign.take cs
    unsigned? sign rest

/-! ### Values -/

/-- How a fraction is written in a message: the point stays in place, and a tie
goes up. -/
def layout : Layout := { tie := .up }

/-- Beyond this power of ten a number is out of range, whatever its digits. -/
def maxPower : Nat := 1000

/-- A number of digits times a power of ten, unless it is out of range. -/
def scaled? (digits : List Nat) (power : Int) : Option Binary :=
  let value := ofDigits 10 digits
  let first := power + digits.length
  if value = 0 ∨ first < -(maxPower : Int) then some .zero
  else if (maxPower : Int) < power then none
  else
    let b :=
      if 0 ≤ power then Binary.ofRatio (value * Nat.pow 10 power.toNat) 1
      else Binary.ofRatio value (Nat.pow 10 (-power).toNat)
    if b.isFinite then some b else none

/-- The number that characters spell in a base, if all of them are its digits. -/
def natural? (base : Nat) (cs : List Char) : Option Nat :=
  if cs.isEmpty then none else (cs.mapM (digitIn? base)).map (ofDigits base)

/-- What stands for a numeral without a value: it can neither be read nor passed over. -/
def unvalued : Data TextFault := .flaw .malformed (some .malformed)

/-- An integer as data. One that needs more than 64 bits with a sign cannot be
read, and one that needs more than 128 bits has no value. -/
def integerData (value : Int) : Data TextFault :=
  if -(Nat.pow 2 63 : Nat) ≤ value ∧ value < (Nat.pow 2 63 : Nat) then .int value
  else if -(Nat.pow 2 127 : Nat) ≤ value ∧ value < (Nat.pow 2 128 : Nat) then .flaw .malformed none
  else unvalued

/-- A numeral as data. -/
def toData : Numeral → Data TextFault
  | integer sign base cs =>
    ((natural? base cs).map fun value => integerData (sign.apply value)).getD unvalued
  | fraction sign digits power =>
    ((scaled? digits power).map fun b => Data.real (layout.write (sign = .minus) b)).getD unvalued
  | infinity sign => .real (if sign = .minus then "-inf" else "inf")
  | notANumber => .real "NaN"

end Numeral

end MessageBundle.Toml

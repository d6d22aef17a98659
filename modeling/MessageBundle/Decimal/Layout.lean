import MessageBundle.Decimal.Shortest

/-!
# Written decimals

A binary fraction is written as its shortest decimal, with the point in place or
with an exponent. A layout says for which sizes the point stays in place, and
which of two equally near decimals is written.

## Main definitions

* `Layout` — the decisions that leave one text for each fraction
* `Layout.write` — a fraction written out
-/

namespace MessageBundle.Decimal

/-- The least and greatest power of ten of the first digit for which no exponent
is written, absent where there is no bound, and the tie rule. -/
structure Layout where
  least : Option Int := none
  greatest : Option Int := none
  tie : Tie
  deriving DecidableEq, Repr

namespace Layout

/-- A number of zeros. -/
def zeros (count : Int) : List Char := List.replicate count.toNat '0'

/-- Digits with the point in place and at least one digit on either side of it. -/
def inPlace (d : Digits) : List Char :=
  let digits := d.digits
  if 0 ≤ d.exponent then digits ++ zeros d.exponent ++ ['.', '0']
  else if 0 ≤ d.leading then
    let whole := (d.leading + 1).toNat
    digits.take whole ++ ['.'] ++ digits.drop whole
  else ['0', '.'] ++ zeros (-d.leading - 1) ++ digits

/-- Digits with an exponent, which has a sign. -/
def withExponent (d : Digits) : List Char :=
  let mantissa :=
    match d.digits with
    | [] => []
    | [first] => [first]
    | first :: rest => first :: '.' :: rest
  let sign := if d.leading < 0 then '-' else '+'
  mantissa ++ ['e', sign] ++ Nat.toDigits 10 d.leading.natAbs

/-- A fraction with its sign. -/
def write (layout : Layout) (isNegative : Bool) (b : Binary) : String :=
  let d := b.shortest layout.tie
  let fits :=
    layout.least.all (· ≤ d.leading) && layout.greatest.all (d.leading ≤ ·) || d.coefficient = 0
  String.ofList
    ((if isNegative then ['-'] else []) ++ if fits then inPlace d else withExponent d)

end Layout

end MessageBundle.Decimal

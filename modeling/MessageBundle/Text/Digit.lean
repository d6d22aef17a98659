/-!
# Digits

A digit is a character with a value in a base of at most sixteen; the letters
from `a` to `f` count in either case.

## Main definitions

* `digitIn?` — the value of a digit
* `ofDigits` — the number that digits spell, the first one leading
-/

namespace MessageBundle.Text

/-- The value of a hexadecimal digit. -/
def hexDigit? (c : Char) : Option Nat :=
  if '0' ≤ c ∧ c ≤ '9' then some (c.toNat - 0x30)
  else if 'a' ≤ c ∧ c ≤ 'f' then some (c.toNat - 0x57)
  else if 'A' ≤ c ∧ c ≤ 'F' then some (c.toNat - 0x37)
  else none

/-- The value of a digit in a base of at most sixteen. -/
def digitIn? (base : Nat) (c : Char) : Option Nat := (hexDigit? c).filter (· < base)

/-- The number that digits spell in a base. -/
def ofDigits (base : Nat) (digits : List Nat) : Nat :=
  digits.foldl (fun value digit => base * value + digit) 0

end MessageBundle.Text

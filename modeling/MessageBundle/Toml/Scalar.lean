import MessageBundle.Toml.Moment
import MessageBundle.Toml.Numeral

/-!
# Bare values of TOML

A bare value is a truth value, a number, or a date or time. A number is taken by
its shape; what it is worth is for those to ask who need it.

## Main definitions

* `Scalar` — the values
* `Scalar.ofWord?` — the value that a word spells
-/

namespace MessageBundle.Toml

/-- A bare value. -/
inductive Scalar
  | bool (value : Bool)
  | number (numeral : Numeral)
  | moment
  deriving DecidableEq, Repr

namespace Scalar

/-- The value that a word spells. -/
def ofWord? (word : String) : Option Scalar :=
  if word = "true" then some (.bool true)
  else if word = "false" then some (.bool false)
  else if isMoment word.toList then some .moment
  else (Numeral.ofChars? word.toList).map .number

end Scalar

end MessageBundle.Toml

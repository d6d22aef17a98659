/-!
# ASCII letters without their case

Severity names and file extensions are matched with the case of the ASCII
letters ignored; every other character stands for itself.
-/

namespace MessageBundle.Text

/-- A lower-case ASCII letter becomes its upper-case form; all else is kept. -/
def upperChar (c : Char) : Char := if 'a' ≤ c ∧ c ≤ 'z' then Char.ofNat (c.toNat - 32) else c

/-- A text with its ASCII letters in upper case. -/
def upper (s : String) : String := String.ofList (s.toList.map upperChar)

/-- Equality up to the case of ASCII letters. -/
def sameIgnoringCase (s t : String) : Bool := upper s == upper t

end MessageBundle.Text

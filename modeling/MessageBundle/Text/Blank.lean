/-!
# Blank characters

A character is blank when it has the Unicode property White_Space. Type names
are compared and written without the blanks around them, and a name made of
blanks alone counts as no name.

## Main definitions

* `isBlank` — the property, as a table of ranges
* `trim` — a text without the blanks at either end
* `isAllBlank` — nothing is left after trimming
-/

namespace MessageBundle.Text

/-- The code points with the property White_Space, as inclusive ranges. -/
def blankRanges : List (Nat × Nat) :=
  [(0x9, 0xD), (0x20, 0x20), (0x85, 0x85), (0xA0, 0xA0), (0x1680, 0x1680), (0x2000, 0x200A),
    (0x2028, 0x2029), (0x202F, 0x202F), (0x205F, 0x205F), (0x3000, 0x3000)]

/-- A character is blank when its code point lies in one of the ranges. -/
def isBlank (c : Char) : Bool :=
  blankRanges.any fun range => range.1 ≤ c.toNat && c.toNat ≤ range.2

/-- The characters left when the blanks at either end are dropped. -/
def trimChars (cs : List Char) : List Char :=
  ((cs.dropWhile isBlank).reverse.dropWhile isBlank).reverse

/-- A text without the blanks at either end. -/
def trim (s : String) : String := String.ofList (trimChars s.toList)

/-- Every character is blank; the empty text counts. -/
def isAllBlank (s : String) : Bool := s.toList.all isBlank

end MessageBundle.Text

import MessageBundle.Text.Digit

/-!
# Dates and times of TOML

A moment is a date of the Gregorian calendar, a time of day, or both, and then it
may have a shift from universal time.

## Main definitions

* `isDate` — some characters are a date
* `isMoment` — some characters are a date, a time, or both
-/

namespace MessageBundle.Toml

open Text

/-- A number of two digits at the start of a text, and what follows. -/
def takeTwo? : List Char → Option (Nat × List Char)
  | a :: b :: rest => do
    let tens ← digitIn? 10 a
    let ones ← digitIn? 10 b
    return (10 * tens + ones, rest)
  | _ => none

/-- A character that has to come next, and what follows it. -/
def expect? (allowed : List Char) : List Char → Option (List Char)
  | [] => none
  | c :: rest => if allowed.contains c then some rest else none

/-- A year with a leap day. -/
def isLeap (year : Nat) : Bool := year % 4 = 0 && (year % 100 ≠ 0 || year % 400 = 0)

/-- The days of a month. -/
def daysIn (year month : Nat) : Nat :=
  if month = 2 then if isLeap year then 29 else 28
  else if [4, 6, 9, 11].contains month then 30
  else 31

/-- A date at the start of a text; what follows it. -/
def takeDate? (cs : List Char) : Option (List Char) := do
  let (century, rest) ← takeTwo? cs
  let (yearInCentury, rest) ← takeTwo? rest
  let (month, rest) ← takeTwo? (← expect? ['-'] rest)
  let (day, rest) ← takeTwo? (← expect? ['-'] rest)
  let year := 100 * century + yearInCentury
  if 1 ≤ month ∧ month ≤ 12 ∧ 1 ≤ day ∧ day ≤ daysIn year month then some rest else none

/-- The part of a second behind its point, if there is one; what follows it. -/
def dropSecondFraction? : List Char → Option (List Char)
  | '.' :: c :: rest =>
    if c.isDigit then some (rest.dropWhile Char.isDigit) else none
  | ['.'] => none
  | cs => some cs

/-- The seconds of a time, which may be absent; what follows them. -/
def dropSeconds? : List Char → Option (List Char)
  | ':' :: rest => do
    let (second, rest) ← takeTwo? rest
    if second ≤ 60 then dropSecondFraction? rest else none
  | cs => some cs

/-- A time at the start of a text; what follows it. -/
def takeTime? (cs : List Char) : Option (List Char) := do
  let (hour, rest) ← takeTwo? cs
  let (minute, rest) ← takeTwo? (← expect? [':'] rest)
  if hour ≤ 23 ∧ minute ≤ 59 then dropSeconds? rest else none

/-- A text is a shift from universal time, or nothing. -/
def isShift : List Char → Bool
  | [] => true
  | [c] => c = 'Z' || c = 'z'
  | cs =>
    ((do
      let (hour, rest) ← takeTwo? (← expect? ['+', '-'] cs)
      let (minute, rest) ← takeTwo? (← expect? [':'] rest)
      return hour ≤ 23 && minute ≤ 59 && rest.isEmpty) : Option Bool).getD false

/-- A text is a date. -/
def isDate (cs : List Char) : Bool := (takeDate? cs).any List.isEmpty

/-- A text is a date, a time, or both with a shift from universal time. -/
def isMoment (cs : List Char) : Bool :=
  match takeDate? cs with
  | some [] => true
  | some rest => (((expect? ['T', 't', ' '] rest).bind takeTime?).map isShift).getD false
  | none => (takeTime? cs).any List.isEmpty

end MessageBundle.Toml

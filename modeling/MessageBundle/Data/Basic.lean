import MessageBundle.Text.Quoted

/-!
# Data before it has a type

A manifest is read from texts of two formats and from values handed in. All three
arrive as a tree of data, which is then read into records. A tree that stems from
a text can be damaged: the text may stop being well formed in the middle of it.
Damage is kept where it was met, so that reading from left to right finds the
first fault of a text, whether it is one of form or one of type.

## Main definitions

* `TextFault` — a text is malformed, or it ends too early
* `Data φ` — a tree, with `φ` for what can be wrong with a text. A tree of type
  `Data Empty` is whole
* `Misfit` — how a well-formed tree fails to fit a type, and its wording
* `Misread φ` — damage or a misfit
-/

namespace MessageBundle

/-- Why a text is not in its format. -/
inductive TextFault
  /-- Some part is out of place. -/
  | malformed
  /-- The text ends too early. -/
  | truncated
  deriving DecidableEq, Repr

/-- A tree of data. A list and a map have a `cut` when the text broke off inside
them. A `flaw` stands for a value that cannot be read, and that cannot be passed
over either when its second part is there. -/
inductive Data (φ : Type) where
  | null
  | bool (value : Bool)
  | int (value : Int)
  /-- A number that is no integer, by its decimal text. -/
  | real (decimal : String)
  | text (value : String)
  | list (items : List (Data φ)) (cut : Option φ)
  | map (members : List (Except φ String × Data φ)) (cut : Option φ)
  | flaw (onReading : φ) (onSkipping : Option φ)

namespace Data

variable {φ : Type}

/-- A list that is complete. -/
def ofList (items : List (Data φ)) : Data φ := .list items none

/-- A map that is complete, with readable keys. -/
def ofMembers (members : List (String × Data φ)) : Data φ :=
  .map (members.map fun member => (.ok member.1, member.2)) none

mutual

/-- Nothing in a tree is damaged. -/
def isSound : Data φ → Bool
  | list items cut => itemsSound items && cut.isNone
  | map members cut => membersSound members && cut.isNone
  | flaw .. => false
  | _ => true

/-- No item of a list is damaged. -/
def itemsSound : List (Data φ) → Bool
  | [] => true
  | item :: rest => item.isSound && itemsSound rest

/-- No key and no value of a map is damaged. -/
def membersSound : List (Except φ String × Data φ) → Bool
  | [] => true
  | (key, d) :: rest => key.isOk && d.isSound && membersSound rest

end

end Data

/-- What a tree holds where something else is expected. -/
inductive Found
  | null
  | bool (value : Bool)
  | int (value : Int)
  | real (decimal : String)
  | text (value : String)
  | list
  | map
  deriving DecidableEq, Repr

/-- The wording of what is found. -/
def Found.display : Found → String
  | null => "null"
  | bool value => "boolean `" ++ toString value ++ "`"
  | int value => "integer `" ++ toString value ++ "`"
  | real decimal => "floating point `" ++ decimal ++ "`"
  | text value => "string " ++ Text.quote value
  | list => "sequence"
  | map => "map"

/-- What is expected at a place of a tree. -/
inductive Expected
  | text
  | bool
  | list
  | messageId
  | record (name : String)
  deriving DecidableEq, Repr

/-- The wording of what is expected. -/
def Expected.display : Expected → String
  | text => "a string"
  | bool => "a boolean"
  | list => "a sequence"
  | messageId => "i32"
  | record name => "struct " ++ name

/-- How a tree fails to fit a type. -/
inductive Misfit
  /-- A value is of another type. -/
  | wrongType (found : Found) (expected : Expected)
  /-- An integer is too great or too small. -/
  | outOfRange (value : Int)
  /-- A required field is missing. -/
  | missingField (name : String)
  /-- A field is given twice. -/
  | duplicateField (name : String)
  /-- A list stands for a record and is too short for it. -/
  | tooShort (length : Nat) (record : String) (fields : Nat)
  /-- A list stands for a record and is too long for it. -/
  | tooLong (length : Nat)
  deriving DecidableEq, Repr

/-- The wording of a misfit. -/
def Misfit.message : Misfit → String
  | wrongType found expected => s!"invalid type: {found.display}, expected {expected.display}"
  | outOfRange value => s!"invalid value: {(Found.int value).display}, expected i32"
  | missingField name => "missing field `" ++ name ++ "`"
  | duplicateField name => "duplicate field `" ++ name ++ "`"
  | tooShort length record fields =>
    let elements := if fields = 1 then "1 element" else s!"{fields} elements"
    s!"invalid length {length}, expected struct {record} with {elements}"
  | tooLong length => s!"invalid length {length}, expected fewer elements in array"

/-- Why a tree cannot be read: the text it stems from is damaged, or it does not fit. -/
inductive Misread (φ : Type)
  | damage (why : φ)
  | misfit (why : Misfit)
  deriving DecidableEq, Repr

/-- What reading a tree gives. -/
abbrev Reading (φ α : Type) := Except (Misread φ) α

end MessageBundle

import MessageBundle.Data.Basic

/-!
# Reading data

Readers turn a tree of data into values, from left to right. The first thing that
is wrong is what they report. A value that nobody asks for is passed over; how
closely it is looked at is a matter of the medium that the tree stems from.

## Main definitions

* `Data.readText`, `readBool`, `readMessageId`, `readOptional`, `readList` —
  readers of single values
* `Field`, `readRecord` — records, read from a map by the names of their fields or
  from a list by their positions
-/

namespace MessageBundle

namespace Data

variable {φ α : Type}

/-- What a tree holds, or the damage at its start. -/
def found : Data φ → Reading φ Found
  | null => .ok .null
  | bool value => .ok (.bool value)
  | int value => .ok (.int value)
  | real decimal => .ok (.real decimal)
  | text value => .ok (.text value)
  | list .. => .ok .list
  | map .. => .ok .map
  | flaw onReading _ => .error (.damage onReading)

/-- The report on a tree that is not what is expected. -/
def reject (expected : Expected) (d : Data φ) : Reading φ α := do
  throw (.misfit (.wrongType (← d.found) expected))

/-- Damage, if there is any. -/
def checkCut : Option φ → Reading φ Unit
  | none => .ok ()
  | some why => .error (.damage why)

/-- A value passed over; only damage that hides the end of it is noticed. -/
def skip : Data φ → Reading φ Unit
  | list _ cut => checkCut cut
  | map _ cut => checkCut cut
  | flaw _ onSkipping => checkCut onSkipping
  | _ => .ok ()

mutual

/-- A value passed over with all that it holds. -/
def skipAll : Data φ → Reading φ Unit
  | list items cut => do
    skipItems items
    checkCut cut
  | map members cut => do
    skipMembers members
    checkCut cut
  | d => d.skip

/-- The items of a list passed over. -/
def skipItems : List (Data φ) → Reading φ Unit
  | [] => .ok ()
  | item :: rest => do
    item.skipAll
    skipItems rest

/-- The members of a map passed over. -/
def skipMembers : List (Except φ String × Data φ) → Reading φ Unit
  | [] => .ok ()
  | (_, d) :: rest => do
    d.skipAll
    skipMembers rest

end

/-- A text. -/
def readText : Data φ → Reading φ String
  | text value => .ok value
  | d => d.reject .text

/-- A truth value. -/
def readBool : Data φ → Reading φ Bool
  | bool value => .ok value
  | d => d.reject .bool

/-- A message number: an integer of 32 bits. -/
def readMessageId : Data φ → Reading φ Int32
  | int value =>
    if Int32.minValue.toInt ≤ value ∧ value ≤ Int32.maxValue.toInt then .ok (Int32.ofInt value)
    else .error (.misfit (.outOfRange value))
  | d => d.reject .messageId

/-- A value that may be absent, for which null stands. -/
def readOptional (read : Data φ → Reading φ α) : Data φ → Reading φ (Option α)
  | null => .ok none
  | d => some <$> read d

/-- The values of a list, in order. -/
def readItems (read : Data φ → Reading φ α) : List (Data φ) → Reading φ (List α)
  | [] => .ok []
  | item :: rest => do
    let value ← read item
    let values ← readItems read rest
    return value :: values

/-- A list of values. -/
def readList (read : Data φ → Reading φ α) : Data φ → Reading φ (List α)
  | list items cut => do
    let values ← readItems read items
    checkCut cut
    return values
  | d => d.reject .list

end Data

/-! ### Records -/

/-- What sources of data treat differently: how a value that nobody asks for is
passed over, and what becomes of a list with more items than the record it stands
for has fields: a report, or nothing if the rest is let through. -/
structure Medium (φ : Type) where
  skip : Data φ → Reading φ Unit
  surplus : (length : Nat) → Option (Misread φ)

/-- Values handed in do not come from a text, and a list that is too long for its
record is a misfit. -/
def Medium.values : Medium Empty :=
  { skip := Data.skip, surplus := fun length => some (.misfit (.tooLong length)) }

/-- A field of a record: its name, other names it answers to, how its value is
read, and the value it has when it is absent, if it may be. -/
structure Field (φ : Type) where
  type : Type
  name : String
  aliases : List String := []
  read : Data φ → Reading φ type
  absent : Option type

namespace Field

/-- A key names the field. -/
def answersTo {φ : Type} (f : Field φ) (key : String) : Bool :=
  key == f.name || f.aliases.contains key

end Field

/-- The values of fields found so far. -/
abbrev Slots {φ : Type} : List (Field φ) → Type
  | [] => Unit
  | f :: fs => Option f.type × Slots fs

/-- The values of all fields. -/
abbrev Values {φ : Type} : List (Field φ) → Type
  | [] => Unit
  | f :: fs => f.type × Values fs

namespace Data

variable {φ : Type} (medium : Medium φ)

/-- No value found yet. -/
def emptySlots : (fs : List (Field φ)) → Slots fs
  | [] => ()
  | _ :: fs => (none, emptySlots fs)

/-- The value under a key read into the field that the key names; a field is
given once. A value under any other key is passed over. -/
def fillSlot (key : String) (d : Data φ) : (fs : List (Field φ)) → Slots fs → Reading φ (Slots fs)
  | [], () => do
    medium.skip d
    return ()
  | f :: fs, (slot, rest) =>
    if f.answersTo key then
      match slot with
      | some _ => .error (.misfit (.duplicateField f.name))
      | none => do
        let value ← f.read d
        return (some value, rest)
    else do
      let rest' ← fillSlot key d fs rest
      return (slot, rest')

/-- The members of a map read into the fields. -/
def fillSlots (fs : List (Field φ)) :
    List (Except φ String × Data φ) → Slots fs → Reading φ (Slots fs)
  | [], slots => .ok slots
  | (key, d) :: rest, slots => do
    let key ← key.mapError .damage
    let slots' ← fillSlot medium key d fs slots
    fillSlots fs rest slots'

/-- The fields with the absent ones supplied, up to the first that is required. -/
def complete : (fs : List (Field φ)) → Slots fs → Reading φ (Values fs)
  | [], () => .ok ()
  | f :: fs, (slot, rest) =>
    match slot, f.absent with
    | some value, _ => do
      let values ← complete fs rest
      return (value, values)
    | none, some value => do
      let values ← complete fs rest
      return (value, values)
    | none, none => .error (.misfit (.missingField f.name))

/-- The fields read from the items of a list, one by one, with the items that are
left over. `tooFew` reports on a list that ends before a required field. -/
def readPositions (cut : Option φ) (tooFew : Misfit) :
    (fs : List (Field φ)) → List (Data φ) → Reading φ (Values fs × List (Data φ))
  | [], items => .ok ((), items)
  | f :: fs, item :: rest => do
    let value ← f.read item
    let (values, left) ← readPositions cut tooFew fs rest
    return ((value, values), left)
  | f :: fs, [] => do
    checkCut cut
    match f.absent with
    | some value =>
      let (values, left) ← readPositions cut tooFew fs []
      return ((value, values), left)
    | none => throw (.misfit tooFew)

/-- A record, from a map by the names of its fields or from a list by their
positions. -/
def readRecord (name : String) (fs : List (Field φ)) :
    Data φ → Reading φ (Values fs)
  | map members cut => do
    let slots ← fillSlots medium fs members (emptySlots fs)
    checkCut cut
    complete fs slots
  | list items cut => do
    let (values, left) ← readPositions cut (.tooShort items.length name fs.length) fs items
    match left with
    | [] => checkCut cut
    | _ :: _ =>
      match medium.surplus items.length with
      | some report => throw report
      | none => pure ()
    return values
  | d => d.reject (.record name)

end Data

end MessageBundle

import MessageBundle.Round
import MessageBundle.Text.KeyOrder

/-!
# Units kept in memory

Units are kept by name, in the byte order of their names. A name is taken once
and for all: a second unit of the same name is refused.

## Main results

* `add_eq_ok_iff`, `add_eq_error_iff` — when a unit is taken and when it is refused
* `get?_of_add`, `get?_of_add_ne` — what taking a unit adds and keeps
-/

namespace MessageBundle

/-- Units by name, the names in ascending order. -/
structure MemoryFiler where
  entries : List (String × String)
  deriving DecidableEq, Repr

namespace MemoryFiler

/-- No unit is kept. -/
def empty : MemoryFiler := ⟨[]⟩

/-- The text kept under a name. -/
def get? (f : MemoryFiler) (name : String) : Option String := f.entries.lookup name

/-- How many units are kept. -/
def size (f : MemoryFiler) : Nat := f.entries.length

/-- The units with one more; a name that is taken is refused. -/
def add (f : MemoryFiler) (name contents : String) : Except GenerationError MemoryFiler :=
  match f.get? name with
  | some _ => .error (.duplicateOutput name)
  | none => .ok ⟨Text.insertByKey (name, contents) f.entries⟩

section Add

variable {f f' : MemoryFiler} {name other contents : String} {cause : GenerationError}

/-- A unit is taken when its name is free, and put in its place. -/
theorem add_eq_ok_iff :
    f.add name contents = .ok f' ↔
      f.get? name = none ∧ f' = ⟨Text.insertByKey (name, contents) f.entries⟩ := by
  rw [add]
  cases hname : f.get? name with
  | none => simp [eq_comm]
  | some old => simp

/-- A unit is refused when its name is taken, and for no other reason. -/
theorem add_eq_error_iff :
    f.add name contents = .error cause ↔
      f.get? name ≠ none ∧ cause = .duplicateOutput name := by
  rw [add]
  cases hname : f.get? name with
  | none => simp
  | some old => simp [eq_comm]

theorem get?_of_add (h : f.add name contents = .ok f') : f'.get? name = some contents := by
  obtain ⟨hfree, rfl⟩ := add_eq_ok_iff.mp h
  exact Text.lookup_insertByKey hfree contents

theorem get?_of_add_ne (h : f.add name contents = .ok f') (hne : other ≠ name) :
    f'.get? other = f.get? other := by
  obtain ⟨-, rfl⟩ := add_eq_ok_iff.mp h
  exact Text.lookup_insertByKey_ne hne contents f.entries

end Add

/-- Units are handed over to memory without anything being recorded. -/
def filer : Filer (StateM MemoryFiler) := fun name contents kept =>
  match kept.add name contents with
  | .error cause => ((.error cause, []), kept)
  | .ok kept' => ((.ok (), []), kept')

end MemoryFiler

end MessageBundle

import MessageBundle.GenerationError

/-!
# The message numbers of a round

A registry holds each message number of a round with the template it was first
used for. A number is registered once, also when the template is the same.

## Main results

* `register_eq_ok_iff`, `register_eq_error_iff` — when a number is registered and when refused
* `get?_of_register`, `get?_of_register_ne` — what a registration adds and keeps
-/

namespace MessageBundle

/-- The numbers registered so far with their templates, the last one first. -/
structure Registry where
  entries : List (MessageId × String)
  deriving DecidableEq, Repr

namespace Registry

/-- No number is registered. -/
def empty : Registry := ⟨[]⟩

/-- The template registered for a number. -/
def get? (r : Registry) (id : MessageId) : Option String := r.entries.lookup id

/-- The number is registered. -/
def contains (r : Registry) (id : MessageId) : Bool := (r.get? id).isSome

/-- How many numbers are registered. -/
def size (r : Registry) : Nat := r.entries.length

/-- The registry with one more number; a number that is taken is refused. -/
def register (r : Registry) (id : MessageId) (template : String) :
    Except GenerationError Registry :=
  match r.get? id with
  | some previous => .error (.duplicateMessageId id template previous)
  | none => .ok ⟨(id, template) :: r.entries⟩

section Register

variable {r r' : Registry} {id other : MessageId} {template : String} {cause : GenerationError}

/-- A number is registered when it is free, in front of the others. -/
theorem register_eq_ok_iff :
    r.register id template = .ok r' ↔ r.get? id = none ∧ r' = ⟨(id, template) :: r.entries⟩ := by
  rw [register]
  cases hid : r.get? id with
  | none => simp [eq_comm]
  | some previous => simp

/-- A number is refused when it is taken, and for no other reason. -/
theorem register_eq_error_iff :
    r.register id template = .error cause ↔
      ∃ previous, r.get? id = some previous ∧ cause = .duplicateMessageId id template previous := by
  rw [register]
  cases hid : r.get? id with
  | none => simp
  | some previous => simp [eq_comm]

theorem get?_of_register (h : r.register id template = .ok r') : r'.get? id = some template := by
  obtain ⟨-, rfl⟩ := register_eq_ok_iff.mp h
  rw [get?, List.lookup_cons, beq_self_eq_true]

theorem get?_of_register_ne (h : r.register id template = .ok r') (hne : other ≠ id) :
    r'.get? other = r.get? other := by
  obtain ⟨-, rfl⟩ := register_eq_ok_iff.mp h
  rw [get?, List.lookup_cons, beq_false_of_ne hne, get?]

end Register

end Registry

end MessageBundle

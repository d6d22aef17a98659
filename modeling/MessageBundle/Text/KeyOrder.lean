/-!
# Entries in the order of their keys

Keys are texts, and their order is the order of their code points, which is that
of their bytes.

## Main results

* `insertByKey_perm` — inserting adds the entry and keeps the others
* `lookup_insertByKey`, `lookup_insertByKey_ne` — what is found under the key that is
  inserted and under the others
-/

namespace MessageBundle.Text

variable {α : Type}

/-- An entry put before the first one whose key is greater. -/
def insertByKey (entry : String × α) : List (String × α) → List (String × α)
  | [] => [entry]
  | head :: rest =>
    if entry.1 < head.1 then entry :: head :: rest else head :: insertByKey entry rest

theorem insertByKey_perm (entry : String × α) (entries : List (String × α)) :
    (insertByKey entry entries).Perm (entry :: entries) := by
  induction entries with
  | nil => exact .refl [entry]
  | cons head rest ih =>
    rw [insertByKey]
    split
    · exact .refl (entry :: head :: rest)
    · exact (ih.cons head).trans (.swap entry head rest)

/-- A key that was not there is found with what was inserted under it. -/
theorem lookup_insertByKey {key : String} {entries : List (String × α)}
    (h : entries.lookup key = none) (value : α) :
    (insertByKey (key, value) entries).lookup key = some value := by
  induction entries with
  | nil => rw [insertByKey, List.lookup_cons, beq_self_eq_true]
  | cons head rest ih =>
    rw [insertByKey]
    split
    · rw [List.lookup_cons, beq_self_eq_true]
    · rw [List.lookup_cons] at h ⊢
      cases hkey : key == head.1 with
      | true => rw [hkey] at h; cases h
      | false => rw [hkey] at h; exact ih h

theorem lookup_insertByKey_ne {key other : String} (h : other ≠ key) (value : α)
    (entries : List (String × α)) :
    (insertByKey (key, value) entries).lookup other = entries.lookup other := by
  have hkey : (other == key) = false := beq_false_of_ne h
  induction entries with
  | nil => rw [insertByKey, List.lookup_cons, hkey]
  | cons head rest ih =>
    rw [insertByKey]
    split
    · rw [List.lookup_cons, hkey]
    · rw [List.lookup_cons, List.lookup_cons, ih]

end MessageBundle.Text

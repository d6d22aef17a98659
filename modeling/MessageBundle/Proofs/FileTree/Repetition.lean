import MessageBundle.Proofs.FileTree.Change

/-!
# Entries that are put again

Putting an entry where one is replaces it in its place, so that nothing else moves. What
is put last at a location is all that counts there: an entry put before it leaves no
trace, and one put elsewhere can be put before or after. So when a tree has at each
location what is put there last, putting all entries once more gives back the very same
tree, however often a location comes up among them.

## Main definitions

* `putEach` — entries put one after another

## Main results

* `put_eq_self`, `put_put`, `put_comm` — entries put again, over one another, and apart
* `putEach_put` — what is put before others at one of their locations does not count
* `putEach_eq_self` — entries that are there in the end can all be put again
-/

namespace MessageBundle

namespace FileTree

/-- Entries put one after another. -/
def putEach (puts : List (Location × Entry)) (t : FileTree) : FileTree :=
  puts.foldl (fun t put => t.put put.1 put.2) t

variable {t : FileTree} {location other : Location} {entry entry' : Entry}
  {entries puts : List (Location × Entry)}

/-! ### Two entries -/

theorem putEntry_of_lookup (h : entries.lookup location = some entry) :
    putEntry location entry entries = entries := by
  induction entries with
  | nil => cases h
  | cons head rest ih =>
    obtain ⟨place, old⟩ := head
    rw [putEntry]
    by_cases hplace : location = place
    · subst hplace
      rw [List.lookup_cons_self] at h
      obtain rfl := Option.some.inj h
      rw [if_pos rfl]
    · rw [List.lookup_cons, beq_false_of_ne hplace] at h
      rw [if_neg hplace, ih h]

theorem putEntry_putEntry (location : Location) (entry entry' : Entry)
    (entries : List (Location × Entry)) :
    putEntry location entry' (putEntry location entry entries) =
      putEntry location entry' entries := by
  induction entries with
  | nil => simp [putEntry]
  | cons head rest ih =>
    obtain ⟨place, old⟩ := head
    by_cases hplace : location = place
    · simp [putEntry, hplace]
    · simp [putEntry, hplace, ih]

/-- Entries at two locations can be put in either order when one of them replaces another
one; two new ones would both go to the end. -/
theorem putEntry_comm (hne : other ≠ location) (hold : (entries.lookup location).isSome = true)
    (entry entry' : Entry) :
    putEntry other entry' (putEntry location entry entries) =
      putEntry location entry (putEntry other entry' entries) := by
  induction entries with
  | nil => cases hold
  | cons head rest ih =>
    obtain ⟨place, old⟩ := head
    by_cases hplace : location = place
    · subst hplace
      simp [putEntry, hne]
    · by_cases hplace' : other = place
      · subst hplace'
        simp [putEntry, hplace]
      · rw [List.lookup_cons, beq_false_of_ne hplace] at hold
        simp [putEntry, hplace, hplace', ih hold]

theorem lookup_of_ne_nil (h : location ≠ []) : t.entries.lookup location = t.get? location := by
  rw [get?, if_neg h]

/-- An entry that is there can be put again. -/
theorem put_eq_self (hne : location ≠ []) (h : t.get? location = some entry) :
    t.put location entry = t := by
  rw [put, putEntry_of_lookup ((lookup_of_ne_nil hne).trans h)]

/-- An entry that is put over another one leaves nothing of it. -/
theorem put_put (t : FileTree) (location : Location) (entry entry' : Entry) :
    (t.put location entry).put location entry' = t.put location entry' := by
  rw [put, put, put, putEntry_putEntry]

theorem put_comm (hne : other ≠ location) (hroot : location ≠ [])
    (hold : (t.get? location).isSome = true) (entry entry' : Entry) :
    (t.put location entry).put other entry' = (t.put other entry').put location entry := by
  rw [← lookup_of_ne_nil hroot] at hold
  rw [put, put, put, put, putEntry_comm hne hold]

/-! ### Entries in a row -/

theorem putEach_cons (put : Location × Entry) (rest : List (Location × Entry)) (t : FileTree) :
    putEach (put :: rest) t = putEach rest (t.put put.1 put.2) := rfl

/-- What is put at a location before others are, of which one belongs there too, does not
count. -/
theorem putEach_put (hmem : location ∈ puts.map Prod.fst) (hroot : location ≠ [])
    (hold : (t.get? location).isSome = true) (entry : Entry) :
    putEach puts (t.put location entry) = putEach puts t := by
  -- the entry moves along the others until it meets the one that replaces it
  induction puts generalizing t with
  | nil => cases hmem
  | cons put rest ih =>
    obtain ⟨place, new⟩ := put
    rw [putEach_cons, putEach_cons]
    by_cases hplace : place = location
    · subst hplace
      rw [put_put]
    · have hrest : location ∈ rest.map Prod.fst :=
        (List.mem_cons.mp hmem).resolve_left (Ne.symm hplace)
      have hstill : ((t.put place new).get? location).isSome = true := by
        rw [get?_put_ne (Ne.symm hplace)]
        exact hold
      rw [put_comm hplace hroot hold, ih hrest hstill]

/-- A tree that has at each location the last of the entries that are put there is not
changed when all of them are put again. -/
theorem putEach_eq_self (hroot : [] ∉ puts.map Prod.fst)
    (h : ∀ location entry, puts.reverse.lookup location = some entry →
      t.get? location = some entry) : putEach puts t = t := by
  induction puts with
  | nil => rfl
  | cons put rest ih =>
    obtain ⟨location, entry⟩ := put
    rw [List.map_cons, List.mem_cons, not_or] at hroot
    rw [putEach_cons]
    rw [List.reverse_cons] at h
    have hlater : ∀ place new, rest.reverse.lookup place = some new →
        t.get? place = some new := by
      intro place new hlast
      refine h place new ?_
      rw [List.lookup_append, hlast, Option.some_or]
    cases hlast : rest.reverse.lookup location with
    | none =>
      -- nothing is put there later, so that the tree has this entry
      have hthere : t.get? location = some entry := by
        refine h location entry ?_
        rw [List.lookup_append, hlast, Option.none_or, List.lookup_cons_self]
      rw [put_eq_self (Ne.symm hroot.1) hthere]
      exact ih hroot.2 hlater
    | some last =>
      have hmem : location ∈ rest.map Prod.fst := by
        have hsome : (rest.reverse.lookup location).isSome = true := by rw [hlast]; rfl
        obtain ⟨put, hput, hplace⟩ := List.lookup_isSome_iff.mp hsome
        rw [eq_of_beq hplace]
        exact List.mem_map_of_mem (List.mem_reverse.mp hput)
      have hthere : (t.get? location).isSome = true := by rw [hlater location last hlast]; rfl
      rw [putEach_put hmem (Ne.symm hroot.1) hthere]
      exact ih hroot.2 hlater

end FileTree

end MessageBundle

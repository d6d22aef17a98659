import Mathlib.Algebra.Ring.Parity
import Mathlib.Data.List.Induction
import MessageBundle.Template

/-!
# Runs of backslashes

In a literal a backslash takes the next character with it, so of a run of
backslashes only the parity counts: after a run of odd length the next character is
taken. Escaping puts a backslash before each quote, and a run of odd length in front
of it takes that one, which leaves the quote bare. This file says so without a scan,
by the run that ends each prefix of a text, and derives what happens where texts
are put together.

## Main definitions

* `trailingBackslashes`, `EndsOpen` — the run that ends a text, and that it is odd
* `SwallowsQuote` — an odd run stands directly before a quote

## Main results

* `danglingFrom_eq_none_iff` — the scan finds nothing when no odd run stands before a
  quote or at the end
* `endsOpen_append_cons`, `swallowsQuote_append_cons` — a character that is neither a
  backslash nor a quote separates what stands before it from what follows
* `endsOpen_pair_cons` — a backslash and the character behind it count together
-/

namespace MessageBundle.Template

/-- How many backslashes end a text. -/
def trailingBackslashes (cs : List Char) : Nat := (cs.reverse.takeWhile (· == '\\')).length

/-- A run of backslashes of odd length ends the text. -/
def EndsOpen (cs : List Char) : Prop := Odd (trailingBackslashes cs)

/-- A run of backslashes of odd length stands directly before a quote. -/
def SwallowsQuote (cs : List Char) : Prop :=
  ∃ before after, cs = before ++ '"' :: after ∧ EndsOpen before

variable {xs ys cs : List Char} {c : Char}

theorem not_endsOpen_nil : ¬EndsOpen [] := Nat.not_odd_zero

/-- One more backslash opens a text that was not open; any other character closes it. -/
theorem endsOpen_concat : EndsOpen (cs ++ [c]) ↔ c = '\\' ∧ ¬EndsOpen cs := by
  rw [EndsOpen, EndsOpen, trailingBackslashes, List.reverse_append, List.reverse_singleton,
    List.singleton_append, List.takeWhile_cons]
  by_cases hb : c = '\\'
  · simp [hb, trailingBackslashes, Nat.odd_add_one]
  · simp [hb]

/-- Behind a character that is no backslash, what stands before it does not count. -/
theorem endsOpen_append_cons (hb : c ≠ '\\') : EndsOpen (xs ++ c :: ys) ↔ EndsOpen ys := by
  induction ys using List.reverseRecOn with
  | nil =>
    rw [endsOpen_concat]
    exact iff_of_false (fun h => hb h.1) not_endsOpen_nil
  | append_singleton ys d ih =>
    rw [← List.cons_append, ← List.append_assoc, endsOpen_concat, endsOpen_concat, ih]

theorem endsOpen_cons (hb : c ≠ '\\') : EndsOpen (c :: ys) ↔ EndsOpen ys := by
  have hnothing : EndsOpen ([] ++ c :: ys) ↔ EndsOpen ys := endsOpen_append_cons hb
  exact hnothing

/-- A pair of a backslash and a character in front of a text does not count either: the
backslash is taken by the character, or takes it. -/
theorem endsOpen_pair_cons (c : Char) (ys : List Char) :
    EndsOpen ('\\' :: c :: ys) ↔ EndsOpen ys := by
  by_cases hb : c = '\\'
  · -- a pair of backslashes keeps the parity of the run, whether it belongs to it or not
    subst hb
    induction ys using List.reverseRecOn with
    | nil =>
      rw [← List.singleton_append, endsOpen_concat, ← List.nil_append ['\\'], endsOpen_concat]
      simp [not_endsOpen_nil]
    | append_singleton ys d ih =>
      rw [← List.cons_append, ← List.cons_append, endsOpen_concat, endsOpen_concat, ih]
  · have hback : EndsOpen (['\\'] ++ c :: ys) ↔ EndsOpen ys := endsOpen_append_cons hb
    exact hback

/-! ### Quotes that are swallowed -/

theorem not_swallowsQuote_nil : ¬SwallowsQuote [] := by
  rintro ⟨before, after, hplace, -⟩
  exact List.append_ne_nil_of_right_ne_nil before (List.cons_ne_nil '"' after) hplace.symm

theorem swallowsQuote_append_left (h : SwallowsQuote xs) : SwallowsQuote (xs ++ ys) := by
  obtain ⟨before, after, rfl, hopen⟩ := h
  exact ⟨before, after ++ ys, by rw [List.append_assoc, List.cons_append], hopen⟩

/-- Text without quotes behind another text swallows none. -/
theorem swallowsQuote_append_of_notMem (hq : '"' ∉ ys) :
    SwallowsQuote (xs ++ ys) ↔ SwallowsQuote xs := by
  refine ⟨?_, swallowsQuote_append_left⟩
  rintro ⟨before, after, hplace, hopen⟩
  rw [List.append_eq_append_iff] at hplace
  rcases hplace with ⟨rest, rfl, rfl⟩ | ⟨rest, rfl, hrest⟩
  · exact absurd (List.mem_append_right rest List.mem_cons_self) hq
  · cases rest with
    | nil =>
      rw [List.nil_append] at hrest
      exact absurd (hrest ▸ List.mem_cons_self) hq
    | cons d rest =>
      obtain ⟨rfl, -⟩ := List.cons.inj hrest
      exact ⟨before, rest, rfl, hopen⟩

/-- A character that is neither a backslash nor a quote separates two texts: a quote is
swallowed in the one or in the other. -/
theorem swallowsQuote_append_cons (hb : c ≠ '\\') (hq : c ≠ '"') :
    SwallowsQuote (xs ++ c :: ys) ↔ SwallowsQuote xs ∨ SwallowsQuote ys := by
  constructor
  · rintro ⟨before, after, hplace, hopen⟩
    rw [List.append_eq_append_iff] at hplace
    rcases hplace with ⟨rest, rfl, hrest⟩ | ⟨rest, rfl, hrest⟩
    · cases rest with
      | nil => exact absurd (List.cons.inj hrest).1 hq
      | cons d rest =>
        obtain ⟨rfl, rfl⟩ := List.cons.inj hrest
        exact .inr ⟨rest, after, rfl, (endsOpen_append_cons hb).mp hopen⟩
    · cases rest with
      | nil => exact absurd (List.cons.inj hrest).1.symm hq
      | cons d rest =>
        obtain ⟨rfl, -⟩ := List.cons.inj hrest
        exact .inl ⟨before, rest, rfl, hopen⟩
  · rintro (h | ⟨before, after, rfl, hopen⟩)
    · exact swallowsQuote_append_left h
    · exact ⟨xs ++ c :: before, after, by simp, (endsOpen_append_cons hb).mpr hopen⟩

/-! ### The scan -/

/-- What holds wherever a list is cut holds of the cut in front of it and behind its head. -/
theorem forall_split_cons_iff {α : Type} {a : α} {as : List α} {p : List α → α → Prop} :
    (∀ before x after, a :: as = before ++ x :: after → p before x) ↔
      p [] a ∧ ∀ before x after, as = before ++ x :: after → p (a :: before) x := by
  constructor
  · intro h
    refine ⟨h [] a as rfl, fun before x after hplace => h (a :: before) x after ?_⟩
    rw [hplace, List.cons_append]
  · rintro ⟨hhead, htail⟩ before x after hplace
    cases before with
    | nil =>
      obtain ⟨rfl, -⟩ := List.cons.inj hplace
      exact hhead
    | cons b before =>
      obtain ⟨rfl, hrest⟩ := List.cons.inj hplace
      exact htail before x after hrest

/-- The scan behind a text `seen` that it knows to be open or not. -/
theorem danglingFrom_eq_none_iff_of_seen (seen cs : List Char) (offset : Nat) (isOpen : Bool)
    (hseen : isOpen = true ↔ EndsOpen seen) :
    danglingFrom offset isOpen cs = none ↔
      (∀ before c after, cs = before ++ c :: after → c = '"' → ¬EndsOpen (seen ++ before)) ∧
        ¬EndsOpen (seen ++ cs) := by
  -- the state of the scan is a fact about what it has seen, so the induction carries both
  induction cs generalizing seen offset isOpen with
  | nil =>
    rw [danglingFrom, List.append_nil, ← hseen]
    cases isOpen <;> simp
  | cons c cs ih =>
    rw [danglingFrom, forall_split_cons_iff, List.append_nil]
    by_cases hb : c = '\\'
    · subst hb
      have hnext : (!isOpen) = true ↔ EndsOpen (seen ++ ['\\']) := by
        rw [endsOpen_concat, ← hseen]
        simp
      rw [if_pos rfl, ih (seen ++ ['\\']) (offset + 1) (!isOpen) hnext]
      simp only [List.append_assoc, List.singleton_append, Char.reduceEq, false_implies, true_and]
    rw [if_neg hb]
    by_cases hq : c = '"' ∧ isOpen = true
    · -- the quote is taken by the run before it
      rw [if_pos hq]
      exact iff_of_false (Option.some_ne_none _) fun h => h.1.1 hq.1 (hseen.mp hq.2)
    · have hnext : false = true ↔ EndsOpen (seen ++ [c]) := by
        rw [endsOpen_concat]
        exact iff_of_false Bool.false_ne_true fun h => hb h.1
      rw [if_neg hq, ih (seen ++ [c]) (offset + c.utf8Size) false hnext]
      rw [hseen, not_and] at hq
      simp only [List.append_assoc, List.singleton_append, eq_true hq, true_and]

theorem not_swallowsQuote_iff :
    ¬SwallowsQuote cs ↔
      ∀ before c after, cs = before ++ c :: after → c = '"' → ¬EndsOpen before := by
  constructor
  · rintro h before c after hplace rfl hopen
    exact h ⟨before, after, hplace, hopen⟩
  · rintro h ⟨before, after, hplace, hopen⟩
    exact h before '"' after hplace rfl hopen

/-- The scan finds nothing exactly when no run of odd length stands before a quote or
ends the text. -/
theorem danglingFrom_eq_none_iff (offset : Nat) (cs : List Char) :
    danglingFrom offset false cs = none ↔ ¬SwallowsQuote cs ∧ ¬EndsOpen cs := by
  rw [danglingFrom_eq_none_iff_of_seen [] cs offset false
    (iff_of_false Bool.false_ne_true not_endsOpen_nil), not_swallowsQuote_iff]
  simp only [List.nil_append]

end MessageBundle.Template

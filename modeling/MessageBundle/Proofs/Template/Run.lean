import Mathlib.Data.Nat.PSub
import Mathlib.Data.String.Basic
import MessageBundle.Proofs.Template.Backslash

/-!
# The first run that dangles

A run of backslashes is as long as it can be: none stands directly before it or behind it.
It dangles when its length is odd and what stands behind it is a quote or nothing. The scan
that looks for such a run counts bytes and keeps the parity of the run it is in. It stops
behind the first run that dangles, one byte too far, and steps back to its last backslash.
There is always a byte to step back over, since a run that dangles is not empty.

## Main definitions

* `Run`, `Run.last` — a run in a text, and the byte offset of its last backslash
* `Run.Dangles` — the run swallows a quote that a literal needs
* `danglingFromChecked` — the scan with subtractions that can fail

## Main results

* `exists_run_of_endsOpen`, `exists_dangling_run_iff` — where an open prefix of a text ends, a
  run ends, and one that dangles exactly before a quote or the end
* `danglingFrom_eq_some_iff_of_seen` — what the scan reports behind a text that it has seen
* `danglingFromChecked_eq` — no subtraction of the scan fails
* `danglingEscape?_reports_first_run` — what is reported is the last backslash of the first
  run that dangles
-/

namespace MessageBundle.Template

open String (utf8Len)

/-- A run of backslashes in a text, with what stands in front of it and behind it. -/
structure Run (text : List Char) where
  front : List Char
  length : Nat
  back : List Char
  text_eq : text = front ++ List.replicate length '\\' ++ back
  nonempty : 0 < length
  front_maximal : front.getLast? ≠ some '\\'
  back_maximal : back.head? ≠ some '\\'

/-- Behind a text stands a quote, or the end. -/
def IsClosing (back : List Char) : Prop := back = [] ∨ back.head? = some '"'

namespace Run

variable {text : List Char}

/-- The text up to the end of the run. -/
def through (run : Run text) : List Char := run.front ++ List.replicate run.length '\\'

/-- The byte offset of the last backslash of the run. -/
def last (run : Run text) : Nat := utf8Len run.front + (run.length - 1)

/-- The run has an odd length, and a quote or nothing stands behind it. -/
def Dangles (run : Run text) : Prop := Odd run.length ∧ IsClosing run.back

end Run

variable {text seen before back cs : List Char} {c : Char} {offset k : Nat} {isOpen : Bool}

/-! ### The run that ends a text -/

theorem trailingBackslashes_concat (cs : List Char) (c : Char) :
    trailingBackslashes (cs ++ [c]) = if c = '\\' then trailingBackslashes cs + 1 else 0 := by
  rw [trailingBackslashes, List.reverse_append, List.reverse_singleton, List.singleton_append,
    List.takeWhile_cons]
  split_ifs with hb hc hc
  · rfl
  · exact absurd (beq_iff_eq.mp hb) hc
  · exact absurd (beq_iff_eq.mpr hc) hb
  · rfl

/-- A text is the run that ends it behind a text that does not end in a backslash. -/
theorem exists_eq_append_replicate (cs : List Char) :
    ∃ front, cs = front ++ List.replicate (trailingBackslashes cs) '\\' ∧
      front.getLast? ≠ some '\\' := by
  induction cs using List.reverseRecOn with
  | nil => exact ⟨[], rfl, nofun⟩
  | append_singleton cs c ih =>
    rw [trailingBackslashes_concat]
    by_cases hb : c = '\\'
    · obtain ⟨front, hfront, hlast⟩ := ih
      refine ⟨front, ?_, hlast⟩
      rw [if_pos hb, List.replicate_succ', ← List.append_assoc, ← hfront, hb]
    · refine ⟨cs ++ [c], ?_, ?_⟩
      · rw [if_neg hb, List.replicate_zero, List.append_nil]
      · rw [List.getLast?_concat, Ne, Option.some_inj]
        exact hb

/-- The backslashes behind a text that does not end in one are the run that ends the whole. -/
theorem trailingBackslashes_append_replicate {front : List Char}
    (h : front.getLast? ≠ some '\\') (n : Nat) :
    trailingBackslashes (front ++ List.replicate n '\\') = n := by
  induction n with
  | zero =>
    rw [List.replicate_zero, List.append_nil]
    cases front using List.reverseRecOn with
    | nil => rfl
    | append_singleton init c =>
      rw [List.getLast?_concat, Ne, Option.some_inj] at h
      rw [trailingBackslashes_concat, if_neg h]
  | succ n ih =>
    rw [List.replicate_succ', ← List.append_assoc, trailingBackslashes_concat, if_pos rfl, ih]

/-- A backslash is one byte. -/
theorem utf8Len_replicate (n : Nat) : utf8Len (List.replicate n '\\') = n := by
  induction n with
  | zero => rfl
  | succ n ih =>
    rw [List.replicate_succ, String.utf8Len_cons, ih]
    rfl

namespace Run

theorem text_eq_through (run : Run text) : text = run.through ++ run.back := run.text_eq

/-- The run is odd when the text up to its end ends open. -/
theorem odd_length_iff (run : Run text) : Odd run.length ↔ EndsOpen run.through := by
  rw [EndsOpen, through, trailingBackslashes_append_replicate run.front_maximal]

/-- The run ends one byte behind its last backslash. -/
theorem last_add_one (run : Run text) : run.last + 1 = utf8Len run.through := by
  have hpos := run.nonempty
  rw [last, through, String.utf8Len_append, utf8Len_replicate]
  omega

/-- The last backslash of a run is the character of the text at its offset. -/
theorem get?_last (run : Run text) :
    String.Pos.Raw.get? (String.ofList text) ⟨run.last⟩ = some '\\' := by
  obtain ⟨n, hlength⟩ := Nat.exists_eq_add_one.mpr run.nonempty
  have htext : text = run.front ++ List.replicate n '\\' ++ '\\' :: run.back := calc
    text = run.front ++ List.replicate run.length '\\' ++ run.back := run.text_eq
    _ = run.front ++ List.replicate n '\\' ++ '\\' :: run.back := by
      rw [hlength, List.replicate_succ', ← List.append_assoc run.front, ← List.append_cons]
  have hlast : run.last = utf8Len (run.front ++ List.replicate n '\\') := by
    rw [last, hlength, String.utf8Len_append, utf8Len_replicate, Nat.add_sub_cancel]
  rw [hlast, congrArg String.ofList htext, String.get?_of_valid, List.head?_cons]

theorem last_lt (run : Run text) : run.last < utf8Len text := by
  have hlast := run.last_add_one
  have hbytes := congrArg utf8Len run.text_eq_through
  rw [String.utf8Len_append] at hbytes
  omega

end Run

/-- A text that ends open in front of a quote or of the end reaches to the end of a run that
dangles there. -/
theorem exists_run_of_endsOpen (htext : text = before ++ back) (hopen : EndsOpen before)
    (hback : IsClosing back) : ∃ run : Run text, run.Dangles ∧ run.through = before := by
  obtain ⟨front, hfront, hlast⟩ := exists_eq_append_replicate before
  have hpos : 0 < trailingBackslashes before := by
    obtain ⟨half, hhalf⟩ := hopen
    omega
  have hmaximal : back.head? ≠ some '\\' := by
    rcases hback with rfl | hquote
    · exact nofun
    · rw [hquote]
      decide
  let run : Run text :=
    { front := front
      length := trailingBackslashes before
      back := back
      text_eq := by rw [htext, ← hfront]
      nonempty := hpos
      front_maximal := hlast
      back_maximal := hmaximal }
  exact ⟨run, ⟨hopen, hback⟩, hfront.symm⟩

/-- Some run dangles exactly when the text swallows a quote or ends open. -/
theorem exists_dangling_run_iff :
    (∃ run : Run text, run.Dangles) ↔ SwallowsQuote text ∨ EndsOpen text := by
  constructor
  · rintro ⟨run, hodd, hend | hquote⟩
    · have htext := run.text_eq_through
      rw [hend, List.append_nil] at htext
      rw [htext]
      exact .inr (run.odd_length_iff.mp hodd)
    · obtain ⟨rest, hrest⟩ := List.head?_eq_some_iff.mp hquote
      exact .inl ⟨run.through, rest, hrest ▸ run.text_eq_through, run.odd_length_iff.mp hodd⟩
  · rintro (⟨before, after, htext, hopen⟩ | hopen)
    · obtain ⟨run, hdangles, -⟩ := exists_run_of_endsOpen htext hopen (.inr rfl)
      exact ⟨run, hdangles⟩
    · obtain ⟨run, hdangles, -⟩ :=
        exists_run_of_endsOpen (List.append_nil text).symm hopen (.inl rfl)
      exact ⟨run, hdangles⟩

/-! ### What the scan reports -/

/-- In a text read behind `seen`, the first place where an odd run stands before a quote or
the end is behind the byte at offset `k`. -/
def StopsBehind (seen cs : List Char) (k : Nat) : Prop :=
  ∃ before back, cs = before ++ back ∧ IsClosing back ∧ EndsOpen (seen ++ before) ∧
    k + 1 = utf8Len (seen ++ before) ∧
    ∀ earlier later, before = earlier ++ '"' :: later → ¬EndsOpen (seen ++ earlier)

theorem stopsBehind_nil : StopsBehind seen [] k ↔ EndsOpen seen ∧ k + 1 = utf8Len seen := by
  constructor
  · rintro ⟨before, back, hsplit, -, hopen, hbytes, -⟩
    obtain ⟨rfl, -⟩ := List.append_eq_nil_iff.mp hsplit.symm
    rw [List.append_nil] at hopen hbytes
    exact ⟨hopen, hbytes⟩
  · rintro ⟨hopen, hbytes⟩
    refine ⟨[], [], rfl, .inl rfl, ?_, ?_, by simp⟩
    · rwa [List.append_nil]
    · rwa [List.append_nil]

/-- A quote behind an odd run is the place. -/
theorem stopsBehind_quote_cons (hseen : EndsOpen seen) :
    StopsBehind seen ('"' :: cs) k ↔ k + 1 = utf8Len seen := by
  constructor
  · rintro ⟨before, back, hsplit, -, -, hbytes, hfirst⟩
    cases before with
    | nil => rwa [List.append_nil] at hbytes
    | cons d before =>
      obtain ⟨rfl, -⟩ := List.cons.inj hsplit
      have hnot := hfirst [] before rfl
      rw [List.append_nil] at hnot
      exact absurd hseen hnot
  · intro hbytes
    refine ⟨[], '"' :: cs, rfl, .inr rfl, ?_, ?_, by simp⟩
    · rwa [List.append_nil]
    · rwa [List.append_nil]

/-- Any other character is passed. -/
theorem stopsBehind_cons (hpass : ¬(c = '"' ∧ EndsOpen seen)) :
    StopsBehind seen (c :: cs) k ↔ StopsBehind (seen ++ [c]) cs k := by
  constructor
  · rintro ⟨before, back, hsplit, hback, hopen, hbytes, hfirst⟩
    cases before with
    | nil =>
      rw [List.nil_append] at hsplit
      rw [List.append_nil] at hopen
      rw [← hsplit] at hback
      rcases hback with hnil | hquote
      · cases hnil
      · exact absurd ⟨Option.some_inj.mp hquote, hopen⟩ hpass
    | cons d before =>
      obtain ⟨rfl, hrest⟩ := List.cons.inj hsplit
      rw [List.append_cons] at hopen hbytes
      refine ⟨before, back, hrest, hback, hopen, hbytes, ?_⟩
      rintro earlier later rfl
      rw [← List.append_cons]
      exact hfirst (c :: earlier) later rfl
  · rintro ⟨before, back, rfl, hback, hopen, hbytes, hfirst⟩
    rw [← List.append_cons] at hopen hbytes
    refine ⟨c :: before, back, rfl, hback, hopen, hbytes, ?_⟩
    intro earlier later hquote
    cases earlier with
    | nil =>
      obtain ⟨rfl, -⟩ := List.cons.inj hquote
      rw [List.append_nil]
      exact fun hseen => hpass ⟨rfl, hseen⟩
    | cons d earlier =>
      obtain ⟨rfl, hrest⟩ := List.cons.inj hquote
      rw [List.append_cons]
      exact hfirst earlier later hrest

theorem utf8Len_pos (hopen : EndsOpen seen) : 0 < utf8Len seen := by
  have hne : seen ≠ [] := by
    rintro rfl
    exact not_endsOpen_nil hopen
  exact Nat.pos_of_ne_zero (mt String.utf8Len_eq_zero.mp hne)

/-- One step back from behind a text that ends open is the byte before. -/
theorem utf8Len_sub_one_eq_iff (hopen : EndsOpen seen) :
    utf8Len seen - 1 = k ↔ k + 1 = utf8Len seen := by
  have hpos := utf8Len_pos hopen
  omega

/-- The scan behind a text that it has seen finds the first place in the rest of it. -/
theorem danglingFrom_eq_some_iff_of_seen (seen cs : List Char) (k : Nat)
    (hopen : isOpen = true ↔ EndsOpen seen) :
    danglingFrom (utf8Len seen) isOpen cs = some k ↔ StopsBehind seen cs k := by
  -- the state of the scan is a fact about what it has seen, so the induction carries both
  induction cs generalizing seen isOpen with
  | nil =>
    rw [danglingFrom, stopsBehind_nil, ← hopen]
    split_ifs with hstate
    · rw [Option.some_inj, utf8Len_sub_one_eq_iff (hopen.mp hstate), and_iff_right hstate]
    · exact iff_of_false not_false fun h => hstate h.1
  | cons c cs ih =>
    have hbytes : utf8Len (seen ++ [c]) = utf8Len seen + c.utf8Size := by
      rw [String.utf8Len_append, String.utf8Len_cons, String.utf8Len_nil, Nat.zero_add]
    rw [danglingFrom]
    by_cases hb : c = '\\'
    · subst hb
      have hnext : (!isOpen) = true ↔ EndsOpen (seen ++ ['\\']) := by
        rw [endsOpen_concat, ← hopen]
        simp
      rw [if_pos rfl, stopsBehind_cons (by simp), ← ih _ hnext, hbytes]
      rfl
    rw [if_neg hb]
    by_cases hplace : c = '"' ∧ isOpen = true
    · obtain ⟨rfl, hstate⟩ := hplace
      rw [if_pos ⟨rfl, hstate⟩, Option.some_inj, stopsBehind_quote_cons (hopen.mp hstate),
        utf8Len_sub_one_eq_iff (hopen.mp hstate)]
    · have hnext : false = true ↔ EndsOpen (seen ++ [c]) := by
        rw [endsOpen_concat]
        exact iff_of_false Bool.false_ne_true fun h => hb h.1
      rw [if_neg hplace, stopsBehind_cons (mt (And.imp_right hopen.mpr) hplace),
        ← ih _ hnext, hbytes]

/-- The scan of a text reports the last backslash of the run that dangles first. -/
theorem danglingFrom_eq_some_iff :
    danglingFrom 0 false text = some k ↔
      ∃ run : Run text, run.Dangles ∧ run.last = k ∧
        ∀ other : Run text, other.Dangles → run.last ≤ other.last := by
  have hscan := danglingFrom_eq_some_iff_of_seen [] text k
    (iff_of_false Bool.false_ne_true not_endsOpen_nil)
  rw [String.utf8Len_nil] at hscan
  rw [hscan, StopsBehind]
  simp only [List.nil_append]
  constructor
  · rintro ⟨before, back, htext, hback, hopen, hbytes, hfirst⟩
    obtain ⟨run, hdangles, rfl⟩ := exists_run_of_endsOpen htext hopen hback
    have hlast := run.last_add_one
    refine ⟨run, hdangles, by omega, ?_⟩
    rintro other ⟨hodd, hother⟩
    have hotherLast := other.last_add_one
    have hopenOther := other.odd_length_iff.mp hodd
    have hsame := other.text_eq_through.symm.trans htext
    rw [List.append_eq_append_iff] at hsame
    -- a run that ends before this one would have its quote in front of the place
    rcases hsame with ⟨more, hthrough, hmore⟩ | ⟨more, hthrough, -⟩
    · cases more with
      | nil =>
        rw [List.append_nil] at hthrough
        rw [hthrough] at hlast
        omega
      | cons d more =>
        rw [hmore] at hother
        rcases hother with hnil | hquote
        · cases hnil
        · obtain rfl := Option.some_inj.mp hquote
          exact absurd hopenOther (hfirst other.through more hthrough)
    · rw [hthrough, String.utf8Len_append] at hotherLast
      omega
  · rintro ⟨run, hdangles, rfl, hfirst⟩
    refine ⟨run.through, run.back, run.text_eq_through, hdangles.2,
      run.odd_length_iff.mp hdangles.1, run.last_add_one, ?_⟩
    intro earlier later hthrough hopen
    have htext : text = earlier ++ '"' :: (later ++ run.back) := calc
      text = run.through ++ run.back := run.text_eq_through
      _ = earlier ++ '"' :: (later ++ run.back) := by
        rw [hthrough, List.append_assoc, List.cons_append]
    obtain ⟨other, hother, rfl⟩ := exists_run_of_endsOpen htext hopen (.inr rfl)
    have hle := hfirst other hother
    have hotherLast := other.last_add_one
    have hlast := run.last_add_one
    rw [hthrough, String.utf8Len_append, String.utf8Len_cons] at hlast
    have hquote : '"'.utf8Size = 1 := rfl
    omega

/-! ### The subtractions of the scan -/

/-- The scan with subtractions that can fail: the answer is nothing at all where one is to be
taken from zero. -/
def danglingFromChecked (offset : Nat) (isOpen : Bool) : List Char → Option (Option Nat)
  | [] => if isOpen then offset.ppred.map some else some none
  | c :: cs =>
    if c = '\\' then danglingFromChecked (offset + 1) (!isOpen) cs
    else if c = '"' ∧ isOpen then offset.ppred.map some
    else danglingFromChecked (offset + c.utf8Size) false cs

theorem ppred_of_pos (h : 0 < offset) : offset.ppred = some (offset - 1) := by
  cases offset with
  | zero => cases h
  | succ n => rfl

/-- In an open run there is a backslash behind the scan, so that no subtraction fails. -/
theorem danglingFromChecked_eq (cs : List Char) (h : isOpen = true → 0 < offset) :
    danglingFromChecked offset isOpen cs = some (danglingFrom offset isOpen cs) := by
  induction cs generalizing offset isOpen with
  | nil =>
    rw [danglingFromChecked, danglingFrom]
    split_ifs with hopen
    · rw [ppred_of_pos (h hopen), Option.map_some]
    · rfl
  | cons c cs ih =>
    rw [danglingFromChecked, danglingFrom]
    split_ifs with hb hplace
    · exact ih fun _ => Nat.succ_pos offset
    · rw [ppred_of_pos (h hplace.2), Option.map_some]
    · exact ih fun hopen => absurd hopen Bool.false_ne_true

/-! ### What is reported of a template -/

/-- What is reported is the byte offset of the last backslash of the first run that dangles;
nothing is reported when no run does. A backslash starts at the offset, which lies in the
text, and no subtraction on the way to it goes below zero. -/
theorem danglingEscape?_reports_first_run (template : String) :
    (∀ k, danglingEscape? template = some k ↔
      ∃ run : Run template.toList, run.Dangles ∧ run.last = k ∧
        ∀ other : Run template.toList, other.Dangles → run.last ≤ other.last) ∧
    (danglingEscape? template = none ↔ ∀ run : Run template.toList, ¬run.Dangles) ∧
    (∀ k, danglingEscape? template = some k →
      k < template.utf8ByteSize ∧ String.Pos.Raw.get? template ⟨k⟩ = some '\\') ∧
    danglingFromChecked 0 false template.toList = some (danglingEscape? template) := by
  refine ⟨fun k => danglingFrom_eq_some_iff, ?_, fun k hk => ?_, ?_⟩
  · rw [danglingEscape?, danglingFrom_eq_none_iff, ← not_or, ← exists_dangling_run_iff, not_exists]
  · obtain ⟨run, -, rfl, -⟩ := danglingFrom_eq_some_iff.mp hk
    have hlast := run.last_lt
    have hget := run.get?_last
    rw [String.utf8Len_toList] at hlast
    rw [String.ofList_toList] at hget
    exact ⟨hlast, hget⟩
  · exact danglingFromChecked_eq template.toList fun hopen => absurd hopen Bool.false_ne_true

/-- The backslash that swallows the quote stands behind a letter of two bytes; the one that
ends the text comes later. -/
example : danglingEscape? "é\\\"\\\\x\\" = some 2 := by decide

end MessageBundle.Template

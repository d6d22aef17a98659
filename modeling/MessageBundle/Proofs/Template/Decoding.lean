import MessageBundle.Proofs.Template.Backslash
import MessageBundle.Proofs.Template.LiteralBody

/-!
# What an escaped template is read as

A literal is written so that a reader gets the template back. Such a reader goes from left
to right and takes a backslash together with the character behind it: four of these pairs
stand for a character, and any other pair is an escape of the template's own, which is
passed on as it is. A template is read by the same rules, only that its bare quotes and line
breaks stand for themselves, and that a backslash in front of a line break stands for
itself.

There the two readings part: the line break behind an open backslash is escaped with one
backslash more, and whoever reads the literal pairs that one with the backslash of the
template, so that a letter is left in the place of the break. This file shows that nothing
else comes between what a template says and what is read of its literal.

## Main definitions

* `Symbol` — a character, or an escape that is passed on
* `decode` — a literal body read as symbols
* `denote` — a template read as symbols
* `IsSound` — the grammar of templates without a dangling backslash
* `BreaksOpen` — an odd run of backslashes stands directly before a line break

## Main results

* `isSome_decode_iff` — a text is decoded exactly when it is the body of a literal
* `danglingFrom_eq_none_iff_isSound` — the scan finds nothing when the grammar holds
* `decode_escapeChars_of_isSound` — what is read of a sound template and of its literal
* `decode_escape` — a template is read back exactly when no open backslash of it stands
  before a line break
-/

namespace MessageBundle.Template

/-- What a text is read as, piece by piece. -/
inductive Symbol
  /-- A character that the text stands for. -/
  | char (c : Char)
  /-- A backslash and a character that are passed on together. -/
  | escape (c : Char)
  deriving DecidableEq, Repr

/-- What a backslash and the character behind it are read as. -/
def Symbol.ofPair : Char → Symbol
  | 'n' => .char '\n'
  | 'r' => .char '\r'
  | '"' => .char '"'
  | '\\' => .char '\\'
  | c => .escape c

/-- The character ends a line. -/
def IsBreak (c : Char) : Prop := c = '\n' ∨ c = '\r'

instance (c : Char) : Decidable (IsBreak c) := inferInstanceAs (Decidable (c = '\n' ∨ c = '\r'))

/-- The body of a literal read from the left. A bare quote or line break, a break behind a
backslash and a backslash without a character behind it are refused. -/
def decode : List Char → Option (List Symbol)
  | [] => some []
  | '\\' :: c :: cs => if IsBreak c then none else (decode cs).map (Symbol.ofPair c :: ·)
  | c :: cs =>
    if c = '\\' ∨ c = '"' ∨ IsBreak c then none else (decode cs).map (Symbol.char c :: ·)

/-- A template read from the left. Bare quotes and line breaks stand for themselves, and so
does a backslash in front of a line break; one without a character behind it is refused. -/
def denote : List Char → Option (List Symbol)
  | [] => some []
  | '\\' :: c :: cs =>
    if IsBreak c then (denote cs).map fun rest => .char '\\' :: .char c :: rest
    else (denote cs).map (Symbol.ofPair c :: ·)
  | c :: cs => if c = '\\' then none else (denote cs).map (Symbol.char c :: ·)

/-- A template none of whose backslashes takes a quote, or is left without a character. -/
inductive IsSound : List Char → Prop
  | nil : IsSound []
  | bare {c : Char} {cs : List Char} (hb : c ≠ '\\') (rest : IsSound cs) : IsSound (c :: cs)
  | taken {c : Char} {cs : List Char} (hq : c ≠ '"') (rest : IsSound cs) :
      IsSound ('\\' :: c :: cs)

/-- A run of backslashes of odd length stands directly before a line break. -/
def BreaksOpen (cs : List Char) : Prop :=
  ∃ before c after, cs = before ++ c :: after ∧ IsBreak c ∧ EndsOpen before

variable {c : Char} {cs : List Char} {offset : Nat}

/-! ### Reading one pair or one character -/

@[simp] theorem decode_backslash_cons (h : ¬IsBreak c) (cs : List Char) :
    decode ('\\' :: c :: cs) = (decode cs).map (Symbol.ofPair c :: ·) := by
  rw [decode, if_neg h]

theorem decode_cons (hb : c ≠ '\\') (hq : c ≠ '"') (h : ¬IsBreak c) (cs : List Char) :
    decode (c :: cs) = (decode cs).map (Symbol.char c :: ·) := by
  rw [decode]
  · rw [if_neg (by simp [hb, hq, h])]
  · rintro d ds rfl
    exact absurd rfl hb

/-- What a character other than a backslash escapes to is read as that character. -/
theorem decode_escapeChar_append (hb : c ≠ '\\') (rest : List Char) :
    decode (escapeChar c ++ rest) = (decode rest).map (Symbol.char c :: ·) := by
  fun_cases escapeChar c with
  | case1 => exact decode_backslash_cons (by decide) rest
  | case2 => exact decode_backslash_cons (by decide) rest
  | case3 => exact decode_backslash_cons (by decide) rest
  | case4 c hreturn hfeed hquote =>
    rw [imp_false] at hreturn hfeed hquote
    exact decode_cons hb hquote (not_or.mpr ⟨hfeed, hreturn⟩) rest

/-- A text is decoded exactly when it is the body of a literal. -/
theorem isSome_decode_iff : (decode cs).isSome = true ↔ IsLiteralBody cs := by
  rw [← closedBody_eq_true_iff]
  fun_induction decode cs with
  | case1 => simp [closedBody]
  | case2 c cs hbreak =>
    rcases hbreak with rfl | rfl <;> simp [closedBody]
  | case3 c cs hbreak ih =>
    obtain ⟨hfeed, hreturn⟩ := not_or.mp hbreak
    simp [closedBody, hfeed, hreturn, ih]
  | case4 c cs _ hbare =>
    rcases hbare with rfl | rfl | rfl | rfl <;> simp_all [closedBody]
  | case5 c cs _ hbare ih =>
    obtain ⟨hb, hq, hbreak⟩ := not_or.mp hbare |>.imp_right not_or.mp
    obtain ⟨hfeed, hreturn⟩ := not_or.mp hbreak
    simp [closedBody, hb, hq, hfeed, hreturn, ih]

theorem denote_cons (hb : c ≠ '\\') (cs : List Char) :
    denote (c :: cs) = (denote cs).map (Symbol.char c :: ·) := by
  rw [denote]
  · rw [if_neg hb]
  · rintro d ds rfl
    exact absurd rfl hb

/-! ### Open backslashes before line breaks -/

theorem not_breaksOpen_iff :
    ¬BreaksOpen cs ↔
      ∀ before c after, cs = before ++ c :: after → IsBreak c → ¬EndsOpen before := by
  constructor
  · rintro h before c after hplace hbreak hopen
    exact h ⟨before, c, after, hplace, hbreak, hopen⟩
  · rintro h ⟨before, c, after, hplace, hbreak, hopen⟩
    exact h before c after hplace hbreak hopen

theorem not_breaksOpen_nil : ¬BreaksOpen [] := by
  rintro ⟨before, c, after, hplace, -⟩
  exact List.append_ne_nil_of_right_ne_nil before (List.cons_ne_nil c after) hplace.symm

theorem not_breaksOpen_cons (hb : c ≠ '\\') : ¬BreaksOpen (c :: cs) ↔ ¬BreaksOpen cs := by
  rw [not_breaksOpen_iff, not_breaksOpen_iff, forall_split_cons_iff]
  simp only [endsOpen_cons hb, not_endsOpen_nil, not_false_eq_true, implies_true, true_and]

theorem not_breaksOpen_pair_cons :
    ¬BreaksOpen ('\\' :: c :: cs) ↔ ¬IsBreak c ∧ ¬BreaksOpen cs := by
  have hopen : EndsOpen ['\\'] := by
    rw [← List.nil_append ['\\'], endsOpen_concat]
    exact ⟨rfl, not_endsOpen_nil⟩
  rw [not_breaksOpen_iff, not_breaksOpen_iff, forall_split_cons_iff, forall_split_cons_iff]
  simp only [endsOpen_pair_cons, not_endsOpen_nil, hopen, not_false_eq_true, implies_true,
    true_and, not_true_eq_false, imp_false]

/-! ### Sound templates -/

theorem isSound_cons (hb : c ≠ '\\') : IsSound (c :: cs) ↔ IsSound cs := by
  constructor
  · intro h
    cases h with
    | bare _ rest => exact rest
    | taken => exact absurd rfl hb
  · exact .bare hb

theorem isSound_pair_cons : IsSound ('\\' :: c :: cs) ↔ c ≠ '"' ∧ IsSound cs := by
  constructor
  · intro h
    cases h with
    | bare hb => exact absurd rfl hb
    | taken hq rest => exact ⟨hq, rest⟩
  · rintro ⟨hq, rest⟩
    exact .taken hq rest

theorem not_isSound_backslash : ¬IsSound ['\\'] := by
  intro h
  cases h with
  | bare hb => exact hb rfl

/-- What stands behind a text without backslashes is sound if the whole is. -/
theorem isSound_of_append {xs ys : List Char} (hfree : ∀ c ∈ xs, c ≠ '\\')
    (h : IsSound (xs ++ ys)) : IsSound ys := by
  induction xs with
  | nil => exact h
  | cons x xs ih =>
    obtain ⟨hx, hxs⟩ := List.forall_mem_cons.mp hfree
    exact ih hxs ((isSound_cons hx).mp h)

/-- The scan finds nothing exactly when the template follows the grammar; behind a backslash
just read the same holds with that one in front. -/
theorem danglingFrom_eq_none_iff_isSound (cs : List Char) (offset : Nat) :
    (danglingFrom offset false cs = none ↔ IsSound cs) ∧
      (danglingFrom offset true cs = none ↔ IsSound ('\\' :: cs)) := by
  -- a backslash leads from the one state to the other, so both are shown together
  induction cs generalizing offset with
  | nil =>
    exact ⟨iff_of_true rfl .nil, iff_of_false (Option.some_ne_none _) not_isSound_backslash⟩
  | cons c cs ih =>
    rw [danglingFrom, danglingFrom, isSound_pair_cons]
    by_cases hb : c = '\\'
    · subst hb
      obtain ⟨hclosed, hopen⟩ := ih (offset + 1)
      rw [if_pos rfl, if_pos rfl]
      exact ⟨hopen, hclosed.trans (and_iff_right (by decide)).symm⟩
    · have hclosed := (ih (offset + c.utf8Size)).1
      rw [if_neg hb, if_neg hb, isSound_cons hb]
      by_cases hq : c = '"'
      · subst hq
        simp [hclosed]
      · simp [hq, hclosed]

theorem danglingEscape?_eq_none_iff_isSound {template : String} :
    danglingEscape? template = none ↔ IsSound template.toList :=
  (danglingFrom_eq_none_iff_isSound template.toList 0).1

theorem isSound_of_notMem (h : '\\' ∉ cs) : IsSound cs := by
  induction cs with
  | nil => exact .nil
  | cons c cs ih =>
    rw [List.mem_cons, not_or] at h
    exact .bare (Ne.symm h.1) (ih h.2)

/-! ### A template and its literal -/

theorem escapeChar_eq_self (hq : c ≠ '"') (hbreak : ¬IsBreak c) : escapeChar c = [c] := by
  fun_cases escapeChar c with
  | case1 => exact absurd (.inr rfl) hbreak
  | case2 => exact absurd (.inl rfl) hbreak
  | case3 => exact absurd rfl hq
  | case4 => rfl

theorem escapeChars_cons (c : Char) (cs : List Char) :
    escapeChars (c :: cs) = escapeChar c ++ escapeChars cs := rfl

theorem not_isBreak_of_mem_escapeChar {c d : Char} (h : d ∈ escapeChar c) : ¬IsBreak d := by
  have hpair {letter : Char} (hletter : ¬IsBreak letter) : ∀ x ∈ ['\\', letter], ¬IsBreak x :=
    List.forall_mem_cons.mpr ⟨by decide, List.forall_mem_singleton.mpr hletter⟩
  revert h
  fun_cases escapeChar c with
  | case1 => exact hpair (by decide) d
  | case2 => exact hpair (by decide) d
  | case3 => exact hpair (by decide) d
  | case4 c hreturn hfeed _ =>
    intro h
    rw [List.mem_singleton.mp h]
    exact not_or.mpr ⟨hfeed, hreturn⟩

/-- Nothing that a template is escaped to ends a line. -/
theorem not_isBreak_of_mem_escape {s : String} : ∀ c ∈ (escape s).toList, ¬IsBreak c := by
  rw [escape, String.toList_ofList, escapeChars, List.forall_mem_flatMap]
  exact fun c _ d hd => not_isBreak_of_mem_escapeChar hd

/-- A break behind an open backslash leaves a letter in the literal: the backslash that is
put before it is paired with the one of the template. -/
theorem exists_decode_escapeChars_break (h : IsBreak c) (cs : List Char) :
    ∃ letter, letter ≠ c ∧ decode (escapeChars ('\\' :: c :: cs)) =
      (decode (escapeChars cs)).map fun rest => .char '\\' :: .char letter :: rest := by
  -- behind the pair of backslashes the letter of the inserted escape stands bare
  have hletter {letter : Char} (hb : letter ≠ '\\') (hq : letter ≠ '"') (hl : ¬IsBreak letter) :
      decode ('\\' :: '\\' :: letter :: escapeChars cs) =
        (decode (escapeChars cs)).map fun rest => .char '\\' :: .char letter :: rest := by
    rw [decode_backslash_cons (by decide), decode_cons hb hq hl, Option.map_map]
    rfl
  rcases h with rfl | rfl
  · exact ⟨'n', by decide, hletter (by decide) (by decide) (by decide)⟩
  · exact ⟨'r', by decide, hletter (by decide) (by decide) (by decide)⟩

/-- A sound template and the literal written for it are both read to their ends, and as the
same symbols exactly when no open backslash of the template stands before a line break. -/
theorem decode_escapeChars_of_isSound (h : IsSound cs) :
    ∃ read meant, decode (escapeChars cs) = some read ∧ denote cs = some meant ∧
      (read = meant ↔ ¬BreaksOpen cs) := by
  -- along the grammar: a character alone or a pair is read, then the rest
  induction h with
  | nil => exact ⟨[], [], rfl, rfl, iff_of_true rfl not_breaksOpen_nil⟩
  | @bare c cs hb _ ih =>
    obtain ⟨read, meant, hread, hmeant, hiff⟩ := ih
    refine ⟨.char c :: read, .char c :: meant, ?_, ?_, ?_⟩
    · rw [escapeChars_cons, decode_escapeChar_append hb, hread, Option.map_some]
    · rw [denote_cons hb, hmeant, Option.map_some]
    · rw [List.cons_inj_right, hiff, not_breaksOpen_cons hb]
  | @taken c cs hq _ ih =>
    obtain ⟨read, meant, hread, hmeant, hiff⟩ := ih
    rw [not_breaksOpen_pair_cons, denote]
    by_cases hbreak : IsBreak c
    · -- the two readings part here, whatever follows
      obtain ⟨letter, hletter, hdecode⟩ := exists_decode_escapeChars_break hbreak cs
      rw [hdecode, hread, if_pos hbreak, hmeant]
      refine ⟨_, _, rfl, rfl, iff_of_false ?_ fun h => h.1 hbreak⟩
      intro heq
      exact hletter (Symbol.char.inj (List.cons.inj (List.cons.inj heq).2).1)
    · have hescape : escapeChars ('\\' :: c :: cs) = '\\' :: c :: escapeChars cs := by
        rw [escapeChars_cons, escapeChars_cons, escapeChar_eq_self hq hbreak]
        rfl
      rw [hescape, decode_backslash_cons hbreak, hread, if_neg hbreak, hmeant]
      refine ⟨_, _, rfl, rfl, ?_⟩
      rw [List.cons_inj_right, hiff]
      exact (and_iff_right hbreak).symm

theorem decode_escapeChars_of_notMem (h : '\\' ∉ cs) :
    decode (escapeChars cs) = some (cs.map .char) := by
  induction cs with
  | nil => rfl
  | cons c cs ih =>
    rw [List.mem_cons, not_or] at h
    rw [escapeChars_cons, decode_escapeChar_append (Ne.symm h.1), ih h.2, Option.map_some,
      List.map_cons]

/-- A template without a dangling backslash and the literal written for it are both read to
their ends, and as the same symbols exactly when no open backslash of the template stands
before a line break. A template without backslashes has none that dangles, and is read back
character by character. -/
theorem decode_escape (template : String) :
    (danglingEscape? template = none →
      ∃ read meant, decode (escape template).toList = some read ∧
        denote template.toList = some meant ∧
        (read = meant ↔ ¬BreaksOpen template.toList)) ∧
    ('\\' ∉ template.toList →
      danglingEscape? template = none ∧
        decode (escape template).toList = some (template.toList.map .char)) := by
  rw [danglingEscape?_eq_none_iff_isSound, escape, String.toList_ofList]
  refine ⟨decode_escapeChars_of_isSound, fun hfree => ?_⟩
  exact ⟨isSound_of_notMem hfree, decode_escapeChars_of_notMem hfree⟩

/-- A template with an escape of its own, a line feed and a quote means what its literal is
read as; one without backslashes is read back as it is. -/
theorem decode_escape_tab_and_quotes :
    danglingEscape? "\\t\n\"" = none ∧ '\\' ∉ "say \"hi\"\n".toList ∧
      ¬BreaksOpen "\\t\n\"".toList ∧
      decode (escape "say \"hi\"\n").toList = some ("say \"hi\"\n".toList.map .char) := by
  have hsound : danglingEscape? "\\t\n\"" = none := by decide
  have hfree : '\\' ∉ "say \"hi\"\n".toList := by decide
  obtain ⟨read, meant, hread, hmeant, hiff⟩ := (decode_escape "\\t\n\"").1 hsound
  have hsame : decode (escape "\\t\n\"").toList = denote "\\t\n\"".toList := by decide
  rw [hread, hmeant, Option.some_inj] at hsame
  exact ⟨hsound, hfree, hiff.mp hsame, ((decode_escape "say \"hi\"\n").2 hfree).2⟩

/-- A backslash in front of a line feed is accepted, and a letter is read in its place. -/
example : danglingEscape? "\\\n" = none ∧ denote "\\\n".toList = some [.char '\\', .char '\n'] ∧
    decode (escape "\\\n").toList = some [.char '\\', .char 'n'] := by decide

end MessageBundle.Template

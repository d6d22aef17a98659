import MessageBundle.Proofs.Template.Decoding
import MessageBundle.Text.Digit

/-!
# Unicode escapes in a template

Before Java takes source text apart, it replaces Unicode escapes: a backslash that stands
behind an even number of others, one or more times the letter `u`, and four hexadecimal
digits name a UTF-16 unit, and from there on that unit acts as if it had been typed. A
template may carry such escapes, and they are written as they are. Only when the source is
read do they turn into quotes, line breaks or backslashes, which no escaping has seen.

Escaping and translation do not come into each other's way: what is put before a quote or a
line break is never a Unicode escape, so that the literal of a template translates to the
units of the template, the typed ones escaped and the named ones as they are. A quote that
is typed needs a closed place then, since a backslash is put before it; a quote that is named
needs an open one. With the units at hand, the rest is a matter of runs of backslashes again.

## Main definitions

* `unicodeEscape?` — what stands behind the backslash of a Unicode escape
* `SourceUnit`, `translate` — typed and named units, and a text translated to them
* `asRead` — the characters that a translated text is read as
* `SourceUnit.FitsLiteral` — where quotes, line breaks and backslashes may stand among units

## Main results

* `unicodeEscape?_eq_some_iff` — a Unicode escape is told by the characters that spell it
* `translate_escapeChars` — a literal translates to the escaped units of its template
* `SourceUnit.closedBody_literalText_iff_fitsLiteral` — when the units of a template are the
  body of its literal
* `SourceUnit.fitsLiteral_of_isSound` — a sound template fits if its Unicode escapes name
  neither a backslash nor a quote nor a line break
-/

namespace MessageBundle.Template

/-! ### Unicode escapes -/

/-- The unit that four hexadecimal digits name. -/
def hexUnit? (a b c d : Char) : Option UInt16 :=
  match Text.hexDigit? a, Text.hexDigit? b, Text.hexDigit? c, Text.hexDigit? d with
  | some a, some b, some c, some d => some (UInt16.ofNat (Text.ofDigits 16 [a, b, c, d]))
  | _, _, _, _ => none

/-- What stands behind the backslash of a Unicode escape, if it is one: the unit that is
named, and the rest of the text. -/
def unicodeEscape? : List Char → Option (UInt16 × List Char)
  | 'u' :: 'u' :: cs => unicodeEscape? ('u' :: cs)
  | 'u' :: a :: b :: c :: d :: rest => (hexUnit? a b c d).map fun code => (code, rest)
  | _ => none

/-- A character that Unicode escapes are spelled with, behind their backslash. -/
def IsSpelling (c : Char) : Prop := c = 'u' ∨ (Text.hexDigit? c).isSome = true

instance (c : Char) : Decidable (IsSpelling c) :=
  inferInstanceAs (Decidable (c = 'u' ∨ (Text.hexDigit? c).isSome = true))

/-- The text is spelled with such characters, and names the unit wherever it stands behind a
backslash. -/
structure Spells (spelled : List Char) (code : UInt16) : Prop where
  isSpelling : ∀ c ∈ spelled, IsSpelling c
  names : ∀ rest, unicodeEscape? (spelled ++ rest) = some (code, rest)

variable {cs rest spelled : List Char} {c : Char} {code : UInt16} {isOpen : Bool}

theorem IsSpelling.ne_backslash (h : IsSpelling c) : c ≠ '\\' := by
  rintro rfl
  exact absurd h (by decide)

theorem IsSpelling.ne_quote (h : IsSpelling c) : c ≠ '"' := by
  rintro rfl
  exact absurd h (by decide)

theorem IsSpelling.not_isBreak (h : IsSpelling c) : ¬IsBreak c := by
  rintro (rfl | rfl)
  · exact absurd h (by decide)
  · exact absurd h (by decide)

theorem Spells.ne_nil (h : Spells spelled code) : spelled ≠ [] := by
  rintro rfl
  cases h.names []

theorem isSpelling_of_hexUnit? {a b d : Char} (h : hexUnit? a b c d = some code) :
    ∀ x ∈ ['u', a, b, c, d], IsSpelling x := by
  rw [hexUnit?] at h
  split at h
  next ha hb hc hd => simp [IsSpelling, ha, hb, hc, hd]
  next => cases h

/-- Behind a backslash, a Unicode escape is told by what spells it, whatever follows. -/
theorem unicodeEscape?_eq_some_iff :
    unicodeEscape? cs = some (code, rest) ↔
      ∃ spelled, Spells spelled code ∧ cs = spelled ++ rest := by
  constructor
  · intro h
    fun_induction unicodeEscape? cs with
    | case1 cs ih =>
      -- one more `u` in front of what spells the unit already
      obtain ⟨spelled, hspells, hcs⟩ := ih h
      obtain ⟨head, spelled, rfl⟩ := List.exists_cons_of_ne_nil hspells.ne_nil
      obtain ⟨rfl, rfl⟩ := List.cons.inj hcs
      refine ⟨'u' :: 'u' :: spelled, ⟨?_, fun more => ?_⟩, rfl⟩
      · rintro x (_ | ⟨_, hx⟩)
        · exact .inl rfl
        · exact hspells.isSpelling x hx
      · exact hspells.names more
    | case2 a b c d behind hu =>
      obtain ⟨code', hcode, hpair⟩ := Option.map_eq_some_iff.mp h
      obtain ⟨rfl, rfl⟩ := Prod.mk.inj hpair
      refine ⟨['u', a, b, c, d], ⟨isSpelling_of_hexUnit? hcode, fun more => ?_⟩, rfl⟩
      change unicodeEscape? ('u' :: a :: b :: c :: d :: more) = some (code', more)
      rw [unicodeEscape?, hcode, Option.map_some]
      exact hu
    | case3 cs => cases h
  · rintro ⟨spelled, hspells, rfl⟩
    exact hspells.names rest

/-- A change of texts that leaves alone what is spelled at their fronts. -/
structure KeepsSpelling (f : List Char → List Char) : Prop where
  cons : ∀ {c} cs, IsSpelling c → f (c :: cs) = c :: f cs
  head : ∀ {c cs rest}, IsSpelling c → f cs = c :: rest → ∃ cs', cs = c :: cs'

theorem KeepsSpelling.eq_append_iff {f : List Char → List Char} (hf : KeepsSpelling f)
    (hspelled : ∀ c ∈ spelled, IsSpelling c) :
    f cs = spelled ++ rest ↔ ∃ rest', cs = spelled ++ rest' ∧ f rest' = rest := by
  induction spelled generalizing cs with
  | nil => simp
  | cons c spelled ih =>
    obtain ⟨hc, hrest⟩ := List.forall_mem_cons.mp hspelled
    constructor
    · intro h
      obtain ⟨cs, rfl⟩ := hf.head hc h
      rw [hf.cons cs hc, List.cons_append, List.cons_inj_right] at h
      obtain ⟨rest', rfl, hrest'⟩ := (ih hrest).mp h
      exact ⟨rest', rfl, hrest'⟩
    · rintro ⟨rest', rfl, hrest'⟩
      rw [List.cons_append, List.cons_append, hf.cons _ hc, (ih hrest).mpr ⟨rest', rfl, hrest'⟩]

/-- Such a change keeps the Unicode escape that a text starts with, and adds none. -/
theorem KeepsSpelling.unicodeEscape?_eq {f : List Char → List Char} (hf : KeepsSpelling f)
    (cs : List Char) :
    unicodeEscape? (f cs) = (unicodeEscape? cs).map fun (code, rest) => (code, f rest) := by
  refine Option.ext fun (code, rest) => ?_
  rw [unicodeEscape?_eq_some_iff, Option.map_eq_some_iff]
  constructor
  · -- what spells an escape in the changed text stood there before the change
    rintro ⟨spelled, hspells, hcs⟩
    obtain ⟨rest', rfl, rfl⟩ := (hf.eq_append_iff hspells.isSpelling).mp hcs
    exact ⟨(code, rest'), hspells.names rest', rfl⟩
  · rintro ⟨⟨code', rest'⟩, hescape, hpair⟩
    obtain ⟨rfl, rfl⟩ := Prod.mk.inj hpair
    obtain ⟨spelled, hspells, rfl⟩ := unicodeEscape?_eq_some_iff.mp hescape
    exact ⟨spelled, hspells, (hf.eq_append_iff hspells.isSpelling).mpr ⟨rest', rfl, rfl⟩⟩

theorem escapeChar_cases (c : Char) :
    escapeChar c = [c] ∨
      ∃ letter, letter ≠ 'u' ∧ letter ≠ '\\' ∧ escapeChar c = ['\\', letter] := by
  fun_cases escapeChar c with
  | case1 => exact .inr ⟨'r', by decide, by decide, rfl⟩
  | case2 => exact .inr ⟨'n', by decide, by decide, rfl⟩
  | case3 => exact .inr ⟨'"', by decide, by decide, rfl⟩
  | case4 => exact .inl rfl

theorem keepsSpelling_escapeChars : KeepsSpelling escapeChars where
  cons cs hc := by rw [escapeChars_cons, escapeChar_eq_self hc.ne_quote hc.not_isBreak]; rfl
  head {c cs rest} hc h := by
    cases cs with
    | nil => cases h
    | cons d cs =>
      rw [escapeChars_cons] at h
      -- an escaped text starts with a backslash wherever a character was changed
      rcases escapeChar_cases d with hself | ⟨letter, -, -, hletter⟩
      · rw [hself] at h
        exact ⟨cs, by rw [(List.cons.inj h).1]⟩
      · rw [hletter] at h
        exact absurd (List.cons.inj h).1.symm hc.ne_backslash

/-- A character that Unicode escapes are not spelled with separates texts. -/
theorem keepsSpelling_append_cons (hc : ¬IsSpelling c) (ys : List Char) :
    KeepsSpelling fun cs => cs ++ c :: ys where
  cons cs _ := rfl
  head {d cs rest} hd h := by
    cases cs with
    | nil => exact absurd ((List.cons.inj h).1 ▸ hd) hc
    | cons x xs => exact ⟨xs, by rw [(List.cons.inj h).1]⟩

/-! ### Translation -/

/-- A unit of source text behind the translation of its Unicode escapes. -/
inductive SourceUnit
  /-- A character that was typed. -/
  | typed (c : Char)
  /-- A UTF-16 unit that was named by a Unicode escape. -/
  | named (code : UInt16)
  deriving DecidableEq, Repr

namespace SourceUnit

/-- The character that a unit acts as. Half of a surrogate pair is no character; it is taken
for the character zero, which has no part in literals and lines either. -/
def char : SourceUnit → Char
  | typed c => c
  | named code => Char.ofNat code.toNat

/-- The unit was named by a Unicode escape. -/
def isNamed : SourceUnit → Bool
  | typed _ => false
  | named _ => true

/-- What a unit of a template becomes in the literal: typed characters are escaped. -/
def escaped : SourceUnit → List SourceUnit
  | typed c => (escapeChar c).map typed
  | named code => [named code]

end SourceUnit

theorem length_lt_of_unicodeEscape? (h : unicodeEscape? cs = some (code, rest)) :
    rest.length < cs.length + 1 := by
  obtain ⟨spelled, -, rfl⟩ := unicodeEscape?_eq_some_iff.mp h
  rw [List.length_append]
  omega

/-- A text translated to units, from the left; `isOpen` tells whether an odd number of
backslashes stands directly before it. -/
def translate (isOpen : Bool) : List Char → List SourceUnit
  | [] => []
  | c :: cs =>
    if c = '\\' then
      if isOpen then .typed c :: translate false cs
      else
        match _h : unicodeEscape? cs with
        | some (code, rest) => .named code :: translate false rest
        | none => .typed c :: translate true cs
    else .typed c :: translate false cs
termination_by cs => cs.length
decreasing_by
  · exact Nat.lt_succ_self _
  · exact length_lt_of_unicodeEscape? _h
  · exact Nat.lt_succ_self _
  · exact Nat.lt_succ_self _

/-- The characters that a source text is read as. -/
def asRead (cs : List Char) : List Char := (translate false cs).map SourceUnit.char

@[simp] theorem translate_nil : translate isOpen [] = [] := by rw [translate]

theorem translate_cons (hb : c ≠ '\\') (cs : List Char) :
    translate isOpen (c :: cs) = .typed c :: translate false cs := by
  rw [translate, if_neg hb]

theorem translate_backslash_of_open (cs : List Char) :
    translate true ('\\' :: cs) = .typed '\\' :: translate false cs := by
  rw [translate, if_pos rfl, if_pos rfl]

theorem translate_backslash_of_some (h : unicodeEscape? cs = some (code, rest)) :
    translate false ('\\' :: cs) = .named code :: translate false rest := by
  rw [translate, if_pos rfl, if_neg Bool.false_ne_true]
  split
  next heq =>
    rw [h] at heq
    cases heq
    rfl
  next heq =>
    rw [h] at heq
    cases heq

theorem translate_backslash_of_none (h : unicodeEscape? cs = none) :
    translate false ('\\' :: cs) = .typed '\\' :: translate true cs := by
  rw [translate, if_pos rfl, if_neg Bool.false_ne_true]
  split
  next heq =>
    rw [h] at heq
    cases heq
  next => rfl

/-- What a character other than a backslash escapes to is typed, wherever it stands: what is
put before it starts no Unicode escape. -/
theorem translate_escapeChar_append (hb : c ≠ '\\') (rest : List Char) :
    translate isOpen (escapeChar c ++ rest) =
      (escapeChar c).map .typed ++ translate false rest := by
  rcases escapeChar_cases c with hself | ⟨letter, hu, hl, hletter⟩
  · rw [hself]
    exact translate_cons hb rest
  · have hnone : unicodeEscape? (letter :: rest) = none := by
      rw [unicodeEscape?]
      · rintro cs heq
        exact hu (List.cons.inj heq).1
      · rintro a b c d more heq
        exact hu (List.cons.inj heq).1
    rw [hletter]
    change translate isOpen ('\\' :: letter :: rest) =
      .typed '\\' :: .typed letter :: translate false rest
    cases isOpen with
    | true => rw [translate_backslash_of_open, translate_cons hl]
    | false => rw [translate_backslash_of_none hnone, translate_cons hl]

theorem escapeChars_backslash_cons (cs : List Char) :
    escapeChars ('\\' :: cs) = '\\' :: escapeChars cs := rfl

/-- A literal translates to the units of its template, the typed ones escaped. -/
theorem translate_escapeChars (isOpen : Bool) (cs : List Char) :
    translate isOpen (escapeChars cs) = (translate isOpen cs).flatMap SourceUnit.escaped := by
  have hescape := keepsSpelling_escapeChars.unicodeEscape?_eq
  fun_induction translate isOpen cs with
  | case1 => rw [escapeChars, List.flatMap_nil, translate_nil, List.flatMap_nil]
  | case2 cs ih =>
    rw [escapeChars_backslash_cons, translate_backslash_of_open, ih, List.flatMap_cons]
    rfl
  | case3 isOpen cs hclosed code rest hsome ih =>
    -- the escape is still there behind the escaping, with the rest escaped
    obtain rfl := eq_false_of_ne_true hclosed
    have hrest : unicodeEscape? (escapeChars cs) = some (code, escapeChars rest) := by
      rw [hescape, hsome, Option.map_some]
    rw [escapeChars_backslash_cons, translate_backslash_of_some hrest, ih, List.flatMap_cons]
    rfl
  | case4 isOpen cs hclosed hnone ih =>
    -- and no escape comes about where there was none
    obtain rfl := eq_false_of_ne_true hclosed
    have hrest : unicodeEscape? (escapeChars cs) = none := by
      rw [hescape, hnone, Option.map_none]
    rw [escapeChars_backslash_cons, translate_backslash_of_none hrest, ih, List.flatMap_cons]
    rfl
  | case5 isOpen c cs hb ih =>
    rw [escapeChars_cons, translate_escapeChar_append hb, ih, List.flatMap_cons]
    rfl

/-- A text without backslashes is typed, and leaves nothing open behind it. -/
theorem translate_append_of_notMem (h : '\\' ∉ cs) (rest : List Char) :
    translate false (cs ++ rest) = cs.map .typed ++ translate false rest := by
  induction cs with
  | nil => rfl
  | cons c cs ih =>
    rw [List.mem_cons, not_or] at h
    rw [List.cons_append, translate_cons (Ne.symm h.1), ih h.2]
    rfl

/-- A character that is neither a backslash nor part of a Unicode escape separates what is
translated before it from what follows. -/
theorem translate_append_cons (hb : c ≠ '\\') (hc : ¬IsSpelling c) (isOpen : Bool)
    (xs ys : List Char) :
    translate isOpen (xs ++ c :: ys) = translate isOpen xs ++ .typed c :: translate false ys := by
  have hescape := (keepsSpelling_append_cons hc ys).unicodeEscape?_eq
  fun_induction translate isOpen xs with
  | case1 => exact translate_cons hb ys
  | case2 cs ih => rw [List.cons_append, translate_backslash_of_open, ih, List.cons_append]
  | case3 isOpen cs hclosed code rest hsome ih =>
    -- an escape ends before the separating character, since that spells none
    obtain rfl := eq_false_of_ne_true hclosed
    have hrest : unicodeEscape? (cs ++ c :: ys) = some (code, rest ++ c :: ys) := by
      rw [hescape, hsome, Option.map_some]
    rw [List.cons_append, translate_backslash_of_some hrest, ih, List.cons_append]
  | case4 isOpen cs hclosed hnone ih =>
    obtain rfl := eq_false_of_ne_true hclosed
    have hrest : unicodeEscape? (cs ++ c :: ys) = none := by
      rw [hescape, hnone, Option.map_none]
    rw [List.cons_append, translate_backslash_of_none hrest, ih, List.cons_append]
  | case5 isOpen d cs hd ih => rw [List.cons_append, translate_cons hd, ih, List.cons_append]

/-! ### Units between quotes -/

namespace SourceUnit

variable {u : SourceUnit} {us : List SourceUnit}

/-- The characters that the units of a template are read as in its literal. -/
def literalText (us : List SourceUnit) : List Char := (us.flatMap escaped).map char

/-- Units of a template that leave the quotes of its literal where they belong. -/
structure FitsLiteral (us : List SourceUnit) : Prop where
  /-- No line break is named. -/
  noBreak : ∀ u ∈ us, u.isNamed = true → ¬IsBreak u.char
  /-- A quote that is named is taken by a backslash, and one that is typed is not. -/
  quotes : ∀ before u after, us = before ++ u :: after → u.char = '"' →
    (u.isNamed = true ↔ EndsOpen (before.map char))
  /-- No backslash takes the quote behind the template. -/
  closed : ¬EndsOpen (us.map char)

/-- The backslash that takes the next character, if one does. -/
def pending (isOpen : Bool) : List Char := if isOpen then ['\\'] else []

/-- A unit can stand where a backslash takes it, or takes it not. -/
def isAdmitted (isOpen : Bool) (u : SourceUnit) : Bool :=
  if u.char = '"' then u.isNamed == isOpen else !(u.isNamed && decide (IsBreak u.char))

theorem isAdmitted_eq_true_iff {isOpen : Bool} :
    u.isAdmitted isOpen = true ↔
      (u.isNamed = true → ¬IsBreak u.char) ∧
        (u.char = '"' → (u.isNamed = true ↔ isOpen = true)) := by
  rw [isAdmitted]
  by_cases hq : u.char = '"'
  · have hbreak : ¬IsBreak '"' := by decide
    rw [if_pos hq, beq_iff_eq, Bool.eq_iff_iff, hq]
    simp only [hbreak, not_false_eq_true, implies_true, true_and, forall_const]
  · rw [if_neg hq]
    cases hnamed : u.isNamed <;> simp [hq]

theorem literalText_cons (u : SourceUnit) (us : List SourceUnit) :
    literalText (u :: us) = u.escaped.map char ++ literalText us := by
  rw [literalText, List.flatMap_cons, List.map_append, literalText]

theorem map_char_escaped_typed (c : Char) : (typed c).escaped.map char = escapeChar c := by
  rw [escaped, List.map_map]
  exact List.map_id _

/-- One unit of a template in its literal: it has to be admitted where it stands, and leaves
a backslash open when it is one that is not taken. -/
theorem closedBody_pending_append (isOpen : Bool) (u : SourceUnit) (rest : List Char) :
    closedBody (pending isOpen ++ (u.escaped.map char ++ rest)) =
      (u.isAdmitted isOpen &&
        closedBody (pending (u.char == '\\' && !isOpen) ++ rest)) := by
  cases u with
  | typed c =>
    -- a typed backslash is written as it is, any other character as its escape
    rw [map_char_escaped_typed]
    by_cases hb : c = '\\'
    · subst hb
      cases isOpen <;> simp [escapeChar, pending, isAdmitted, char, isNamed, closedBody]
    · cases isOpen with
      | false =>
        simp [pending, closedBody_escapeChar_append hb, isAdmitted, char, isNamed, hb]
      | true =>
        have htaken := closedBody_backslash_escapeChar_append hb rest
        by_cases hq : c = '"' <;> simp_all [pending, isAdmitted, char, isNamed]
  | named code =>
    -- a named unit is one character, read as if it had been typed in the literal
    change closedBody (pending isOpen ++ char (named code) :: rest) = _
    generalize hd : char (named code) = d
    by_cases hb : d = '\\'
    · cases isOpen <;> simp [hb, hd, pending, isAdmitted, isNamed, closedBody, IsBreak]
    · rw [Bool.eq_iff_iff]
      cases isOpen <;> by_cases hq : d = '"' <;>
        simp [hb, hq, hd, pending, isAdmitted, isNamed, closedBody, IsBreak]

/-- Units behind a text `seen` that is known to be open or not: in the literal they are the
rest of its body exactly when they fit behind that text. -/
theorem closedBody_pending_iff_of_seen (seen : List Char) (us : List SourceUnit) (isOpen : Bool)
    (hseen : isOpen = true ↔ EndsOpen seen) :
    closedBody (pending isOpen ++ literalText us) = true ↔
      (∀ u ∈ us, u.isNamed = true → ¬IsBreak u.char) ∧
      (∀ before u after, us = before ++ u :: after → u.char = '"' →
        (u.isNamed = true ↔ EndsOpen (seen ++ before.map char))) ∧
      ¬EndsOpen (seen ++ us.map char) := by
  -- which backslash is pending is a fact about what was seen, so the induction carries both
  induction us generalizing seen isOpen with
  | nil =>
    rw [List.map_nil, List.append_nil, ← hseen]
    cases isOpen <;> simp [pending, literalText, closedBody]
  | cons u us ih =>
    have hnext : (u.char == '\\' && !isOpen) = true ↔ EndsOpen (seen ++ [u.char]) := by
      rw [endsOpen_concat, ← hseen]
      simp
    rw [literalText_cons, closedBody_pending_append, Bool.and_eq_true, isAdmitted_eq_true_iff,
      ih _ _ hnext, hseen, List.forall_mem_cons, forall_split_cons_iff]
    simp only [List.map_cons, List.map_nil, List.append_nil, List.append_assoc,
      List.singleton_append]
    constructor
    · rintro ⟨⟨hbreak, hquote⟩, hbreaks, hquotes, hclosed⟩
      exact ⟨⟨hbreak, hbreaks⟩, ⟨hquote, hquotes⟩, hclosed⟩
    · rintro ⟨⟨hbreak, hbreaks⟩, ⟨hquote, hquotes⟩, hclosed⟩
      exact ⟨⟨hbreak, hquote⟩, hbreaks, hquotes, hclosed⟩

/-- The units of a template are the body of its literal exactly when they fit. -/
theorem closedBody_literalText_iff_fitsLiteral :
    closedBody (literalText us) = true ↔ FitsLiteral us := by
  have hiff := closedBody_pending_iff_of_seen [] us false
    (iff_of_false Bool.false_ne_true not_endsOpen_nil)
  simp only [List.nil_append] at hiff
  constructor
  · intro h
    obtain ⟨hbreak, hquotes, hclosed⟩ := hiff.mp h
    exact { noBreak := hbreak, quotes := hquotes, closed := hclosed }
  · rintro ⟨hbreak, hquotes, hclosed⟩
    exact hiff.mpr ⟨hbreak, hquotes, hclosed⟩

/-- A typed unit is admitted unless a backslash takes a quote. -/
theorem isAdmitted_typed {isOpen : Bool} (h : isOpen = true → c ≠ '"') :
    (typed c).isAdmitted isOpen = true := by
  refine isAdmitted_eq_true_iff.mpr ⟨fun hnamed => absurd hnamed Bool.false_ne_true, ?_⟩
  intro hq
  exact iff_of_false Bool.false_ne_true fun hopen => h hopen hq

/-- A sound template, open or closed in front, whose Unicode escapes name nothing that a
literal looks for. -/
theorem closedBody_pending_of_isSound {isOpen : Bool} {cs : List Char}
    (h : IsSound (pending isOpen ++ cs))
    (hplain : ∀ u ∈ translate isOpen cs, u.isNamed = true →
      u.char ≠ '\\' ∧ u.char ≠ '"' ∧ ¬IsBreak u.char) :
    closedBody (pending isOpen ++ literalText (translate isOpen cs)) = true := by
  fun_induction translate isOpen cs with
  | case1 isOpen =>
    cases isOpen with
    | true => exact absurd h not_isSound_backslash
    | false => rfl
  | case2 cs ih =>
    -- a pair of backslashes
    obtain ⟨-, hrest⟩ := isSound_pair_cons.mp h
    rw [literalText_cons, closedBody_pending_append, isAdmitted_typed fun _ => by decide]
    exact ih hrest (List.forall_mem_cons.mp hplain).2
  | case3 isOpen cs hclosed code rest hsome ih =>
    obtain rfl := eq_false_of_ne_true hclosed
    obtain ⟨⟨hb, hq, hbreak⟩, hothers⟩ :=
      (List.forall_mem_cons.mp hplain).imp_left fun hhead => hhead rfl
    -- nothing that spells the escape is a backslash, and nothing it names is one
    have hrest : IsSound rest := by
      obtain ⟨spelled, hspells, rfl⟩ := unicodeEscape?_eq_some_iff.mp hsome
      obtain ⟨x, spelled, rfl⟩ := List.exists_cons_of_ne_nil hspells.ne_nil
      have hfree := List.forall_mem_cons.mp hspells.isSpelling
      exact isSound_of_append (fun y hy => (hfree.2 y hy).ne_backslash) (isSound_pair_cons.mp h).2
    have hadmitted : (named code).isAdmitted false = true :=
      isAdmitted_eq_true_iff.mpr ⟨fun _ => hbreak, fun hquote => absurd hquote hq⟩
    rw [literalText_cons, closedBody_pending_append, hadmitted, beq_false_of_ne hb]
    exact ih hrest hothers
  | case4 isOpen cs hclosed hnone ih =>
    obtain rfl := eq_false_of_ne_true hclosed
    rw [literalText_cons, closedBody_pending_append, isAdmitted_typed fun _ => by decide]
    exact ih h (List.forall_mem_cons.mp hplain).2
  | case5 isOpen c cs hb ih =>
    have hsound : (isOpen = true → c ≠ '"') ∧ IsSound cs := by
      cases isOpen with
      | true => exact (isSound_pair_cons.mp h).imp_left fun hq _ => hq
      | false => exact ⟨fun hopen => absurd hopen Bool.false_ne_true, (isSound_cons hb).mp h⟩
    rw [literalText_cons, closedBody_pending_append, isAdmitted_typed hsound.1]
    have hnext : (char (typed c) == '\\' && !isOpen) = false := by simp [char, hb]
    rw [hnext]
    exact ih hsound.2 (List.forall_mem_cons.mp hplain).2

/-- The units of a sound template fit if its Unicode escapes name neither a backslash nor a
quote nor a line break. -/
theorem fitsLiteral_of_isSound {cs : List Char} (h : IsSound cs)
    (hplain : ∀ u ∈ translate false cs, u.isNamed = true →
      u.char ≠ '\\' ∧ u.char ≠ '"' ∧ ¬IsBreak u.char) :
    FitsLiteral (translate false cs) :=
  closedBody_literalText_iff_fitsLiteral.mp <|
    @closedBody_pending_of_isSound false cs h hplain

end SourceUnit

end MessageBundle.Template

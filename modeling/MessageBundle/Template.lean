/-!
# Message templates inside string literals

A template is written between double quotes in generated source. `escape`
spells its line breaks and quotes so that they survive there; backslashes are
left alone, so a template may carry escapes of its own. The price is that a
backslash of the template can swallow a quote which the literal needs, and
`danglingEscape?` finds the first place where that happens.

## Main definitions

* `escape` — the body of the literal for a template
* `danglingEscape?` — the byte offset of the first backslash that swallows a quote
* `ClosedBody` — a text that a literal can hold: no unescaped quote, no raw line
  break, no open backslash at its end

## Main results

* `closedBody_escapeChars_iff_danglingFrom` — a template escapes to a closed body
  exactly when none of its backslashes dangles
-/

namespace MessageBundle.Template

/-- A line break or a quote becomes a backslash and a letter or quote; every
other character stands for itself. -/
def escapeChar : Char → List Char
  | '\r' => ['\\', 'r']
  | '\n' => ['\\', 'n']
  | '"' => ['\\', '"']
  | c => [c]

/-- The body of the string literal for a template, as characters. -/
def escapeChars (cs : List Char) : List Char := cs.flatMap escapeChar

/-- The body of the string literal for a template. -/
def escape (template : String) : String := String.ofList (escapeChars template.toList)

/-- The scan behind `danglingEscape?`: `offset` bytes lie behind, and `isOpen`
tells whether a run of backslashes of odd length ends there. -/
def danglingFrom (offset : Nat) (isOpen : Bool) : List Char → Option Nat
  | [] => if isOpen then some (offset - 1) else none
  | c :: cs =>
    if c = '\\' then danglingFrom (offset + 1) (!isOpen) cs
    else if c = '"' ∧ isOpen then some (offset - 1)
    else danglingFrom (offset + c.utf8Size) false cs

/-- The byte offset of the last backslash in a run of odd length that ends the
template or stands directly before a quote, for the first such run. -/
def danglingEscape? (template : String) : Option Nat := danglingFrom 0 false template.toList

/-- A literal can hold the text: read from the left, with a backslash taking the
next character with it, no quote and no line break is met bare, and no
backslash is left open at the end. -/
def closedBody : List Char → Bool
  | [] => true
  | '\\' :: c :: cs => c != '\n' && c != '\r' && closedBody cs
  | c :: cs => c != '\\' && c != '"' && c != '\n' && c != '\r' && closedBody cs

/-! ### One character escaped -/

variable {c : Char}

/-- What a character other than a backslash escapes to can stand in front of any body. -/
theorem closedBody_escapeChar_append (hb : c ≠ '\\') (rest : List Char) :
    closedBody (escapeChar c ++ rest) = closedBody rest := by
  fun_cases escapeChar c with
  | case1 => rfl
  | case2 => rfl
  | case3 => rfl
  | case4 c hreturn hfeed hquote =>
    rw [imp_false] at hreturn hfeed hquote
    simp [closedBody, hb, hreturn, hfeed, hquote]

/-- Behind a backslash it can stand too, unless it is a quote: the backslash takes the one
that was put before it. -/
theorem closedBody_backslash_escapeChar_append (hb : c ≠ '\\') (rest : List Char) :
    closedBody ('\\' :: (escapeChar c ++ rest)) = (c != '"' && closedBody rest) := by
  fun_cases escapeChar c with
  | case1 => rfl
  | case2 => rfl
  | case3 => rfl
  | case4 c hreturn hfeed hquote =>
    rw [imp_false] at hreturn hfeed hquote
    simp [closedBody, bne_iff_ne.mpr hreturn, bne_iff_ne.mpr hfeed, bne_iff_ne.mpr hquote]

/-- Escaping a template leaves the closing quote where it belongs exactly when
no backslash of the template dangles; `isOpen` stands for one just read. -/
theorem closedBody_escapeChars_iff_danglingFrom (cs : List Char) (offset : Nat) :
    (closedBody (escapeChars cs) = true ↔ danglingFrom offset false cs = none) ∧
      (closedBody ('\\' :: escapeChars cs) = true ↔ danglingFrom offset true cs = none) := by
  induction cs generalizing offset with
  | nil => simp [escapeChars, closedBody, danglingFrom]
  | cons c cs ih =>
    have hescape : escapeChars (c :: cs) = escapeChar c ++ escapeChars cs := rfl
    rw [danglingFrom, danglingFrom]
    by_cases hb : c = '\\'
    · -- one more backslash opens what was closed, and is taken where one was open
      subst hb
      obtain ⟨hclosed, hopen⟩ := ih (offset + 1)
      have htwo : closedBody ('\\' :: '\\' :: escapeChars cs) = closedBody (escapeChars cs) := by
        simp [closedBody]
      rw [if_pos rfl, if_pos rfl]
      exact ⟨hopen, htwo ▸ hclosed⟩
    · have hclosed := (ih (offset + c.utf8Size)).1
      rw [if_neg hb, if_neg hb, hescape, closedBody_escapeChar_append hb,
        closedBody_backslash_escapeChar_append hb]
      by_cases hq : c = '"' <;> simp [hq, hclosed]

end MessageBundle.Template

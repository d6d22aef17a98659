import Mathlib.Data.List.Basic
import MessageBundle.Template

/-!
# Templates between quotes

A literal ends at the first quote that no backslash takes. Its body is told by a grammar:
each character stands for itself or is taken by a backslash, a bare one is neither a quote
nor a backslash, and neither kind is a line break. Whoever reads a literal goes by the
same rules, and finds the closing quote behind the body that was written. Escaping takes
care of the quotes and of the line breaks of a template, and `danglingEscape?` says whether
its backslashes leave that care in place.

## Main definitions

* `IsLiteralBody` — the grammar of the text between the quotes of a literal
* `readBody` — a literal read from behind its opening quote

## Main results

* `escapeChars_eq_replacements` — escaping is three replacements, one after another
* `readBody_eq_some_iff` — what is read of a literal
* `danglingEscape?_eq_none_iff` — when a template can be written between quotes
-/

namespace MessageBundle.Template

/-- The text between the quotes of a literal: bare characters, and characters that a
backslash takes. -/
inductive IsLiteralBody : List Char → Prop
  | nil : IsLiteralBody []
  | bare {c : Char} {cs : List Char} (hbackslash : c ≠ '\\') (hquote : c ≠ '"')
      (hfeed : c ≠ '\n') (hreturn : c ≠ '\r') (rest : IsLiteralBody cs) : IsLiteralBody (c :: cs)
  | taken {c : Char} {cs : List Char} (hfeed : c ≠ '\n') (hreturn : c ≠ '\r')
      (rest : IsLiteralBody cs) : IsLiteralBody ('\\' :: c :: cs)

/-- A literal read from behind its opening quote: its body, and what stands behind the
closing quote. A line break in front of that quote is refused. -/
def readBody : List Char → Option (List Char × List Char)
  | [] => none
  | '"' :: rest => some ([], rest)
  | '\\' :: c :: rest =>
    if c = '\n' ∨ c = '\r' then none
    else (readBody rest).map fun (body, behind) => ('\\' :: c :: body, behind)
  | c :: rest =>
    if c = '\\' ∨ c = '\n' ∨ c = '\r' then none
    else (readBody rest).map fun (body, behind) => (c :: body, behind)

variable {cs body rest : List Char}

/-! ### Three replacements -/

/-- A character with others in its place, wherever it stands. -/
def replaceChar (old : Char) (new : List Char) (cs : List Char) : List Char :=
  cs.flatMap fun c => if c = old then new else [c]

/-- Escaping replaces carriage returns, line feeds and quotes, one after another: no
replacement puts in what a later one replaces. -/
theorem escapeChars_eq_replacements (cs : List Char) :
    escapeChars cs =
      replaceChar '"' ['\\', '"']
        (replaceChar '\n' ['\\', 'n'] (replaceChar '\r' ['\\', 'r'] cs)) := by
  rw [escapeChars, replaceChar, replaceChar, replaceChar, List.flatMap_assoc, List.flatMap_assoc]
  refine congrArg cs.flatMap (funext fun c => ?_)
  fun_cases escapeChar c with
  | case1 => rfl
  | case2 => rfl
  | case3 => rfl
  | case4 c hreturn hfeed hquote =>
    rw [imp_false] at hreturn hfeed hquote
    simp [hreturn, hfeed, hquote]

/-! ### Bodies -/

theorem closedBody_eq_true_iff : closedBody cs = true ↔ IsLiteralBody cs := by
  constructor
  · intro h
    fun_induction closedBody cs with
    | case1 => exact .nil
    | case2 c cs ih =>
      simp only [Bool.and_eq_true, bne_iff_ne] at h
      exact .taken h.1.1 h.1.2 (ih h.2)
    | case3 c cs _ ih =>
      simp only [Bool.and_eq_true, bne_iff_ne] at h
      obtain ⟨⟨⟨⟨hbackslash, hquote⟩, hfeed⟩, hreturn⟩, hrest⟩ := h
      exact .bare hbackslash hquote hfeed hreturn (ih hrest)
  · intro h
    induction h with
    | nil => rfl
    | bare hbackslash hquote hfeed hreturn _ ih =>
      simp [closedBody, hbackslash, hquote, hfeed, hreturn, ih]
    | taken hfeed hreturn _ ih => simp [closedBody, hfeed, hreturn, ih]

instance (cs : List Char) : Decidable (IsLiteralBody cs) :=
  decidable_of_iff (closedBody cs = true) closedBody_eq_true_iff

/-! ### Reading -/

/-- What is read of a literal is a body, up to the quote behind it. -/
theorem readBody_eq_some_iff :
    readBody cs = some (body, rest) ↔ IsLiteralBody body ∧ cs = body ++ '"' :: rest := by
  constructor
  · intro h
    fun_induction readBody cs generalizing body with
    | case1 => cases h
    | case2 behind =>
      cases h
      exact ⟨.nil, rfl⟩
    | case3 c behind hbreak => cases h
    | case4 c behind hbreak ih =>
      rw [not_or] at hbreak
      obtain ⟨⟨inner, last⟩, hinner, hsome⟩ := Option.map_eq_some_iff.mp h
      cases hsome
      obtain ⟨hbody, rfl⟩ := ih hinner
      exact ⟨.taken hbreak.1 hbreak.2 hbody, rfl⟩
    | case5 c behind _ _ hbreak => cases h
    | case6 c behind hquote _ hbare ih =>
      rw [not_or, not_or] at hbare
      obtain ⟨⟨inner, last⟩, hinner, hsome⟩ := Option.map_eq_some_iff.mp h
      cases hsome
      obtain ⟨hbody, rfl⟩ := ih hinner
      exact ⟨.bare hbare.1 hquote hbare.2.1 hbare.2.2 hbody, rfl⟩
  · rintro ⟨hbody, rfl⟩
    induction hbody with
    | nil => rfl
    | bare hbackslash hquote hfeed hreturn _ ih =>
      simp [readBody, hbackslash, hfeed, hreturn, ih]
    | taken hfeed hreturn _ ih => simp [readBody, hfeed, hreturn, ih]

/-! ### Templates -/

/-- No backslash of a template dangles exactly when it escapes to the body of a literal, so
that whoever reads it behind an opening quote gets the very text that was written, and
stops at the quote behind it. -/
theorem danglingEscape?_eq_none_iff (template : String) :
    (danglingEscape? template = none ↔ IsLiteralBody (escape template).toList) ∧
      ∀ rest, danglingEscape? template = none ↔
        readBody ((escape template).toList ++ '"' :: rest) =
          some ((escape template).toList, rest) := by
  have hbody : danglingEscape? template = none ↔ IsLiteralBody (escape template).toList := by
    rw [danglingEscape?, ← (closedBody_escapeChars_iff_danglingFrom _ 0).1,
      closedBody_eq_true_iff, escape, String.toList_ofList]
  refine ⟨hbody, fun rest => ?_⟩
  rw [hbody, readBody_eq_some_iff]
  simp only [and_true]

end MessageBundle.Template

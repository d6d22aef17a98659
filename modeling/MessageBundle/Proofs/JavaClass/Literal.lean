import Mathlib.Data.String.Basic
import MessageBundle.JavaClass
import MessageBundle.Proofs.Template.Decoding

/-!
# The literal of a message

The literal of a message is the project code, the number, a space and the template, escaped
together. What a backslash does to a quote depends on all backslashes in front of it, so
that in general a check of the parts of a text is no check of the text. Here it is one: the
space in front of the template ends every run of backslashes, and so does the number behind
the project code, since it has neither a backslash nor a quote. What a project code ends in
does not count at all, and what is found in the template is found without a look at what
stands before it.

## Main definitions

* `messagePrefix` — what stands in front of the template

## Main results

* `closedBody_messageLiteral_iff` — when the literal of a message is closed
* `danglingFrom_append_cons` — the scan of a text that is cut at a separating character
* `messageLiteral_checked_in_parts` — the check of a message is the check of its project
  code and of its template
-/

namespace MessageBundle

namespace Template

variable {xs ys : List Char} {c : Char} {offset : Nat} {isOpen : Bool}

/-! ### The scan of a text in two parts -/

/-- Where a scan starts shifts what it reports; an open run has a backslash behind it. -/
theorem danglingFrom_add (cs : List Char) (shift : Nat) (h : isOpen = true → 0 < offset) :
    danglingFrom (offset + shift) isOpen cs =
      (danglingFrom offset isOpen cs).map (· + shift) := by
  induction cs generalizing offset isOpen with
  | nil =>
    rw [danglingFrom, danglingFrom]
    split_ifs with hopen
    · -- the place that is reported is the backslash before, so the offset counts one less
      have hpos := h hopen
      rw [Option.map_some, Option.some_inj]
      omega
    · rfl
  | cons c cs ih =>
    rw [danglingFrom, danglingFrom]
    split_ifs with hb hq
    · rw [Nat.add_right_comm]
      exact ih fun _ => Nat.succ_pos offset
    · have hpos := h hq.2
      rw [Option.map_some, Option.some_inj]
      omega
    · rw [Nat.add_right_comm]
      exact ih fun hclosed => absurd hclosed Bool.false_ne_true

/-- At a character that is neither a backslash nor a quote a scan can be cut: what it finds
in front of the character comes first, and behind it the scan starts anew. -/
theorem danglingFrom_append_cons (hb : c ≠ '\\') (hq : c ≠ '"') :
    danglingFrom offset isOpen (xs ++ c :: ys) =
      (danglingFrom offset isOpen (xs ++ [c])).or
        (danglingFrom (offset + String.utf8Len (xs ++ [c])) false ys) := by
  induction xs generalizing offset isOpen with
  | nil => simp [danglingFrom, hb, hq]
  | cons x xs ih =>
    have hbehind : offset + String.utf8Len (x :: xs ++ [c]) =
        offset + x.utf8Size + String.utf8Len (xs ++ [c]) := by
      rw [List.cons_append, String.utf8Len_cons]
      omega
    rw [hbehind, List.cons_append, List.cons_append, danglingFrom, danglingFrom]
    -- both scans take the same step, and a place found at it is the first for both
    split_ifs with hx hswallowed
    · subst hx
      exact ih
    · rfl
    · exact ih

end Template

namespace JavaClass

/-- What stands in front of the template of a message: the project code, the number and a
space. -/
def messagePrefix (projectCode : String) (id : MessageId) : String := s!"{projectCode}{id.display} "

variable (projectCode : String) (id : MessageId) (template : String)

/-! ### What stands in front of a template -/

/-- A number is written with decimal digits and perhaps a minus sign. -/
theorem isDigit_or_eq_minus_of_mem_display {id : MessageId} {c : Char}
    (h : c ∈ id.display.toList) : c.isDigit = true ∨ c = '-' := by
  have hdigit : ∀ n : Nat, c ∈ n.repr.toList → c.isDigit = true := by
    intro n hc
    rw [Nat.repr, String.toList_ofList] at hc
    exact Nat.isDigit_of_mem_toDigits (by decide) (by decide) hc
  rw [MessageId.display, Int.toString_eq_repr, Int.repr_eq_if] at h
  split at h
  · exact .inl (hdigit _ h)
  · rw [String.toList_append, List.mem_append] at h
    rcases h with hminus | hrest
    · exact .inr (List.mem_singleton.mp hminus)
    · exact .inl (hdigit _ hrest)

theorem quote_notMem_display (id : MessageId) : '"' ∉ id.display.toList := fun h =>
  absurd (isDigit_or_eq_minus_of_mem_display h) (by decide)

theorem not_isBreak_of_mem_display {id : MessageId} {c : Char} (h : c ∈ id.display.toList) :
    ¬Template.IsBreak c := by
  have hplain := isDigit_or_eq_minus_of_mem_display h
  rintro (rfl | rfl)
  · exact absurd hplain (by decide)
  · exact absurd hplain (by decide)

theorem messagePrefix_toList :
    (messagePrefix projectCode id).toList = projectCode.toList ++ id.display.toList ++ [' '] := by
  simp only [messagePrefix, String.toList_append]
  rfl

theorem messageLiteral_eq :
    messageLiteral projectCode id template =
      Template.escape (messagePrefix projectCode id ++ template) := rfl

theorem messageLiteral_toList :
    (messageLiteral projectCode id template).toList =
      Template.escapeChars (projectCode.toList ++ id.display.toList ++ ' ' :: template.toList) := by
  rw [messageLiteral_eq, Template.escape, String.toList_ofList, String.toList_append,
    messagePrefix_toList, List.append_assoc _ [' '], List.singleton_append]

/-- Nothing dangles in front of a template exactly when the project code swallows no quote:
the space closes whatever it ends in. -/
theorem danglingEscape?_messagePrefix :
    Template.danglingEscape? (messagePrefix projectCode id) = none ↔
      ¬Template.SwallowsQuote projectCode.toList := by
  rw [Template.danglingEscape?, messagePrefix_toList, Template.danglingFrom_eq_none_iff,
    Template.swallowsQuote_append_cons (by decide) (by decide),
    Template.endsOpen_append_cons (by decide),
    Template.swallowsQuote_append_of_notMem (quote_notMem_display id),
    or_iff_left Template.not_swallowsQuote_nil]
  exact and_iff_left Template.not_endsOpen_nil

/-! ### When literals are closed -/

/-- The literal of a message is closed when no quote of the project code is swallowed and
no backslash of the template dangles. -/
theorem closedBody_messageLiteral_iff :
    Template.closedBody (messageLiteral projectCode id template).toList = true ↔
      ¬Template.SwallowsQuote projectCode.toList ∧ Template.danglingEscape? template = none := by
  -- cut at the space, then in front of the number
  rw [messageLiteral_toList, (Template.closedBody_escapeChars_iff_danglingFrom _ 0).1,
    Template.danglingFrom_eq_none_iff, Template.danglingEscape?, Template.danglingFrom_eq_none_iff,
    Template.swallowsQuote_append_cons (by decide) (by decide),
    Template.endsOpen_append_cons (by decide),
    Template.swallowsQuote_append_of_notMem (quote_notMem_display id), not_or, and_assoc]

/-- The check of the whole text of a message finds what the check of its prefix finds, and
else what the check of the template finds, as many bytes further on. -/
theorem danglingEscape?_messagePrefix_append :
    Template.danglingEscape? (messagePrefix projectCode id ++ template) =
      (Template.danglingEscape? (messagePrefix projectCode id)).or
        ((Template.danglingEscape? template).map
          (· + (messagePrefix projectCode id).utf8ByteSize)) := by
  have hlength : String.utf8Len (projectCode.toList ++ id.display.toList ++ [' ']) =
      (messagePrefix projectCode id).utf8ByteSize := by
    rw [← messagePrefix_toList, ← String.utf8ByteSize_ofList, String.ofList_toList]
  -- the text is cut at the space in front of the template
  rw [Template.danglingEscape?, String.toList_append, messagePrefix_toList,
    List.append_assoc _ [' '], List.singleton_append,
    Template.danglingFrom_append_cons (by decide) (by decide), hlength,
    Template.danglingFrom_add _ _ fun h => absurd h Bool.false_ne_true, Template.danglingEscape?,
    Template.danglingEscape?, messagePrefix_toList]

/-- The literal of a message is the body of a literal exactly when no backslash of the
template dangles and no quote of the project code is swallowed. The same is found by a check
of the whole text: it reports the first of these places. -/
theorem messageLiteral_checked_in_parts :
    (Template.IsLiteralBody (messageLiteral projectCode id template).toList ↔
      Template.danglingEscape? template = none ∧ ¬Template.SwallowsQuote projectCode.toList) ∧
    (Template.danglingEscape? (messagePrefix projectCode id) = none ↔
      ¬Template.SwallowsQuote projectCode.toList) ∧
    Template.danglingEscape? (messagePrefix projectCode id ++ template) =
      (Template.danglingEscape? (messagePrefix projectCode id)).or
        ((Template.danglingEscape? template).map
          (· + (messagePrefix projectCode id).utf8ByteSize)) := by
  refine ⟨?_, danglingEscape?_messagePrefix projectCode id,
    danglingEscape?_messagePrefix_append projectCode id template⟩
  rw [← Template.closedBody_eq_true_iff, closedBody_messageLiteral_iff, and_comm]

end JavaClass

end MessageBundle

import MessageBundle.Manifest.Loading
import MessageBundle.Proofs.JavaClass.Literal
import MessageBundle.Proofs.Method.Shape
import MessageBundle.Proofs.Template.UnicodeEscape
import MessageBundle.Round

/-!
# Messages behind the translation of Unicode escapes

A template is written twice, in the comment on its method and in the literal of its message.
Both are checked as they are written, and both are read behind the translation of Unicode
escapes. Behind a project code without backslashes, what they are read as depends on the
units of the template alone: the comment is one line as long as no line break is named, and
the literal is closed as long as its units fit. An accepted template fits whenever its
Unicode escapes name neither a backslash nor a quote nor a line break. That they name none of
these is not checked, so an accepted message can end its comment and break its literal.

## Main definitions

* `IsInertText` — text that is neither translated nor ends a line

## Main results

* `isLiteralBody_asRead_messageLiteral_iff` — when the literal of a message is read as closed
* `isLine_comment_iff` — when the comment on a message is read as one line
* `translated_message_iff` — when an accepted message is read as one literal and one line
* `line_feed_named` — an accepted message that is not
-/

namespace MessageBundle

open SourceText JavaClass Template SourceUnit

/-! ### Text that is typed -/

/-- The character is neither a backslash nor a line break. -/
def IsInert (c : Char) : Prop := c ≠ '\\' ∧ ¬IsBreak c

instance (c : Char) : Decidable (IsInert c) := inferInstanceAs (Decidable (_ ∧ _))

/-- A text of such characters. -/
def IsInertText (s : String) : Prop := ∀ c ∈ s.toList, IsInert c

instance (s : String) : Decidable (IsInertText s) := List.decidableBAll IsInert s.toList

theorem isInertText_append {a b : String} :
    IsInertText (a ++ b) ↔ IsInertText a ∧ IsInertText b := by
  rw [IsInertText, String.toList_append, List.forall_mem_append]
  rfl

theorem IsInertText.backslash_notMem {s : String} (h : IsInertText s) : '\\' ∉ s.toList :=
  fun hmem => (h _ hmem).1 rfl

theorem isInertText_display (id : MessageId) : IsInertText id.display := by
  intro c h
  refine ⟨?_, not_isBreak_of_mem_display h⟩
  rintro rfl
  exact absurd (isDigit_or_eq_minus_of_mem_display h) (by decide)

variable {cs : List Char}

theorem map_char_typed (cs : List Char) : (cs.map typed).map SourceUnit.char = cs := by
  rw [List.map_map]
  exact List.map_id cs

theorem asRead_append_of_notMem (h : '\\' ∉ cs) (rest : List Char) :
    asRead (cs ++ rest) = cs ++ asRead rest := by
  rw [asRead, translate_append_of_notMem h, List.map_append, map_char_typed, asRead]

theorem asRead_nil : asRead [] = [] := by rw [asRead, translate_nil, List.map_nil]

theorem asRead_of_notMem (h : '\\' ∉ cs) : asRead cs = cs := by
  have hread := asRead_append_of_notMem h []
  rwa [asRead_nil, List.append_nil] at hread

theorem asRead_escapeChars (cs : List Char) :
    asRead (escapeChars cs) = literalText (translate false cs) := by
  rw [asRead, translate_escapeChars, literalText]

/-- A quote separates what is read before it from what is read behind it. -/
theorem asRead_append_quote (xs ys : List Char) :
    asRead (xs ++ '"' :: ys) = asRead xs ++ '"' :: asRead ys := by
  rw [asRead, translate_append_cons (by decide) (by decide), List.map_append, List.map_cons]
  rfl

/-! ### The comment on a message -/

/-- Escaped units hold no line break but those that are named. -/
theorem forall_mem_literalText_iff {us : List SourceUnit} :
    (∀ c ∈ literalText us, ¬IsBreak c) ↔ ∀ u ∈ us, u.isNamed = true → ¬IsBreak u.char := by
  have hunit : ∀ u : SourceUnit,
      (∀ c ∈ u.escaped.map char, ¬IsBreak c) ↔ (u.isNamed = true → ¬IsBreak u.char) := by
    intro u
    cases u with
    | typed c =>
      rw [map_char_escaped_typed]
      exact iff_of_true (fun d => not_isBreak_of_mem_escapeChar)
        fun hnamed => absurd hnamed Bool.false_ne_true
    | named code =>
      change (∀ c ∈ [char (named code)], ¬IsBreak c) ↔ _
      rw [List.forall_mem_singleton]
      exact (imp_iff_right rfl).symm
  rw [literalText, List.map_flatMap, List.forall_mem_flatMap]
  exact forall₂_congr fun u _ => hunit u

/-- A message starts with a comment that holds its template between quotes, and around them
nothing that is translated or ends a line. -/
theorem Resolution.exists_comment {r : Resolution} {id : MessageId} {template : String}
    (h : r.registration? = some (id, template)) (config : Config) (projectCode : String)
    (m : Method) :
    ∃ before after rest,
      r.pieces config projectCode m = .line (before ++ quoted (escape template) ++ after) :: rest ∧
        IsInertText before ∧ IsInertText after := by
  have hdisplay := isInertText_display id
  -- both comments are a plain head, the quoted template and a plain tail
  cases r with
  | message id' template' =>
    cases h
    refine ⟨"// @Message(id = " ++ id.display ++ ", value = ", ")", _, rfl, ?_, by decide⟩
    exact isInertText_append.mpr ⟨isInertText_append.mpr ⟨by decide, hdisplay⟩, by decide⟩
  | logMessage id' template' level =>
    cases h
    have hpieces : ∃ rest, (logMessage id template level).pieces config projectCode m =
        .line ("// @LogMessage(id = " ++ id.display ++ ", value = " ++ quoted (escape template) ++
          (", level = " ++ level.display ++ ")")) :: rest := by
      simp only [pieces, toString, String.append_assoc]
      exact ⟨_, rfl⟩
    obtain ⟨rest, hrest⟩ := hpieces
    refine ⟨_, _, rest, hrest, ?_, by cases level <;> decide⟩
    exact isInertText_append.mpr ⟨isInertText_append.mpr ⟨by decide, hdisplay⟩, by decide⟩
  | getLogger => cases h

/-- A text between quotes is read on its own, whatever stands around it. -/
theorem asRead_quoted (before body after : String) :
    asRead (before ++ quoted body ++ after).toList =
      asRead before.toList ++ '"' :: (asRead body.toList ++ '"' :: asRead after.toList) := by
  have hquoted : (quoted body).toList = ['"'] ++ body.toList ++ ['"'] := by
    rw [quoted, String.toList_append, String.toList_append]
    rfl
  rw [String.toList_append, String.toList_append, hquoted, ← asRead_append_quote,
    ← asRead_append_quote]
  simp only [List.append_assoc, List.cons_append, List.nil_append]

/-- The comment on a message is one line, as it is read, exactly when its template names no
line break. -/
theorem isLine_comment_iff {before after template : String}
    (hbefore : IsInertText before) (hafter : IsInertText after) :
    (∀ c ∈ asRead (before ++ quoted (escape template) ++ after).toList, ¬IsBreak c) ↔
      ∀ u ∈ translate false template.toList, u.isNamed = true → ¬IsBreak u.char := by
  have hquote : ¬IsBreak '"' := by decide
  have hinert {s : String} (h : IsInertText s) : ∀ c ∈ asRead s.toList, ¬IsBreak c := by
    rw [asRead_of_notMem h.backslash_notMem]
    exact fun c hc => (h c hc).2
  -- only the template between the quotes can name anything
  rw [asRead_quoted, escape, String.toList_ofList, asRead_escapeChars, List.forall_mem_append,
    List.forall_mem_cons, List.forall_mem_append, List.forall_mem_cons,
    forall_mem_literalText_iff]
  constructor
  · rintro ⟨-, -, hnamed, -⟩
    exact hnamed
  · intro hnamed
    exact ⟨hinert hbefore, hquote, hnamed, hquote, hinert hafter⟩

/-! ### The literal of a message -/

theorem literalText_typed_append (cs : List Char) (us : List SourceUnit) :
    literalText (cs.map typed ++ us) = escapeChars cs ++ literalText us := by
  induction cs with
  | nil => rfl
  | cons c cs ih =>
    rw [List.map_cons, List.cons_append, literalText_cons, map_char_escaped_typed, ih,
      escapeChars_cons, List.append_assoc]

/-- Text without backslashes can stand in front of any body. -/
theorem closedBody_escapeChars_append (h : '\\' ∉ cs) (rest : List Char) :
    closedBody (escapeChars cs ++ rest) = closedBody rest := by
  induction cs with
  | nil => rfl
  | cons c cs ih =>
    rw [List.mem_cons, not_or] at h
    rw [escapeChars_cons, List.append_assoc, closedBody_escapeChar_append (Ne.symm h.1), ih h.2]

/-- Behind a project code without backslashes, the literal of a message is read as closed
exactly when the units of its template fit. -/
theorem isLiteralBody_asRead_messageLiteral_iff {projectCode : String}
    (h : '\\' ∉ projectCode.toList) (id : MessageId) (template : String) :
    IsLiteralBody (asRead (messageLiteral projectCode id template).toList) ↔
      FitsLiteral (translate false template.toList) := by
  have hprefix : '\\' ∉ (messagePrefix projectCode id).toList := by
    rw [messagePrefix_toList, List.mem_append, List.mem_append, not_or, not_or]
    exact ⟨⟨h, (isInertText_display id).backslash_notMem⟩, by decide⟩
  -- the prefix is typed, so that the translation starts anew behind it
  rw [← closedBody_eq_true_iff, messageLiteral_eq, escape, String.toList_ofList,
    String.toList_append, asRead_escapeChars, translate_append_of_notMem hprefix,
    literalText_typed_append, closedBody_escapeChars_append hprefix,
    closedBody_literalText_iff_fitsLiteral]

/-- Of an accepted message behind a project code without backslashes, the literal is read as
closed exactly when the units of its template fit, and the comment as one line exactly when
they name no line break. Both are so when its Unicode escapes name neither a backslash nor a
quote nor a line break. -/
theorem translated_message_iff {strict : Bool} {m : Method} {r : Resolution} {id : MessageId}
    {template projectCode : String} (config : Config) (haccepted : m.resolve strict = .ok (some r))
    (hentry : r.registration? = some (id, template)) (hcode : '\\' ∉ projectCode.toList) :
    (IsLiteralBody (asRead (messageLiteral projectCode id template).toList) ↔
      FitsLiteral (translate false template.toList)) ∧
    (∃ comment rest, r.pieces config projectCode m = .line comment :: rest ∧
      ((∀ c ∈ asRead comment.toList, ¬IsBreak c) ↔
        ∀ u ∈ translate false template.toList, u.isNamed = true → ¬IsBreak u.char)) ∧
    ((∀ u ∈ translate false template.toList, u.isNamed = true →
        u.char ≠ '\\' ∧ u.char ≠ '"' ∧ ¬IsBreak u.char) →
      FitsLiteral (translate false template.toList)) := by
  refine ⟨isLiteralBody_asRead_messageLiteral_iff hcode id template, ?_, fun hplain => ?_⟩
  · obtain ⟨before, after, rest, hpieces, hbefore, hafter⟩ :=
      r.exists_comment hentry config projectCode m
    exact ⟨_, rest, hpieces, isLine_comment_iff hbefore hafter⟩
  · have hsound := (Method.resolve_eq_some_iff.mp haccepted).2.sound hentry
    exact fitsLiteral_of_isSound (danglingEscape?_eq_none_iff_isSound.mp hsound) hplain

/-- A method that returns a message with the template. -/
def messageMethod (template : String) : Method :=
  { name := "m", returnType := "String", message := some ⟨1, template⟩ }

/-- An escape that names a letter leaves the literal closed. -/
theorem translated_message_letter_named :
    (messageMethod "caf\\u00e9").resolve true = .ok (some (.message 1 "caf\\u00e9")) ∧
      '\\' ∉ "A".toList ∧
      IsLiteralBody (asRead (messageLiteral "A" 1 "caf\\u00e9").toList) := by
  have haccepted : (messageMethod "caf\\u00e9").resolve true =
      .ok (some (.message 1 "caf\\u00e9")) := by decide
  have hcode : '\\' ∉ "A".toList := by decide
  obtain ⟨hliteral, -, hfits⟩ := translated_message_iff {} haccepted rfl hcode
  have hplain : ∀ u ∈ translate false "caf\\u00e9".toList, u.isNamed = true →
      u.char ≠ '\\' ∧ u.char ≠ '"' ∧ ¬IsBreak u.char := by decide +kernel
  exact ⟨haccepted, hcode, hliteral.mpr (hfits hplain)⟩

/-- A bundle of such a method. -/
def singleMessage (template : String) : Interface :=
  { name := "a.B", projectCode := some "A", methods := [messageMethod template] }

/-- A message whose template spells a line feed is let through. As it is read, the literal
holds a line break, and so does the comment. -/
theorem line_feed_named :
    Manifest.validate ⟨{}, [singleMessage "\\u000a"]⟩ = .ok () ∧
      ∃ b methods, (singleMessage "\\u000a").toBundle? = some b ∧
        render {} [singleMessage "\\u000a"] = .ok [b.render {} methods] ∧
        '\\' ∉ b.projectCode.toList ∧
        ∃ resolved ∈ methods, ∃ id template,
          resolved.resolution.registration? = some (id, template) ∧
          ¬IsLiteralBody (asRead (messageLiteral b.projectCode id template).toList) ∧
          ∃ comment rest, resolved.resolution.pieces {} b.projectCode resolved.method =
              .line comment :: rest ∧ ∃ c ∈ asRead comment.toList, IsBreak c := by
  refine ⟨by decide, _, [⟨_, .message 1 "\\u000a"⟩], rfl, rfl, by decide, _,
    List.mem_singleton_self _, 1, "\\u000a", rfl, by decide +kernel, _, _, rfl, '\n', ?_, .inl rfl⟩
  decide +kernel

end MessageBundle

import MessageBundle.Proofs.JavaClass.MethodText
import MessageBundle.Proofs.SourceText.Difference

/-!
# What messages leave of the layout

The messages of a bundle say nothing about how its class is laid out. Project code, numbers,
templates and levels are written in known places: in the comment on the bundle and, for each
method that has a message, in the comment on its annotation and around its literal. In each
of these places stands a text without line breaks, so that two bundles which differ in
nothing else are written on the same lines, and these differ in the places alone.

## Main definitions

* `ResolvedMethod.IsLaidOutLike` — two methods that differ in their messages at most
* `Bundle.messageTexts` — the texts of a class that hold messages, in order

## Main results

* `Resolution.differsAt_pieces` — two methods that are laid out like each other
* `Bundle.isUnbroken_of_mem_messageTexts` — the texts that hold messages break no line
* `Bundle.render_differsAt` — the classes of two bundles that differ in their messages
-/

namespace MessageBundle

open SourceText JavaClass

/-! ### Where messages are written -/

/-- Two resolved methods are declared with the same name, types and parameters, and resolved
by the same kind of annotation. -/
structure ResolvedMethod.IsLaidOutLike (resolved other : ResolvedMethod) : Prop where
  name : resolved.method.name = other.method.name
  returnType : resolved.method.returnType = other.method.returnType
  parameters : resolved.method.parameters = other.method.parameters
  kind : resolved.resolution.kind = other.resolution.kind

/-- The texts of a method that hold its message: the comment on its annotation, and the
literal, which a message that is logged has behind the name of its level. -/
def Resolution.messageTexts (projectCode : String) (r : Resolution) : List String :=
  match r with
  | message id template => [r.comment, quoted (messageLiteral projectCode id template)]
  | logMessage id template level =>
    [r.comment, level.methodName ++ "(" ++ quoted (messageLiteral projectCode id template)]
  | getLogger => []

namespace Bundle

/-- The comment on a bundle. -/
def comment (b : Bundle) : String :=
  s!"// @LogBundle(projectCode = {quoted (Template.escape b.projectCode)})"

/-- The texts of a class that hold messages, in the order in which they stand in it. -/
def messageTexts (b : Bundle) (methods : List ResolvedMethod) : List String :=
  b.comment :: methods.flatMap fun resolved => resolved.resolution.messageTexts b.projectCode

end Bundle

/-! ### No breaks in the texts -/

/-- A text without line breaks. -/
def IsUnbroken (s : String) : Prop := ∀ c ∈ s.toList, ¬Template.IsBreak c

instance (s : String) : Decidable (IsUnbroken s) :=
  List.decidableBAll (fun c => ¬Template.IsBreak c) s.toList

theorem isUnbroken_append {a b : String} : IsUnbroken (a ++ b) ↔ IsUnbroken a ∧ IsUnbroken b := by
  rw [IsUnbroken, String.toList_append, List.forall_mem_append]
  rfl

theorem IsUnbroken.feed_notMem {s : String} (h : IsUnbroken s) : '\n' ∉ s.toList :=
  fun hmem => h _ hmem (by decide)

theorem isUnbroken_quoted_escape (text : String) : IsUnbroken (quoted (Template.escape text)) :=
  isUnbroken_append.mpr ⟨isUnbroken_append.mpr
    ⟨by decide, fun _ => Template.not_isBreak_of_mem_escape _⟩, by decide⟩

/-- A number is written on one line. -/
theorem isUnbroken_display (id : MessageId) : IsUnbroken id.display :=
  fun _ => not_isBreak_of_mem_display

theorem isUnbroken_level (level : Level) :
    IsUnbroken level.display ∧ IsUnbroken level.methodName := by
  cases level <;> decide

theorem Resolution.isUnbroken_comment (r : Resolution) : IsUnbroken r.comment := by
  cases r with
  | message id template =>
    change IsUnbroken ("// @Message(id = " ++ id.display ++ ", value = " ++
      quoted (Template.escape template) ++ ")")
    simp only [isUnbroken_append, isUnbroken_display, isUnbroken_quoted_escape]
    decide
  | logMessage id template level =>
    change IsUnbroken ("// @LogMessage(id = " ++ id.display ++ ", value = " ++
      quoted (Template.escape template) ++ ", level = " ++ level.display ++ ")")
    simp only [isUnbroken_append, isUnbroken_display, isUnbroken_quoted_escape,
      isUnbroken_level]
    decide
  | getLogger => decide

theorem Resolution.isUnbroken_of_mem_messageTexts {projectCode : String} {r : Resolution}
    {text : String} (h : text ∈ r.messageTexts projectCode) : IsUnbroken text := by
  have hcomment := r.isUnbroken_comment
  cases r with
  | message id template =>
    obtain rfl | rfl := List.mem_pair.mp h
    · exact hcomment
    · exact isUnbroken_quoted_escape _
  | logMessage id template level =>
    obtain rfl | rfl := List.mem_pair.mp h
    · exact hcomment
    · refine isUnbroken_append.mpr ⟨?_, isUnbroken_quoted_escape _⟩
      exact isUnbroken_append.mpr ⟨(isUnbroken_level level).2, by decide⟩
  | getLogger => cases h

/-- The texts that hold messages have no line breaks. -/
theorem Bundle.isUnbroken_of_mem_messageTexts {b : Bundle} {methods : List ResolvedMethod}
    {text : String} (h : text ∈ b.messageTexts methods) : IsUnbroken text := by
  rcases List.mem_cons.mp h with rfl | hmem
  · refine isUnbroken_append.mpr ⟨?_, by decide⟩
    exact isUnbroken_append.mpr ⟨by decide, isUnbroken_quoted_escape b.projectCode⟩
  · obtain ⟨resolved, -, htext⟩ := List.mem_flatMap.mp hmem
    exact Resolution.isUnbroken_of_mem_messageTexts htext

/-! ### The lines of a method -/

variable {config : Config} {projectCode : String} {m : Method} {r other : Resolution}
  {methods others : List ResolvedMethod}

/-- A method is written by its name, its types and its parameters. -/
theorem Resolution.pieces_congr {m' : Method} (hname : m.name = m'.name)
    (htype : m.returnType = m'.returnType) (hparameters : m.parameters = m'.parameters) :
    r.pieces config projectCode m = r.pieces config projectCode m' := by
  have hlist : parameterList m = parameterList m' := by
    rw [parameterList, parameterList, hparameters]
  have harguments : argumentList m = argumentList m' := by
    rw [argumentList, argumentList, hparameters]
  have htrailing : trailingArguments m = trailingArguments m' := by
    rw [trailingArguments, trailingArguments, harguments, hparameters]
  have hbinding (literal : String) :
      bindingPieces config m literal = bindingPieces config m' literal := by
    rw [bindingPieces, bindingPieces, harguments, hparameters]
  have hreturn : returnPiece m = returnPiece m' := by rw [returnPiece, returnPiece, htype]
  cases r with
  | message => rw [pieces, pieces, hname, htype, hlist, hbinding, hreturn]
  | logMessage => rw [pieces, pieces, hname, hlist, htrailing]
  | getLogger => rw [pieces, pieces, hname]

/-- The literal of a message stands on the first of the lines that bind it; the other ones
do not depend on it. -/
theorem exists_bindingPieces_eq (config : Config) (m : Method) :
    ∃ front back rest, ∀ literal,
      bindingPieces config m literal = .line (front ++ quoted literal ++ back) :: rest := by
  by_cases hbare : m.parameters.isEmpty = true
  · refine ⟨s!"String {returnLocal} = ", ";", [], fun literal => ?_⟩
    rw [bindingPieces, if_pos hbare]
    rfl
  · let head := s!"{Name.simpleName config.formattingTuple} tuple = " ++
      s!"{Name.simpleName config.formatter}."
    by_cases hmany : maxInlineArguments < m.parameters.length
    · refine ⟨head ++ "arrayFormat(", s!", new Object[] \x7b{argumentList m}\x7d);",
        [.line s!"String {returnLocal} = tuple.getMessage();"], fun literal => ?_⟩
      rw [bindingPieces, if_neg hbare]
      simp [head, if_pos hmany, toString, ← String.toList_inj]
    · refine ⟨head ++ "format(", s!", {argumentList m});",
        [.line s!"String {returnLocal} = tuple.getMessage();"], fun literal => ?_⟩
      rw [bindingPieces, if_neg hbare]
      simp [head, if_neg hmany, toString, ← String.toList_inj]

theorem quoted_ne_empty (body : String) : quoted body ≠ "" := by
  simp [quoted]

theorem Resolution.comment_ne_empty (r : Resolution) : r.comment ≠ "" := by
  cases r with
  | message id template =>
    change _ ++ ")" ≠ ""
    simp
  | logMessage id template level =>
    change _ ++ ")" ≠ ""
    simp
  | getLogger => decide

theorem Bundle.comment_ne_empty (b : Bundle) : b.comment ≠ "" := by
  change _ ++ ")" ≠ ""
  simp

/-- Methods with two comments and two bodies differ at the comment and wherever the bodies
do. -/
theorem differsAt_method {comment comment' : String} (h : comment ≠ "") (h' : comment' ≠ "")
    (head : String) {body body' : List Piece} {places : List (String × String)}
    (hbody : DiffersAt places (linesOf 2 body) (linesOf 2 body')) :
    DiffersAt ((comment, comment') :: places)
      (linesOf 1 [.line comment, .line head, .block "\x7b" "\x7d" body])
      (linesOf 1 [.line comment', .line head, .block "\x7b" "\x7d" body']) := by
  have hcomment := DiffersAt.wholeLine h h' 1
  have hopening := DiffersAt.refl ([head, "\x7b"].map (atDepth 1))
  have hclosed := hbody.append (DiffersAt.refl (["\x7d"].map (atDepth 1)))
  rw [List.append_nil] at hclosed
  rw [linesOf_method, linesOf_method]
  exact hcomment.append (hopening.append hclosed)

/-- Two methods that are laid out like each other have the same lines but for the texts that
hold their messages. -/
theorem Resolution.differsAt_pieces (hkind : r.kind = other.kind) (config : Config)
    (projectCode otherCode : String) (m : Method) :
    DiffersAt ((r.messageTexts projectCode).zip (other.messageTexts otherCode))
      (linesOf 1 (r.pieces config projectCode m))
      (linesOf 1 (other.pieces config otherCode m)) := by
  have hcomment := r.comment_ne_empty
  have hcomment' := other.comment_ne_empty
  cases r with
  | message id template =>
    cases other with
    | message id' template' =>
      obtain ⟨front, back, rest, hbinding⟩ := exists_bindingPieces_eq config m
      have hliteral := DiffersAt.line (quoted_ne_empty (messageLiteral projectCode id template))
        (quoted_ne_empty (messageLiteral otherCode id' template')) 2 front back
      have hrest := DiffersAt.refl (linesOf 2 (rest ++ [returnPiece m]))
      rw [pieces, pieces, hbinding, hbinding]
      exact differsAt_method hcomment hcomment' _ (hliteral.append hrest)
    | logMessage | getLogger => cases hkind
  | logMessage id template level =>
    cases other with
    | logMessage id' template' level' =>
      have hcall (level : Level) (literal : String) :
          s!"{loggerField}.{level.methodName}({quoted literal}{trailingArguments m});" =
            (loggerField ++ ".") ++ (level.methodName ++ "(" ++ quoted literal) ++
              (trailingArguments m ++ ");") := by
        simp [toString, ← String.toList_inj]
      have hne (level : Level) (literal : String) :
          level.methodName ++ "(" ++ quoted literal ≠ "" := by simp
      rw [pieces, pieces]
      refine differsAt_method hcomment hcomment' _ ?_
      rw [hcall, hcall]
      exact DiffersAt.line (hne _ _) (hne _ _) 2 _ _
    | message | getLogger => cases hkind
  | getLogger =>
    cases other with
    | getLogger => exact DiffersAt.refl _
    | message | logMessage => cases hkind

/-- A method that has a message has two texts that hold it, and the other ones have none. -/
theorem Resolution.length_messageTexts (r : Resolution) (projectCode : String) :
    (r.messageTexts projectCode).length = if r.kind = .getLogger then 0 else 2 := by
  cases r <;> simp [messageTexts, kind]

/-! ### The lines of a class -/

theorem linesOf_methodPieces (config : Config) (b : Bundle) (resolved : ResolvedMethod) :
    linesOf 1 (b.methodPieces config resolved) =
      "" :: linesOf 1 (resolved.resolution.pieces config b.projectCode resolved.method) := by
  rw [Bundle.methodPieces, linesOf, Piece.lines, List.singleton_append]

theorem differsAt_methods (h : List.Forall₂ ResolvedMethod.IsLaidOutLike methods others)
    (config : Config) (b b' : Bundle) :
    DiffersAt
      ((methods.flatMap fun resolved => resolved.resolution.messageTexts b.projectCode).zip
        (others.flatMap fun resolved => resolved.resolution.messageTexts b'.projectCode))
      (linesOf 1 (methods.flatMap (b.methodPieces config)))
      (linesOf 1 (others.flatMap (b'.methodPieces config))) := by
  induction h with
  | nil => exact .nil
  | @cons resolved other methods others hlike hrest ih =>
    obtain ⟨hname, htype, hparameters, hkind⟩ := hlike
    have hmethod := Resolution.differsAt_pieces hkind config b.projectCode b'.projectCode
      resolved.method
    rw [other.resolution.pieces_congr hname htype hparameters] at hmethod
    have hlength : (resolved.resolution.messageTexts b.projectCode).length =
        (other.resolution.messageTexts b'.projectCode).length := by
      rw [Resolution.length_messageTexts, Resolution.length_messageTexts, hkind]
    rw [List.flatMap_cons, List.flatMap_cons, List.flatMap_cons, List.flatMap_cons,
      List.zip_append hlength, linesOf_append, linesOf_append, linesOf_methodPieces,
      linesOf_methodPieces]
    exact (DiffersAt.same "" hmethod).append ih

theorem length_flatMap_messageTexts
    (h : List.Forall₂ ResolvedMethod.IsLaidOutLike methods others)
    (projectCode otherCode : String) :
    (methods.flatMap fun resolved => resolved.resolution.messageTexts projectCode).length =
      (others.flatMap fun resolved => resolved.resolution.messageTexts otherCode).length := by
  induction h with
  | nil => rw [List.flatMap_nil, List.flatMap_nil]
  | cons hlike _ ih =>
    rw [List.flatMap_cons, List.flatMap_cons, List.length_append, List.length_append, ih,
      Resolution.length_messageTexts, Resolution.length_messageTexts, hlike.kind]

/-- The lines of a class: the header, the comment on the bundle, the opening of the class, what
every class holds, its methods, and the brace that closes it. -/
theorem Bundle.linesOf_pieces (config : Config) (b : Bundle) (methods : List ResolvedMethod) :
    linesOf 0 (b.pieces config methods) =
      linesOf 0 (b.headerPieces config) ++ ([atDepth 0 b.comment] ++
        ([atDepth 0 s!"public class {b.className config} implements {b.interfaceReference}",
            atDepth 0 "\x7b"] ++ linesOf 1 (b.memberPieces config) ++
          (linesOf 1 (methods.flatMap (b.methodPieces config)) ++ [atDepth 0 "\x7d"]))) := by
  have hcomment :
      s!"// @LogBundle(projectCode = {quoted (Template.escape b.projectCode)})" = b.comment := rfl
  simp only [pieces, hcomment, linesOf_append, linesOf, Piece.lines, List.append_assoc,
    List.cons_append, List.nil_append, List.append_nil]

/-- The classes of two bundles that differ in their messages have the same lines but for the
texts that hold messages. -/
theorem Bundle.differsAt_pieces {b b' : Bundle} (hname : b.qualifiedName = b'.qualifiedName)
    (hnamespace : b.namespaceName = b'.namespaceName)
    (h : List.Forall₂ ResolvedMethod.IsLaidOutLike methods others) (config : Config) :
    DiffersAt ((b.messageTexts methods).zip (b'.messageTexts others))
      (linesOf 0 (b.pieces config methods)) (linesOf 0 (b'.pieces config others)) := by
  have hheader : b.headerPieces config = b'.headerPieces config := by
    rw [headerPieces, headerPieces, hname, hnamespace]
  have hclass : b.className config = b'.className config := by rw [className, className, hname]
  have hreference : b.interfaceReference = b'.interfaceReference := by
    rw [interfaceReference, interfaceReference, hname, hnamespace]
  have hmembers : b.memberPieces config = b'.memberPieces config := by
    rw [memberPieces, memberPieces, outputName, outputName, hclass, hnamespace]
  have hcomment := DiffersAt.wholeLine b.comment_ne_empty b'.comment_ne_empty 0
  have hmethods := (differsAt_methods h config b b').append (.refl [atDepth 0 "\x7d"])
  rw [List.append_nil] at hmethods
  rw [linesOf_pieces, linesOf_pieces, hheader, hclass, hreference, hmembers]
  exact (DiffersAt.refl _).append (hcomment.append ((DiffersAt.refl _).append hmethods))

/-- Two bundles with the same name and namespace, and with methods that are laid out like each
other, have classes on as many lines, which are the same but for the texts that hold messages:
the comment on the bundle and, for each method with a message, the comment on its annotation
and its literal. None of these texts has a line break, and the line breaks of the two classes
are the same. -/
theorem Bundle.render_differsAt {b b' : Bundle} {methods others : List ResolvedMethod}
    (hname : b.qualifiedName = b'.qualifiedName)
    (hnamespace : b.namespaceName = b'.namespaceName)
    (h : List.Forall₂ ResolvedMethod.IsLaidOutLike methods others) (config : Config) :
    ((Text.pieces '\n' (b.render config methods).contents).length =
        (Text.pieces '\n' (b'.render config others).contents).length ∧
      (b.messageTexts methods).length = (b'.messageTexts others).length ∧
      DiffersAt ((b.messageTexts methods).zip (b'.messageTexts others))
        (Text.pieces '\n' (b.render config methods).contents)
        (Text.pieces '\n' (b'.render config others).contents)) ∧
    (∀ text ∈ b.messageTexts methods ++ b'.messageTexts others, IsUnbroken text) ∧
    (b.render config methods).contents.toList.filter (Template.IsBreak ·) =
      (b'.render config others).contents.toList.filter (Template.IsBreak ·) := by
  have hlines := differsAt_pieces hname hnamespace h config
  have hunbroken : ∀ place ∈ (b.messageTexts methods).zip (b'.messageTexts others),
      IsUnbroken place.1 ∧ IsUnbroken place.2 := fun place hplace =>
    ⟨isUnbroken_of_mem_messageTexts (List.of_mem_zip hplace).1,
      isUnbroken_of_mem_messageTexts (List.of_mem_zip hplace).2⟩
  have htext := (hlines.flatMap_pieces fun place hplace =>
    ⟨(hunbroken place hplace).1.feed_notMem, (hunbroken place hplace).2.feed_notMem⟩).append
      (.refl [""])
  rw [List.append_nil, ← pieces_render, ← pieces_render] at htext
  refine ⟨⟨htext.length_eq, ?_, htext⟩, fun text htext => ?_, ?_⟩
  · rw [messageTexts, messageTexts, List.length_cons, List.length_cons,
      length_flatMap_messageTexts h b.projectCode b'.projectCode]
  · rcases List.mem_append.mp htext with hmem | hmem
    · exact isUnbroken_of_mem_messageTexts hmem
    · exact isUnbroken_of_mem_messageTexts hmem
  · have hbreaks := hlines.filter_asText (p := fun c => Template.IsBreak c) fun place hplace =>
      ⟨fun c hc => decide_eq_false ((hunbroken place hplace).1 c hc),
        fun c hc => decide_eq_false ((hunbroken place hplace).2 c hc)⟩
    rw [← render_toList, ← render_toList] at hbreaks
    exact hbreaks

/-- A bundle with a method that logs a message. -/
def loggingBundle (projectCode : String) (m : Method) : Bundle :=
  { qualifiedName := "a.B", namespaceName := "a", projectCode, methods := [m] }

/-- A method that logs a message. -/
def loggingMethod (id : MessageId) (template level : String) : Method :=
  { name := "m", logMessage := some ⟨id, template, level⟩ }

/-- Another project code, number, template and level, with line breaks where there can be
some, leave a class on its lines. -/
theorem Bundle.render_differsAt_line_breaks :
    let b := loggingBundle "A" (loggingMethod 1 "x" "INFO")
    let b' := loggingBundle "\n" (loggingMethod (-7) "x\r\n\r" "ERROR")
    let methods := [⟨loggingMethod 1 "x" "INFO", .logMessage 1 "x" .info⟩]
    let others := [⟨loggingMethod (-7) "x\r\n\r" "ERROR", .logMessage (-7) "x\r\n\r" .error⟩]
    (b.qualifiedName = b'.qualifiedName ∧ b.namespaceName = b'.namespaceName ∧
      List.Forall₂ ResolvedMethod.IsLaidOutLike methods others) ∧
    DiffersAt ((b.messageTexts methods).zip (b'.messageTexts others))
      (Text.pieces '\n' (b.render {} methods).contents)
      (Text.pieces '\n' (b'.render {} others).contents) := by
  intro b b' methods others
  have hname : b.qualifiedName = b'.qualifiedName := rfl
  have hnamespace : b.namespaceName = b'.namespaceName := rfl
  have hlike : List.Forall₂ ResolvedMethod.IsLaidOutLike methods others :=
    .cons ⟨rfl, rfl, rfl, rfl⟩ .nil
  exact ⟨⟨hname, hnamespace, hlike⟩, (render_differsAt hname hnamespace hlike {}).1.2.2⟩

end MessageBundle

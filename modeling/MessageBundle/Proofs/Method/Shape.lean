import Mathlib.Tactic.SplitIfs
import MessageBundle.Resolution

/-!
# Well-shaped methods

The annotation that prevails on a method asks for a shape: a method that returns a
message has a return type, one that logs has none and names a severity, one that
gives out the logger has no parameters, and no backslash of a template dangles.
This file states the shape without the order in which it is checked, and relates
it to `Method.resolve`, which checks it step by step.

## Main definitions

* `Method.HasCompatibleKinds` — the kinds of annotation on a method go together
* `Method.ResolvesTo` — the shape that the prevailing annotation asks for, with the
  resolution it leads to
* `Resolution.kind` — the kind of annotation by which a method was resolved
* `Method.number?` — the number of the message that the prevailing annotation declares

## Main results

* `Level.ofText?_eq_some_iff` — a text names at most one severity
* `Method.prevailing_cases` — at most one annotation prevails on a method
* `Method.resolve_eq_some_iff` — resolving succeeds exactly on compatible kinds and
  the right shape
* `Method.ResolvesTo.head?_kinds` — a method is resolved by the first of its kinds
* `Method.ResolvesTo.unique` — the shape determines the resolution
-/

namespace MessageBundle

namespace Level

theorem upper_display_injective {a b : Level}
    (h : Text.upper a.display = Text.upper b.display) : a = b := by
  cases a <;> cases b <;> first | rfl | exact absurd h (by decide)

theorem mem_all (level : Level) : level ∈ all := by cases level <;> decide

theorem sameIgnoringCase_of_ofText? {text : String} {level : Level}
    (h : ofText? text = some level) : Text.sameIgnoringCase text level.display = true := by
  unfold ofText? at h
  have hfound := List.find?_some h
  exact hfound

/-- The text names the severity, whatever the case of its letters; no other
severity is named by it. -/
theorem ofText?_eq_some_iff {text : String} {level : Level} :
    ofText? text = some level ↔ Text.sameIgnoringCase text level.display = true := by
  refine ⟨sameIgnoringCase_of_ofText?, fun h => ?_⟩
  obtain ⟨other, hother⟩ : ∃ other, ofText? text = some other := by
    unfold ofText?
    exact Option.isSome_iff_exists.mp (List.find?_isSome.mpr ⟨level, mem_all level, h⟩)
  have hnamed := sameIgnoringCase_of_ofText? hother
  -- two severities that share a text share their display, up to case
  rw [Text.sameIgnoringCase, beq_iff_eq] at h hnamed
  rw [hother, upper_display_injective (hnamed.symm.trans h)]

end Level

/-- The kind of the annotation by which a method was resolved. -/
def Resolution.kind : Resolution → AnnotationKind
  | message .. => .message
  | logMessage .. => .logMessage
  | getLogger => .getLogger

namespace Method

variable {m : Method} {strict : Bool} {r r' : Resolution}

/-- One kind of annotation, or two where overlaps are let through. -/
def HasCompatibleKinds (strict : Bool) (m : Method) : Prop :=
  m.kinds.length = 1 ∨ m.kinds.length = 2 ∧ strict = false

/-- The shape that the prevailing annotation of a method asks for, and what a method
of that shape is resolved to. -/
inductive ResolvesTo (m : Method) : Resolution → Prop
  | message {a : AnnotatedMessage} (prevails : m.message = some a)
      (valued : Text.trim m.returnType ≠ "void")
      (sound : Template.danglingEscape? a.template = none) :
      ResolvesTo m (.message a.id a.template)
  | logMessage {a : AnnotatedLogMessage} {level : Level} (noMessage : m.message = none)
      (prevails : m.logMessage = some a)
      (named : Text.sameIgnoringCase a.level level.display = true)
      (void : Text.trim m.returnType = "void")
      (sound : Template.danglingEscape? a.template = none) :
      ResolvesTo m (.logMessage a.id a.template level)
  | getLogger (noMessage : m.message = none) (noLogMessage : m.logMessage = none)
      (prevails : m.getLogger = true) (bare : m.parameters = []) : ResolvesTo m .getLogger

/-- The method has the shape that its prevailing annotation asks for. -/
def IsWellShaped (m : Method) : Prop := ∃ r, m.ResolvesTo r

/-- The number and the template that the prevailing annotation declares. -/
def registration? (m : Method) : Option (MessageId × String) :=
  match m.message, m.logMessage with
  | some a, _ => some (a.id, a.template)
  | none, some a => some (a.id, a.template)
  | none, none => none

/-- The number of the message that the prevailing annotation declares. -/
def number? (m : Method) : Option MessageId := m.registration?.map Prod.fst

/-! ### Annotations and their kinds -/

theorem kinds_length_le (m : Method) : m.kinds.length ≤ 3 := by
  cases hm : m.message <;> cases hl : m.logMessage <;> cases hg : m.getLogger <;>
    simp [kinds, hm, hl, hg]

theorem kinds_length_eq_zero_iff : m.kinds.length = 0 ↔ m.isAnnotated = false := by
  cases hm : m.message <;> cases hl : m.logMessage <;> cases hg : m.getLogger <;>
    simp [kinds, isAnnotated, hm, hl, hg]

theorem isConflicting_eq_true_iff :
    m.isConflicting strict = true ↔
      m.kinds.length = 3 ∨ m.kinds.length = 2 ∧ strict = true := by
  have hle := m.kinds_length_le
  cases strict
  · simp [isConflicting]
  · rw [isConflicting, if_pos rfl, decide_eq_true_iff]
    simp only [and_true]
    omega

/-- On an annotated method, kinds go together exactly when they do not conflict. -/
theorem hasCompatibleKinds_iff (h : m.isAnnotated = true) :
    m.HasCompatibleKinds strict ↔ m.isConflicting strict = false := by
  have hle := m.kinds_length_le
  have hne : m.kinds.length ≠ 0 := by
    rw [Ne, kinds_length_eq_zero_iff, h]
    exact Bool.noConfusion
  -- with one to three kinds, what is left of two conditions on their number
  rw [← Bool.not_eq_true, isConflicting_eq_true_iff, HasCompatibleKinds]
  cases strict
  · simp only [and_true, Bool.false_eq_true, and_false, or_false]
    omega
  · simp only [Bool.true_eq_false, and_false, or_false, and_true]
    omega

theorem registration?_eq_none_of_not_isAnnotated (h : m.isAnnotated = false) :
    m.registration? = none := by
  simp only [isAnnotated, Bool.or_eq_false_iff, Option.isSome_eq_false_iff,
    Option.isNone_iff_eq_none] at h
  rw [registration?, h.1.1, h.1.2]

/-- At most one annotation prevails on a method. -/
theorem prevailing_cases (m : Method) :
    (∃ a, m.message = some a) ∨ (∃ a, m.message = none ∧ m.logMessage = some a) ∨
      (m.message = none ∧ m.logMessage = none ∧ m.getLogger = true) ∨
        m.message = none ∧ m.logMessage = none ∧ m.getLogger = false := by
  cases m.message with
  | some a => exact .inl ⟨a, rfl⟩
  | none =>
    cases m.logMessage with
    | some a => exact .inr (.inl ⟨a, rfl, rfl⟩)
    | none =>
      cases m.getLogger with
      | true => exact .inr (.inr (.inl ⟨rfl, rfl, rfl⟩))
      | false => exact .inr (.inr (.inr ⟨rfl, rfl, rfl⟩))

/-! ### Resolving step by step -/

theorem isVoid_eq (type : String) :
    JavaType.isVoid type = decide (Text.trim type = "void") := by
  rw [JavaType.isVoid, Bool.beq_eq_decide_eq]

theorem resolveMessage_eq (m : Method) (a : AnnotatedMessage) :
    m.resolveMessage a =
      if Text.trim m.returnType = "void" then .error (.invalidSignature m.name .voidMessage)
      else
        match Template.danglingEscape? a.template with
        | some offset => .error (.danglingEscape a.id a.template offset)
        | none => .ok (.message a.id a.template) := by
  unfold resolveMessage checkTemplate
  by_cases hvoid : Text.trim m.returnType = "void"
  · simp only [isVoid_eq, hvoid, decide_true, if_true]
    rfl
  · simp only [isVoid_eq, hvoid, decide_false, if_false, Bool.false_eq_true]
    cases Template.danglingEscape? a.template <;> rfl

theorem resolveLogMessage_eq (m : Method) (a : AnnotatedLogMessage) :
    m.resolveLogMessage a =
      match Level.ofText? a.level with
      | none => .error (.unknownLevel m.name a.level)
      | some level =>
        if Text.trim m.returnType = "void" then
          match Template.danglingEscape? a.template with
          | some offset => .error (.danglingEscape a.id a.template offset)
          | none => .ok (.logMessage a.id a.template level)
        else .error (.invalidSignature m.name (.valuedLogMessage m.returnType)) := by
  unfold resolveLogMessage checkTemplate
  cases Level.ofText? a.level with
  | none => rfl
  | some level =>
    by_cases hvoid : Text.trim m.returnType = "void"
    · simp only [isVoid_eq, hvoid, decide_true, if_true]
      cases Template.danglingEscape? a.template <;> rfl
    · simp only [isVoid_eq, hvoid, decide_false, if_false, Bool.false_eq_true]
      rfl

theorem resolveGetLogger_eq (m : Method) :
    m.resolveGetLogger =
      if m.parameters = [] then .ok .getLogger
      else .error (.invalidSignature m.name .accessorWithParameters) := by
  unfold resolveGetLogger
  cases m.parameters <;> rfl

theorem resolveMessage_eq_ok_iff {a : AnnotatedMessage} :
    m.resolveMessage a = .ok r ↔
      Text.trim m.returnType ≠ "void" ∧ Template.danglingEscape? a.template = none ∧
        r = .message a.id a.template := by
  rw [resolveMessage_eq]
  by_cases hvoid : Text.trim m.returnType = "void"
  · simp [hvoid]
  · cases Template.danglingEscape? a.template <;> simp [hvoid, eq_comm]

theorem resolveLogMessage_eq_ok_iff {a : AnnotatedLogMessage} :
    m.resolveLogMessage a = .ok r ↔
      ∃ level, Level.ofText? a.level = some level ∧ Text.trim m.returnType = "void" ∧
        Template.danglingEscape? a.template = none ∧ r = .logMessage a.id a.template level := by
  rw [resolveLogMessage_eq]
  cases Level.ofText? a.level with
  | none => simp
  | some level =>
    by_cases hvoid : Text.trim m.returnType = "void"
    · cases Template.danglingEscape? a.template <;> simp [hvoid, eq_comm]
    · simp [hvoid]

theorem resolveGetLogger_eq_ok_iff :
    m.resolveGetLogger = .ok r ↔ m.parameters = [] ∧ r = .getLogger := by
  rw [resolveGetLogger_eq]
  by_cases hbare : m.parameters = []
  · simp [hbare, eq_comm]
  · simp [hbare]

/-! ### The shape of a method and its resolution -/

theorem map_some_eq_ok_iff {ε α : Type} {x : Except ε α} {value : α} :
    (some <$> x : Except ε (Option α)) = .ok (some value) ↔ x = .ok value := by
  cases x <;> simp [Functor.map, Except.map]

theorem map_some_ne_ok_none {ε α : Type} {x : Except ε α} :
    (some <$> x : Except ε (Option α)) ≠ .ok none := by
  cases x <;> simp [Functor.map, Except.map]

theorem resolvesTo_iff_of_message {a : AnnotatedMessage} (h : m.message = some a) :
    m.ResolvesTo r ↔ m.resolveMessage a = .ok r := by
  rw [resolveMessage_eq_ok_iff]
  constructor
  · intro hshape
    cases hshape with
    | message prevails valued sound =>
      rw [h, Option.some_inj] at prevails
      subst prevails
      exact ⟨valued, sound, rfl⟩
    | logMessage noMessage => rw [h] at noMessage; cases noMessage
    | getLogger noMessage => rw [h] at noMessage; cases noMessage
  · rintro ⟨hvalued, hsound, rfl⟩
    exact .message h hvalued hsound

theorem resolvesTo_iff_of_logMessage {a : AnnotatedLogMessage} (h : m.message = none)
    (h' : m.logMessage = some a) : m.ResolvesTo r ↔ m.resolveLogMessage a = .ok r := by
  simp only [resolveLogMessage_eq_ok_iff, Level.ofText?_eq_some_iff]
  constructor
  · intro hshape
    cases hshape with
    | message prevails => rw [h] at prevails; cases prevails
    | logMessage _ prevails named void sound =>
      rw [h', Option.some_inj] at prevails
      subst prevails
      exact ⟨_, named, void, sound, rfl⟩
    | getLogger _ noLogMessage => rw [h'] at noLogMessage; cases noLogMessage
  · rintro ⟨level, hnamed, hvoid, hsound, rfl⟩
    exact .logMessage h h' hnamed hvoid hsound

theorem resolvesTo_iff_of_getLogger (h : m.message = none) (h' : m.logMessage = none)
    (h'' : m.getLogger = true) : m.ResolvesTo r ↔ m.resolveGetLogger = .ok r := by
  rw [resolveGetLogger_eq_ok_iff]
  constructor
  · intro hshape
    cases hshape with
    | message prevails => rw [h] at prevails; cases prevails
    | logMessage _ prevails => rw [h'] at prevails; cases prevails
    | getLogger _ _ _ bare => exact ⟨bare, rfl⟩
  · rintro ⟨hbare, rfl⟩
    exact .getLogger h h' h'' hbare

theorem ResolvesTo.isAnnotated (h : m.ResolvesTo r) : m.isAnnotated = true := by
  cases h with
  | message prevails => simp [Method.isAnnotated, prevails]
  | logMessage _ prevails => simp [Method.isAnnotated, prevails]
  | getLogger _ _ prevails => simp [Method.isAnnotated, prevails]

/-- A resolution registers what the prevailing annotation declares. -/
theorem ResolvesTo.registration?_eq (h : m.ResolvesTo r) : r.registration? = m.registration? := by
  cases h with
  | message prevails => simp [Resolution.registration?, registration?, prevails]
  | logMessage first prevails => simp [Resolution.registration?, registration?, first, prevails]
  | getLogger first second => simp [Resolution.registration?, registration?, first, second]

/-- What is resolved is sound: no backslash of its template dangles. -/
theorem ResolvesTo.sound (h : m.ResolvesTo r) {id : MessageId} {template : String}
    (hentry : r.registration? = some (id, template)) :
    Template.danglingEscape? template = none := by
  cases h with
  | message _ _ sound => cases hentry; exact sound
  | logMessage _ _ _ _ sound => cases hentry; exact sound
  | getLogger => cases hentry

theorem resolve_of_conflict (h : m.isConflicting strict = true) :
    m.resolve strict = .error (.conflictingAnnotations m.name m.kinds) := by
  rw [resolve, if_pos h]

section Prevailing

variable (hcompatible : m.isConflicting strict = false)

include hcompatible

theorem resolve_of_message {a : AnnotatedMessage} (h : m.message = some a) :
    m.resolve strict = some <$> m.resolveMessage a := by
  rw [resolve, hcompatible, if_neg Bool.false_ne_true, h]

theorem resolve_of_logMessage {a : AnnotatedLogMessage} (h : m.message = none)
    (h' : m.logMessage = some a) : m.resolve strict = some <$> m.resolveLogMessage a := by
  rw [resolve, hcompatible, if_neg Bool.false_ne_true, h, h']

theorem resolve_of_getLogger (h : m.message = none) (h' : m.logMessage = none)
    (h'' : m.getLogger = true) : m.resolve strict = some <$> m.resolveGetLogger := by
  rw [resolve, hcompatible, if_neg Bool.false_ne_true, h, h', h'']

theorem resolve_of_plain (h : m.message = none) (h' : m.logMessage = none)
    (h'' : m.getLogger = false) : m.resolve strict = .ok none := by
  rw [resolve, hcompatible, if_neg Bool.false_ne_true, h, h', h'']

end Prevailing

/-- Resolving succeeds exactly when the kinds do not conflict and the method has the
shape that its prevailing annotation asks for. -/
theorem resolve_eq_some_iff :
    m.resolve strict = .ok (some r) ↔ m.isConflicting strict = false ∧ m.ResolvesTo r := by
  cases hconflict : m.isConflicting strict with
  | true =>
    rw [resolve_of_conflict hconflict]
    simp only [reduceCtorEq, false_and]
  | false =>
    rw [eq_self, true_and]
    rcases m.prevailing_cases with ⟨a, h⟩ | ⟨a, h, h'⟩ | ⟨h, h', h''⟩ | ⟨h, h', h''⟩
    · rw [resolve_of_message hconflict h, map_some_eq_ok_iff, resolvesTo_iff_of_message h]
    · rw [resolve_of_logMessage hconflict h h', map_some_eq_ok_iff,
        resolvesTo_iff_of_logMessage h h']
    · rw [resolve_of_getLogger hconflict h h' h'', map_some_eq_ok_iff,
        resolvesTo_iff_of_getLogger h h' h'']
    · rw [resolve_of_plain hconflict h h' h'']
      simp only [Except.ok.injEq, reduceCtorEq, false_iff]
      intro hshape
      simpa [isAnnotated, h, h', h''] using hshape.isAnnotated

/-- Only a method without annotations is resolved to nothing. -/
theorem isAnnotated_of_resolve_eq_none (hresolve : m.resolve strict = .ok none) :
    m.isAnnotated = false := by
  cases hconflict : m.isConflicting strict with
  | true =>
    rw [resolve_of_conflict hconflict] at hresolve
    cases hresolve
  | false =>
    rcases m.prevailing_cases with ⟨a, h⟩ | ⟨a, h, h'⟩ | ⟨h, h', h''⟩ | ⟨h, h', h''⟩
    · rw [resolve_of_message hconflict h] at hresolve
      exact absurd hresolve map_some_ne_ok_none
    · rw [resolve_of_logMessage hconflict h h'] at hresolve
      exact absurd hresolve map_some_ne_ok_none
    · rw [resolve_of_getLogger hconflict h h' h''] at hresolve
      exact absurd hresolve map_some_ne_ok_none
    · simp [isAnnotated, h, h', h'']

/-- A method without annotations is resolved to nothing. -/
theorem resolve_of_not_isAnnotated (hplain : m.isAnnotated = false) :
    m.resolve strict = .ok none := by
  have hconflict : m.isConflicting strict = false := by
    have hkinds := kinds_length_eq_zero_iff.mpr hplain
    cases strict <;> simp [isConflicting, hkinds]
  rcases m.prevailing_cases with ⟨a, h⟩ | ⟨a, h, h'⟩ | ⟨h, h', h''⟩ | ⟨h, h', h''⟩
  · simp [isAnnotated, h] at hplain
  · simp [isAnnotated, h'] at hplain
  · simp [isAnnotated, h''] at hplain
  · exact resolve_of_plain hconflict h h' h''

/-- The shape of a method determines what it is resolved to. -/
theorem ResolvesTo.unique (hr : m.ResolvesTo r) (hr' : m.ResolvesTo r') : r = r' := by
  rcases m.prevailing_cases with ⟨a, h⟩ | ⟨a, h, h'⟩ | ⟨h, h', h''⟩ | ⟨h, h', h''⟩
  · rw [resolvesTo_iff_of_message h] at hr hr'
    exact Except.ok.inj (hr.symm.trans hr')
  · rw [resolvesTo_iff_of_logMessage h h'] at hr hr'
    exact Except.ok.inj (hr.symm.trans hr')
  · rw [resolvesTo_iff_of_getLogger h h' h''] at hr hr'
    exact Except.ok.inj (hr.symm.trans hr')
  · have hannotated := hr.isAnnotated
    simp [Method.isAnnotated, h, h', h''] at hannotated

end Method

end MessageBundle

import Mathlib.Data.List.Induction
import Mathlib.Data.List.Nodup
import Mathlib.Tactic.Tauto
import MessageBundle.Proofs.Method.Shape
import MessageBundle.Round

/-!
# The checks of a round

A round asks one thing after another of its declarations and stops at the first
that fails. This file writes down what is asked as a flat list of checks: for each
bundle that no earlier one has its output name, then for each of its methods that
its annotations go together, that it has the shape its prevailing annotation asks
for, and that no earlier message has its number. Whether a check passes is told by
the checks before it alone, without a registry or a set of names.

## Main definitions

* `Check`, `Check.fault?` — a check, and what is wrong when it fails after others
* `firstFault?` — the first fault among checks made one after another
* `Method.checks`, `Bundle.checks`, `checks` — what is asked of a method, of a bundle and
  of a round, in order
* `registryAfter`, `targetsAfter` — the registry and the output names that stand for checks
  which all passed

## Main results

* `firstFault?_eq_some_iff` — the first fault has a place: all checks before it pass
* `firstFault?_eq_none_iff` — checks pass one after another when each passes alone and
  nothing is asked for twice
* `faultOf_resolve` — resolving a method makes all of its checks but that of its number
-/

namespace MessageBundle

/-- One thing that a round asks of its declarations. -/
inductive Check
  /-- No earlier bundle has the output name. -/
  | newOutput (target : String)
  /-- The annotations of the method go together. -/
  | compatibleKinds (m : Method)
  /-- The method has a return type. -/
  | valued (m : Method)
  /-- The level of the method names a severity. -/
  | namedLevel (m : Method) (level : String)
  /-- The method has no return type. -/
  | void (m : Method)
  /-- The method has no parameters. -/
  | bare (m : Method)
  /-- No backslash of the template dangles. -/
  | soundTemplate (id : MessageId) (template : String)
  /-- No earlier message has the number. -/
  | newNumber (id : MessageId) (template : String)

namespace Check

/-- The output name that a check asks for. -/
def target? : Check → Option String
  | newOutput target => some target
  | _ => none

/-- The number that a check asks for, with the template it is asked for. -/
def registration? : Check → Option (MessageId × String)
  | newNumber id template => some (id, template)
  | _ => none

/-- The number that a check asks for. -/
def number? (c : Check) : Option MessageId := c.registration?.map Prod.fst

/-- What is wrong when a check fails after the checks in `before`. -/
def fault? (strict : Bool) (before : List Check) : Check → Option GenerationError
  | newOutput target =>
    if target ∈ before.filterMap target? then some (.duplicateOutput target) else none
  | compatibleKinds m =>
    if m.kinds.length = 3 ∨ m.kinds.length = 2 ∧ strict = true then
      some (.conflictingAnnotations m.name m.kinds)
    else none
  | valued m =>
    if Text.trim m.returnType = "void" then some (.invalidSignature m.name .voidMessage) else none
  | namedLevel m level =>
    if Level.all.any fun l => Text.sameIgnoringCase level l.display then none
    else some (.unknownLevel m.name level)
  | void m =>
    if Text.trim m.returnType = "void" then none
    else some (.invalidSignature m.name (.valuedLogMessage m.returnType))
  | bare m =>
    if m.parameters = [] then none else some (.invalidSignature m.name .accessorWithParameters)
  | soundTemplate id template =>
    (Template.danglingEscape? template).map (.danglingEscape id template)
  | newNumber id template =>
    -- the nearest earlier message; that there is one at most is no part of the rule
    ((before.filterMap registration?).reverse.lookup id).map (.duplicateMessageId id template)

end Check

/-- The first fault among checks made one after another, behind those in `before`. -/
def firstFault? (strict : Bool) (before : List Check) : List Check → Option GenerationError
  | [] => none
  | check :: rest => (check.fault? strict before).or (firstFault? strict (before ++ [check]) rest)

/-- What the prevailing annotation asks of a method, whatever is declared before it. -/
def Method.shapeChecks (m : Method) : List Check :=
  match m.message, m.logMessage, m.getLogger with
  | some a, _, _ => [.valued m, .soundTemplate a.id a.template]
  | none, some a, _ => [.namedLevel m a.level, .void m, .soundTemplate a.id a.template]
  | none, none, true => [.bare m]
  | none, none, false => []

/-- What is asked about the number of a method's message, if it has one. -/
def Method.numberChecks (m : Method) : List Check :=
  match m.registration? with
  | some (id, template) => [.newNumber id template]
  | none => []

/-- What is asked of a method: compatible kinds, then the shape, then a new number. -/
def Method.checks (m : Method) : List Check :=
  .compatibleKinds m :: m.shapeChecks ++ m.numberChecks

/-- What is asked of a bundle: a new output name, then all of its methods. -/
def Bundle.checks (config : Config) (b : Bundle) : List Check :=
  .newOutput (b.outputName config) :: b.methods.flatMap Method.checks

/-- What a round asks, bundle after bundle. -/
def checks (config : Config) (interfaces : List Interface) : List Check :=
  (collect interfaces).flatMap (Bundle.checks config)

section Faults

variable {strict : Bool} {before rest later : List Check} {check : Check} {cause : GenerationError}

theorem firstFault?_append (before rest later : List Check) :
    firstFault? strict before (rest ++ later) =
      (firstFault? strict before rest).or (firstFault? strict (before ++ rest) later) := by
  induction rest generalizing before with
  | nil => simp [firstFault?]
  | cons check rest ih =>
    rw [List.cons_append, firstFault?, firstFault?, ih, Option.or_assoc, List.append_assoc,
      List.singleton_append]

theorem firstFault?_singleton :
    firstFault? strict before [check] = check.fault? strict before := by
  rw [firstFault?, firstFault?, Option.or_none]

/-- The first fault has a place: the checks before it pass, and it is what is wrong
with the check there. -/
theorem firstFault?_eq_some_iff :
    firstFault? strict before rest = some cause ↔
      ∃ passed check later, rest = passed ++ check :: later ∧
        firstFault? strict before passed = none ∧
        check.fault? strict (before ++ passed) = some cause := by
  constructor
  · intro h
    -- each check that passes moves behind the line, so `before` grows
    induction rest generalizing before with
    | nil => cases h
    | cons check rest ih =>
      rw [firstFault?] at h
      cases hfault : check.fault? strict before with
      | some found =>
        rw [hfault, Option.some_or] at h
        exact ⟨[], check, rest, rfl, rfl, by rw [List.append_nil, hfault, h]⟩
      | none =>
        rw [hfault, Option.none_or] at h
        obtain ⟨passed, failing, later, rfl, hpassed, hfailing⟩ := ih h
        refine ⟨check :: passed, failing, later, rfl, ?_, ?_⟩
        · rw [firstFault?, hfault, Option.none_or, hpassed]
        · rw [← hfailing, List.append_assoc, List.singleton_append]
  · rintro ⟨passed, check, later, rfl, hpassed, hfault⟩
    rw [firstFault?_append, hpassed, Option.none_or, firstFault?, hfault, Option.some_or]

theorem numbers_eq_map : before.filterMap Check.number? =
    (before.filterMap Check.registration?).map Prod.fst := List.map_filterMap.symm

theorem fault?_newNumber_eq_none_iff {id : MessageId} {template : String} :
    (Check.newNumber id template).fault? strict before = none ↔
      id ∉ before.filterMap Check.number? := by
  rw [Check.fault?, Option.map_eq_none_iff, List.lookup_eq_none_iff, numbers_eq_map, List.mem_map]
  constructor
  · rintro hfree ⟨entry, hentry, rfl⟩
    simpa using hfree entry (List.mem_reverse.mpr hentry)
  · intro hfree entry hentry
    rw [bne_iff_ne]
    rintro rfl
    exact hfree ⟨entry, List.mem_reverse.mp hentry, rfl⟩

/-- Behind other checks, a check passes if it passes alone and neither its output name
nor its number is asked for among them. -/
theorem fault?_eq_none_iff :
    check.fault? strict before = none ↔
      check.fault? strict [] = none ∧
        (∀ target ∈ check.target?, target ∉ before.filterMap Check.target?) ∧
          ∀ id ∈ check.number?, id ∉ before.filterMap Check.number? := by
  cases check with
  | newOutput target => simp [Check.fault?, Check.target?, Check.number?, Check.registration?]
  | newNumber id template =>
    rw [fault?_newNumber_eq_none_iff]
    simp [Check.fault?, Check.target?, Check.number?, Check.registration?]
  | _ => simp [Check.fault?, Check.target?, Check.number?, Check.registration?]

theorem nodup_filterMap_concat {α β : Type} {f : α → Option β} {l : List α} {a : α} :
    ((l ++ [a]).filterMap f).Nodup ↔
      (l.filterMap f).Nodup ∧ ∀ b ∈ f a, b ∉ l.filterMap f := by
  rw [List.filterMap_append]
  cases hf : f a with
  | none => simp [hf]
  | some b =>
    rw [List.filterMap_cons_some hf, List.filterMap_nil, ← List.concat_eq_append,
      List.nodup_concat]
    simp [and_comm]

/-- Checks all pass one after another when each passes alone and none asks for an output
name or a number that another one asks for. -/
theorem firstFault?_eq_none_iff :
    firstFault? strict [] rest = none ↔
      (∀ check ∈ rest, check.fault? strict [] = none) ∧
        (rest.filterMap Check.target?).Nodup ∧ (rest.filterMap Check.number?).Nodup := by
  -- from the end, since the last check is the one that sees all others
  induction rest using List.reverseRecOn with
  | nil => simp [firstFault?]
  | append_singleton passed check ih =>
    rw [firstFault?_append, Option.or_eq_none_iff, ih, firstFault?_singleton, List.nil_append,
      fault?_eq_none_iff, nodup_filterMap_concat, nodup_filterMap_concat, List.forall_mem_append,
      List.forall_mem_singleton]
    tauto

end Faults

/-- What is wrong with a result, if it is not one. -/
def faultOf {α : Type} : Except GenerationError α → Option GenerationError
  | .error cause => some cause
  | .ok _ => none

/-- The registry behind checks that all passed: the numbers they asked for. -/
def registryAfter (before : List Check) : Registry :=
  ⟨(before.filterMap Check.registration?).reverse⟩

/-- The output names behind checks that all passed. -/
def targetsAfter (before : List Check) : List String := (before.filterMap Check.target?).reverse

section Shape

variable {strict : Bool} {m : Method} {before : List Check}

theorem faultOf_eq_some_iff {α : Type} {x : Except GenerationError α} {cause : GenerationError} :
    faultOf x = some cause ↔ x = .error cause := by
  cases x <;> simp [faultOf]

theorem faultOf_map {α β : Type} (f : α → β) (x : Except GenerationError α) :
    faultOf (x.map f) = faultOf x := by
  cases x <;> rfl

theorem any_named_eq {level : String} :
    (Level.all.any fun l => Text.sameIgnoringCase level l.display) =
      (Level.ofText? level).isSome := by
  rw [Bool.eq_iff_iff, Level.ofText?, List.find?_isSome, List.any_eq_true]

theorem faultOf_resolveMessage {a : AnnotatedMessage} (h : m.message = some a) :
    faultOf (m.resolveMessage a) = firstFault? strict before m.shapeChecks := by
  rw [Method.resolveMessage_eq, Method.shapeChecks, h]
  by_cases hvoid : Text.trim m.returnType = "void"
  · simp [firstFault?, Check.fault?, hvoid, faultOf]
  · cases hescape : Template.danglingEscape? a.template <;>
      simp [firstFault?, Check.fault?, hvoid, hescape, faultOf]

theorem faultOf_resolveLogMessage {a : AnnotatedLogMessage} (h : m.message = none)
    (h' : m.logMessage = some a) :
    faultOf (m.resolveLogMessage a) = firstFault? strict before m.shapeChecks := by
  rw [Method.resolveLogMessage_eq, Method.shapeChecks, h, h']
  cases hlevel : Level.ofText? a.level with
  | none => simp [firstFault?, Check.fault?, any_named_eq, hlevel, faultOf]
  | some level =>
    by_cases hvoid : Text.trim m.returnType = "void"
    · cases hescape : Template.danglingEscape? a.template <;>
        simp [firstFault?, Check.fault?, any_named_eq, hlevel, hvoid, hescape, faultOf]
    · simp [firstFault?, Check.fault?, any_named_eq, hlevel, hvoid, faultOf]

theorem faultOf_resolveGetLogger (h : m.message = none) (h' : m.logMessage = none)
    (h'' : m.getLogger = true) :
    faultOf m.resolveGetLogger = firstFault? strict before m.shapeChecks := by
  rw [Method.resolveGetLogger_eq, Method.shapeChecks, h, h', h'']
  by_cases hbare : m.parameters = []
  · simp [firstFault?, Check.fault?, hbare, faultOf]
  · simp [firstFault?, Check.fault?, hbare, faultOf]

theorem fault?_compatibleKinds :
    (Check.compatibleKinds m).fault? strict before =
      if m.isConflicting strict = true then some (.conflictingAnnotations m.name m.kinds)
      else none := by
  simp only [Check.fault?, Method.isConflicting_eq_true_iff]

/-- Resolving a method makes all of its checks but that of its number. -/
theorem faultOf_resolve (strict : Bool) (m : Method) (before : List Check) :
    faultOf (m.resolve strict) =
      firstFault? strict before (.compatibleKinds m :: m.shapeChecks) := by
  rw [firstFault?, fault?_compatibleKinds]
  cases hconflict : m.isConflicting strict with
  | true =>
    rw [Method.resolve_of_conflict hconflict, if_pos rfl, Option.some_or]
    rfl
  | false =>
    rw [if_neg Bool.false_ne_true, Option.none_or]
    rcases m.prevailing_cases with ⟨a, h⟩ | ⟨a, h, h'⟩ | ⟨h, h', h''⟩ | ⟨h, h', h''⟩
    · rw [Method.resolve_of_message hconflict h]
      exact (faultOf_map some _).trans (faultOf_resolveMessage h)
    · rw [Method.resolve_of_logMessage hconflict h h']
      exact (faultOf_map some _).trans (faultOf_resolveLogMessage h h')
    · rw [Method.resolve_of_getLogger hconflict h h' h'']
      exact (faultOf_map some _).trans (faultOf_resolveGetLogger h h' h'')
    · rw [Method.resolve_of_plain hconflict h h' h'', Method.shapeChecks, h, h', h'']
      rfl

end Shape

end MessageBundle

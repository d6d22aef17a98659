import MessageBundle.Manifest.Loading
import MessageBundle.Proofs.JavaClass.Statement
import MessageBundle.Proofs.Round.Acceptance

/-!
# The names in generated bodies

A generated body has names of its own: it declares local variables and calls the logger that
its class holds. Next to them stand the names of the parameters, which are up to the
interface. Java looks a name up among the local variables first, then among the parameters,
then among the fields, and lets no local variable have the name of another one or of a
parameter. A body is hygienic when its declarations are let through and every name in it is
found to stand for what it is to stand for.

Whether a body is hygienic depends on the names of the parameters, and these are not checked:
renaming parameters never makes a round fail. A method that returns a message must not call a
parameter like one of its local variables, and a method that logs one must not call a
parameter like the logger. Blanks around a name are not part of it, here as in the names of
types; the names of classes are not looked up.

## Main definitions

* `Scope` — the variables that can be named at a place in a body
* `IsHygienic` — a body whose names stand for what they are to stand for
* `Resolution.fixedNames` — the names that a body has of its own

## Main results

* `isHygienic_statements_iff` — a body is hygienic exactly when no parameter has a fixed name
* `acceptable_renameParameters` — the rules of a round do not look at the names of parameters
* `hygienic_bodies_iff` — when the bodies of a rendered round are hygienic
-/

namespace MessageBundle

open Text

namespace JavaClass

/-- The variables that can be named at a place in a body, each kind by its names without the
blanks around them. -/
structure Scope where
  parameters : List String
  locals : List String
  fields : List String
  deriving DecidableEq, Repr

namespace Scope

/-- The scope at the start of the body of a method. -/
def ofMethod (m : Method) : Scope :=
  { parameters := m.parameters.map fun p => trim p.name, locals := [], fields := [loggerField] }

/-- The scope with one more local variable. -/
def declare (name : String) (s : Scope) : Scope := { s with locals := trim name :: s.locals }

/-- What a name stands for: local variables hide parameters, and both hide fields. -/
def referent? (s : Scope) (name : String) : Option Referent :=
  if trim name ∈ s.locals then some .localVariable
  else if trim name ∈ s.parameters then some .parameter
  else if trim name ∈ s.fields then some .field
  else none

/-- The name of a variable stands for what it is to stand for. -/
def Finds (s : Scope) (v : Variable) : Prop := s.referent? v.name = some v.referent

instance (s : Scope) (v : Variable) : Decidable (s.Finds v) :=
  inferInstanceAs (Decidable (_ = _))

variable {s : Scope} {name : String}

@[simp] theorem finds_localVariable_iff :
    s.Finds ⟨name, .localVariable⟩ ↔ trim name ∈ s.locals := by
  simp only [Finds, referent?]
  split_ifs with hlocal hparameter hfield <;> simp [hlocal]

@[simp] theorem finds_parameter_iff :
    s.Finds ⟨name, .parameter⟩ ↔ trim name ∉ s.locals ∧ trim name ∈ s.parameters := by
  simp only [Finds, referent?]
  split_ifs with hlocal hparameter hfield <;> simp [*]

@[simp] theorem finds_field_iff :
    s.Finds ⟨name, .field⟩ ↔
      trim name ∉ s.locals ∧ trim name ∉ s.parameters ∧ trim name ∈ s.fields := by
  simp only [Finds, referent?]
  split_ifs with hlocal hparameter hfield <;> simp [*]

end Scope

namespace Statement

/-- The scope behind a statement. -/
def scopeBehind (s : Scope) : Statement → Scope
  | declaration _ name _ => s.declare name
  | evaluation _ => s
  | giveBack _ => s

/-- A statement that can stand at a place: what it declares has a new name, and the names in
it stand for what they are to stand for. A local variable can already be named in its value. -/
def IsHygienic (s : Scope) : Statement → Prop
  | declaration _ name value =>
    trim name ∉ s.parameters ∧ trim name ∉ s.locals ∧
      ∀ v ∈ value.uses, (s.declare name).Finds v
  | evaluation e => ∀ v ∈ e.uses, s.Finds v
  | giveBack e => ∀ v ∈ e.uses, s.Finds v

end Statement

/-- A body in which each statement can stand at its place. -/
def IsHygienic : Scope → List Statement → Prop
  | _, [] => True
  | s, statement :: rest => statement.IsHygienic s ∧ IsHygienic (statement.scopeBehind s) rest

instance Statement.decidableIsHygienic (s : Scope) :
    (statement : Statement) → Decidable (statement.IsHygienic s)
  | .declaration _ _ _ => inferInstanceAs (Decidable (_ ∧ _ ∧ _))
  | .evaluation e => inferInstanceAs (Decidable (∀ v ∈ e.uses, s.Finds v))
  | .giveBack e => inferInstanceAs (Decidable (∀ v ∈ e.uses, s.Finds v))

instance decidableIsHygienic : (s : Scope) → (body : List Statement) → Decidable (IsHygienic s body)
  | _, [] => inferInstanceAs (Decidable True)
  | s, statement :: rest =>
    have := decidableIsHygienic (statement.scopeBehind s) rest
    inferInstanceAs (Decidable (_ ∧ _))

variable {config : Config} {m : Method} {s : Scope} {literal : String}

/-- A body in two parts is hygienic when the first part is so, and behind it the second. -/
theorem isHygienic_append {before after : List Statement} :
    IsHygienic s (before ++ after) ↔
      IsHygienic s before ∧ IsHygienic (before.foldl Statement.scopeBehind s) after := by
  -- each statement moves the scope on, so the scope is not fixed
  induction before generalizing s with
  | nil => exact (true_and _).symm.to_iff
  | cons statement rest ih =>
    rw [List.cons_append, IsHygienic, IsHygienic, ih, and_assoc]
    rfl

theorem isHygienic_singleton {statement : Statement} :
    IsHygienic s [statement] ↔ statement.IsHygienic s := by
  rw [IsHygienic, IsHygienic, and_true]

/-! ### The generated bodies -/

theorem trim_tuple : trim Variable.tuple.name = Variable.tuple.name := by decide

theorem trim_formatted : trim Variable.formatted.name = Variable.formatted.name := by decide

theorem trim_logger : trim Variable.logger.name = Variable.logger.name := by decide

theorem uses_formatCall :
    (formatCall config m literal).uses = Expression.usesOf (arguments m) := by
  rw [formatCall]
  split_ifs <;> simp

theorem forall_name_notMem_iff {names : List String} :
    (∀ p ∈ m.parameters, trim p.name ∉ names) ↔
      ∀ name ∈ names, name ∉ (Scope.ofMethod m).parameters := by
  simp only [Scope.ofMethod, List.mem_map, not_exists, not_and]
  constructor
  · intro h name hname p hp heq
    exact h p hp (heq ▸ hname)
  · intro h p hp hname
    exact h (trim p.name) hname p hp rfl

/-- The arguments of a call are found as long as no local variable is called like one. -/
theorem forall_finds_arguments_iff (m : Method)
    (hparameters : s.parameters = (Scope.ofMethod m).parameters) :
    (∀ v ∈ Expression.usesOf (arguments m), s.Finds v) ↔
      ∀ name ∈ s.locals, name ∉ (Scope.ofMethod m).parameters := by
  rw [usesOf_arguments, List.forall_mem_map, ← forall_name_notMem_iff]
  refine forall₂_congr fun p hp => ?_
  have hmem : trim p.name ∈ s.parameters := by
    rw [hparameters]
    exact List.mem_map.mpr ⟨p, hp, rfl⟩
  have hfinds : s.Finds (.ofParameter p) ↔ trim p.name ∉ s.locals ∧ trim p.name ∈ s.parameters :=
    Scope.finds_parameter_iff
  rw [hfinds, and_iff_left hmem]

theorem isHygienic_returnStatement_iff :
    (returnStatement m).IsHygienic s ↔ trim Variable.formatted.name ∈ s.locals := by
  rw [returnStatement]
  cases JavaType.ReturnShape.of m.returnType <;>
    simp [Statement.IsHygienic, Expression.uses, Variable.formatted]

/-- The message is bound to a local variable, so that it can be given back. -/
theorem formatted_mem_locals :
    trim Variable.formatted.name ∈
      ((bindingStatements config m literal).foldl Statement.scopeBehind s).locals := by
  rw [bindingStatements]
  split_ifs <;> exact List.mem_cons_self

/-- Binding the message declares two local variables, unless there is nothing to format; no
parameter may be called like one of them. -/
theorem isHygienic_bindingStatements_iff :
    IsHygienic (.ofMethod m) (bindingStatements config m literal) ↔
      ∀ p ∈ m.parameters, trim p.name ∉ [Variable.tuple.name, Variable.formatted.name] := by
  by_cases hbare : m.parameters = []
  · rw [bindingStatements_of_bare hbare, isHygienic_singleton]
    simp [Statement.IsHygienic, Scope.ofMethod, hbare]
  · have hparameters : (Scope.declare Variable.tuple.name (.ofMethod m)).parameters =
        (Scope.ofMethod m).parameters := rfl
    have hlocals : (Scope.declare Variable.tuple.name (.ofMethod m)).locals =
        [Variable.tuple.name] := by rw [Scope.declare, trim_tuple, Scope.ofMethod]
    have hdistinct : Variable.formatted.name ∉ [Variable.tuple.name] := by decide
    rw [bindingStatements_of_ne_nil hbare, IsHygienic, isHygienic_singleton,
      Statement.IsHygienic, Statement.IsHygienic, Statement.scopeBehind, trim_tuple,
      trim_formatted, hparameters, hlocals, forall_name_notMem_iff, List.forall_mem_cons,
      List.forall_mem_singleton]
    -- only the new names are in question: what the values name is found then, the arguments
    -- behind the first declaration and the tuple behind it in the second
    refine and_congr (and_iff_left_of_imp fun htuple => ⟨List.not_mem_nil, ?_⟩)
      (and_iff_left ⟨hdistinct, ?_⟩)
    · rw [uses_formatCall, forall_finds_arguments_iff m hparameters, hlocals]
      exact List.forall_mem_singleton.mpr htuple
    · simp [Scope.declare, Variable.tuple]

theorem finds_logger_iff :
    (Scope.ofMethod m).Finds .logger ↔ Variable.logger.name ∉ (Scope.ofMethod m).parameters := by
  have hfinds : (Scope.ofMethod m).Finds .logger ↔
      trim Variable.logger.name ∉ (Scope.ofMethod m).locals ∧
        trim Variable.logger.name ∉ (Scope.ofMethod m).parameters ∧
        trim Variable.logger.name ∈ (Scope.ofMethod m).fields := Scope.finds_field_iff
  rw [hfinds, trim_logger]
  simp [Variable.logger, Scope.ofMethod]

/-- A call of the logger is hygienic exactly when no parameter is called like the logger. -/
theorem isHygienic_log_call_iff {method : String} :
    IsHygienic (.ofMethod m)
        [.evaluation (.call (.reference .logger) method (.literal literal :: arguments m))] ↔
      ∀ p ∈ m.parameters, trim p.name ∉ [Variable.logger.name] := by
  have harguments : ∀ v ∈ Expression.usesOf (arguments m), (Scope.ofMethod m).Finds v :=
    (forall_finds_arguments_iff m rfl).mpr fun name hname => absurd hname List.not_mem_nil
  rw [isHygienic_singleton, Statement.IsHygienic, forall_name_notMem_iff,
    List.forall_mem_singleton, ← finds_logger_iff, Expression.uses, List.forall_mem_append]
  simp only [Expression.uses, Expression.usesOf, List.nil_append, List.forall_mem_singleton]
  exact and_iff_left harguments

end JavaClass

open JavaClass

namespace Resolution

/-- The names that a body has of its own, by what its method was resolved to: the local
variables of a method that returns a message, the logger of the others. -/
def fixedNames : Resolution → List String
  | message _ _ => [Variable.tuple.name, Variable.formatted.name]
  | logMessage _ _ _ => [Variable.logger.name]
  | getLogger => [Variable.logger.name]

/-- The body of a method is hygienic exactly when no parameter has a name that the body has of
its own. -/
theorem isHygienic_statements_iff {m : Method} {r : Resolution} (h : m.ResolvesTo r)
    (config : Config) (projectCode : String) :
    IsHygienic (.ofMethod m) (r.statements config projectCode m) ↔
      ∀ p ∈ m.parameters, trim p.name ∉ r.fixedNames := by
  cases h with
  | message =>
    rw [statements, isHygienic_append, isHygienic_singleton, isHygienic_returnStatement_iff]
    exact (and_iff_left formatted_mem_locals).trans isHygienic_bindingStatements_iff
  | logMessage => exact isHygienic_log_call_iff
  | getLogger =>
    -- there are no parameters, but the argument does not need that
    rw [statements, isHygienic_singleton, Statement.IsHygienic, forall_name_notMem_iff,
      Expression.uses, List.forall_mem_singleton, finds_logger_iff, fixedNames,
      List.forall_mem_singleton]

/-- There are no blanks around the names that a body has of its own. -/
theorem trim_of_mem_fixedNames {r : Resolution} {name : String} (h : name ∈ r.fixedNames) :
    trim name = name := by
  cases r with
  | message =>
    rcases List.mem_pair.mp h with rfl | rfl
    · exact trim_tuple
    · exact trim_formatted
  | logMessage | getLogger =>
    rw [List.mem_singleton.mp h]
    exact trim_logger

end Resolution

/-! ### The names of parameters -/

/-- The method with its parameters renamed. -/
def Method.renameParameters (rename : String → String) (m : Method) : Method :=
  { m with parameters := m.parameters.map fun p => { p with name := rename p.name } }

/-- The interface with the parameters of its methods renamed. -/
def Interface.renameParameters (rename : String → String) (i : Interface) : Interface :=
  { i with methods := i.methods.map (Method.renameParameters rename) }

section Renaming

variable {config : Config} {interfaces : List Interface} {rename : String → String}

theorem Method.ResolvesTo.renameParameters {m : Method} {r : Resolution} (h : m.ResolvesTo r) :
    (m.renameParameters rename).ResolvesTo r := by
  cases h with
  | message prevails valued sound => exact .message prevails valued sound
  | logMessage noMessage prevails named void sound =>
    exact .logMessage noMessage prevails named void sound
  | getLogger noMessage noLogMessage prevails bare =>
    exact .getLogger noMessage noLogMessage prevails (List.map_eq_nil_iff.mpr bare)

theorem bundled_map_renameParameters :
    bundled (interfaces.map (Interface.renameParameters rename)) =
      (bundled interfaces).map (Interface.renameParameters rename) := List.filter_map

theorem Interface.numbers_renameParameters (i : Interface) :
    (i.renameParameters rename).numbers = i.numbers := by
  rw [numbers, renameParameters, List.filterMap_map]
  rfl

/-- The rules of a round do not look at the names of parameters. -/
theorem acceptable_renameParameters (h : Acceptable config interfaces) :
    Acceptable config (interfaces.map (Interface.renameParameters rename)) where
  outputs := by
    rw [bundled_map_renameParameters, List.map_map]
    exact h.outputs
  methods := by
    -- kinds do not depend on parameters, and the shape asks at most that there are none
    rw [bundled_map_renameParameters, List.forall_mem_map]
    intro i hi
    refine List.forall_mem_map.mpr fun m hm hannotated => ?_
    obtain ⟨hcompatible, r, hshape⟩ := h.methods i hi m hm hannotated
    exact ⟨hcompatible, r, hshape.renameParameters⟩
  numbers := by
    rw [bundled_map_renameParameters, List.flatMap_map]
    simp only [Interface.numbers_renameParameters]
    exact h.numbers

end Renaming

/-! ### The bodies of a rendered round -/

/-- In a rendered round, the source of each method is a body as it is written, and the body is
hygienic exactly when no parameter has a name that the body has of its own: `tuple` or
`returnString` if the method returns a message, `logger` if it logs one, with blanks around it
or not. That the parameters have other names is not checked: with its parameters renamed in
any way, the round is rendered too. -/
theorem hygienic_bodies_iff {config : Config} {interfaces : List Interface}
    {sources : List Source} (h : render config interfaces = .ok sources) :
    List.Forall₂ (fun i source => ∃ b methods, i.toBundle? = some b ∧
        source = b.render config methods ∧
        List.Forall₂ (fun m resolved => m.IsResolvedBy resolved ∧
            IsWrittenAs m (resolved.resolution.statements config b.projectCode m)
              (resolved.resolution.pieces config b.projectCode m) ∧
            (IsHygienic (.ofMethod m) (resolved.resolution.statements config b.projectCode m) ↔
              ∀ p ∈ m.parameters, trim p.name ∉ resolved.resolution.fixedNames) ∧
            (IsHygienic (.ofMethod m) (resolved.resolution.statements config b.projectCode m) →
              ∀ p ∈ m.parameters, p.name ∉ resolved.resolution.fixedNames))
          (i.methods.filter Method.isAnnotated) methods)
      (bundled interfaces) sources ∧
    ∀ rename, ∃ sources', render config (interfaces.map (Interface.renameParameters rename)) =
      .ok sources' := by
  refine ⟨(forall₂_isRenderedAs h).imp ?_, fun rename =>
    exists_render_of_acceptable (acceptable_renameParameters (acceptable_of_render h))⟩
  rintro i source ⟨b, methods, hb, hmethods, rfl⟩
  refine ⟨b, methods, hb, rfl, hmethods.imp fun m resolved hresolved => ?_⟩
  have hshape := hresolved.2
  have hiff := Resolution.isHygienic_statements_iff hshape config b.projectCode
  refine ⟨hresolved, Resolution.isWrittenAs hshape config b.projectCode, hiff, ?_⟩
  intro hhygienic p hp hfixed
  refine hiff.mp hhygienic p hp ?_
  rwa [Resolution.trim_of_mem_fixedNames hfixed]

/-- A bundle that returns a message and logs one, both with an argument. -/
def argumentBundle (formatted logged : String) : Interface :=
  { name := "a.B"
    projectCode := some "A"
    methods := [{ name := "m", returnType := "String", parameters := [⟨"String", formatted⟩]
                  message := some ⟨1, "x"⟩ },
      { name := "log", parameters := [⟨"String", logged⟩], logMessage := some ⟨2, "y", "warn"⟩ }] }

/-- With plain names for the arguments, the bodies of the bundle are hygienic. -/
theorem hygienic_bodies_plain_names :
    ∃ source, render {} [argumentBundle "who" "cause"] = .ok [source] ∧
      ∃ b methods, (argumentBundle "who" "cause").toBundle? = some b ∧
        source = b.render {} methods ∧
        ∀ resolved ∈ methods, IsHygienic (.ofMethod resolved.method)
          (resolved.resolution.statements {} b.projectCode resolved.method) := by
  have hrender : ∃ source, render {} [argumentBundle "who" "cause"] = .ok [source] := ⟨_, rfl⟩
  obtain ⟨source, hrender⟩ := hrender
  obtain ⟨hunits, -⟩ := hygienic_bodies_iff hrender
  cases hunits with
  | cons hunit _ =>
    obtain ⟨b, methods, hb, hsource, hmethods⟩ := hunit
    refine ⟨source, hrender, b, methods, hb, hsource, fun resolved hmem => ?_⟩
    obtain ⟨m, hm, ⟨rfl, -⟩, -, hiff, -⟩ := exists_of_forall₂_of_mem hmethods hmem
    have hplain : ∀ m ∈ (argumentBundle "who" "cause").methods.filter Method.isAnnotated,
        ∀ p ∈ m.parameters, trim p.name ∉ ["tuple", "returnString", "logger"] := by decide
    have hfixed : ∀ name ∈ resolved.resolution.fixedNames,
        name ∈ ["tuple", "returnString", "logger"] := by
      cases resolved.resolution <;>
        simp [Resolution.fixedNames, Variable.tuple, Variable.formatted, Variable.logger,
          returnLocal, loggerField]
    exact hiff.mpr fun p hp hname => hplain _ hm p hp (hfixed _ hname)

/-- The bundle with these names for its arguments is let through and rendered, and neither of
its bodies is hygienic. -/
def LetsCapture (formatted logged : String) : Prop :=
  Manifest.validate ⟨{}, [argumentBundle formatted logged]⟩ = .ok () ∧
    ∃ b methods, (argumentBundle formatted logged).toBundle? = some b ∧
      render {} [argumentBundle formatted logged] = .ok [b.render {} methods] ∧
      methods.length = 2 ∧
      ∀ resolved ∈ methods, ¬IsHygienic (.ofMethod resolved.method)
        (resolved.resolution.statements {} b.projectCode resolved.method)

/-- A parameter that is called like the local variable of a message and one that is called
like the logger are let through, with blanks around their names or not. -/
theorem captured_names : LetsCapture "tuple" "logger" ∧ LetsCapture " tuple" "logger " := by
  constructor
  · refine ⟨by decide, _, [⟨_, .message 1 "x"⟩, ⟨_, .logMessage 2 "y" .warn⟩], rfl, rfl, rfl, ?_⟩
    decide
  · refine ⟨by decide, _, [⟨_, .message 1 "x"⟩, ⟨_, .logMessage 2 "y" .warn⟩], rfl, rfl, rfl, ?_⟩
    decide

end MessageBundle

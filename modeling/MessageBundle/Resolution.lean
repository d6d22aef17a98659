import MessageBundle.Event
import MessageBundle.JavaType
import MessageBundle.Level
import MessageBundle.Registry
import MessageBundle.Template

/-!
# Resolving methods

Each annotated method of a bundle is resolved to one kind, and the number of its
message is registered. A method is refused when its annotations exclude each
other, when its signature or its template cannot be emitted, or when its number
is taken. The number is looked up last, so a refused method registers nothing.

## Main definitions

* `Resolution` — what a method was resolved to
* `Method.resolve` — the resolution of a method, or what is wrong with it,
  whatever numbers are taken
* `Pass`, `Pass.andThen` — the result of a pass over declarations, the registry behind
  it and the events on the way; a pass and another from where it ended
* `Method.admit`, `admitAll` — resolution and registration of a method, and of
  methods one after another up to the first that is refused
-/

namespace MessageBundle

/-- What a method was resolved to. -/
inductive Resolution
  | message (id : MessageId) (template : String)
  | logMessage (id : MessageId) (template : String) (level : Level)
  | getLogger
  deriving DecidableEq, Repr

namespace Resolution

/-- The number and template that a resolution registers. -/
def registration? : Resolution → Option (MessageId × String)
  | message id template => some (id, template)
  | logMessage id template _ => some (id, template)
  | getLogger => none

end Resolution

namespace Method

/-- The annotations exclude each other: any two in strict mode, else all three. -/
def isConflicting (strict : Bool) (m : Method) : Bool :=
  if strict then 1 < m.kinds.length else m.kinds.length == 3

/-- What is recorded when several annotations are let through. -/
def overlapEvents (strict : Bool) (m : Method) : List Event :=
  match m.kinds with
  | first :: _ :: _ => if m.isConflicting strict then [] else [.overlapResolved m.name first]
  | _ => []

/-- A template none of whose backslashes swallows a quote. -/
def checkTemplate (id : MessageId) (template : String) : Except GenerationError Unit :=
  match Template.danglingEscape? template with
  | some offset => .error (.danglingEscape id template offset)
  | none => .ok ()

/-- A method that returns a message: it is not `void`, and its template is sound. -/
def resolveMessage (m : Method) (a : AnnotatedMessage) : Except GenerationError Resolution := do
  if JavaType.isVoid m.returnType then throw (.invalidSignature m.name .voidMessage)
  checkTemplate a.id a.template
  return .message a.id a.template

/-- A method that logs a message: its level names a severity, it is `void`, and
its template is sound. -/
def resolveLogMessage (m : Method) (a : AnnotatedLogMessage) :
    Except GenerationError Resolution := do
  let some level := Level.ofText? a.level | throw (.unknownLevel m.name a.level)
  unless JavaType.isVoid m.returnType do
    throw (.invalidSignature m.name (.valuedLogMessage m.returnType))
  checkTemplate a.id a.template
  return .logMessage a.id a.template level

/-- A method that gives out the logger: it has no parameters. -/
def resolveGetLogger (m : Method) : Except GenerationError Resolution := do
  unless m.parameters.isEmpty do throw (.invalidSignature m.name .accessorWithParameters)
  return .getLogger

/-- What a method is resolved to by the annotation that prevails; nothing for a
method without annotations. -/
def resolve (strict : Bool) (m : Method) : Except GenerationError (Option Resolution) :=
  if m.isConflicting strict then .error (.conflictingAnnotations m.name m.kinds)
  else
    match m.message, m.logMessage, m.getLogger with
    | some a, _, _ => some <$> m.resolveMessage a
    | none, some a, _ => some <$> m.resolveLogMessage a
    | none, none, true => some <$> m.resolveGetLogger
    | none, none, false => .ok none

end Method

/-- A method with what it was resolved to. -/
structure ResolvedMethod where
  method : Method
  resolution : Resolution
  deriving DecidableEq, Repr

/-- What a pass over declarations leaves: its result, the numbers registered by
then, and what was recorded. -/
structure Pass (α : Type) where
  result : Except GenerationError α
  registry : Registry
  events : List Event

/-- A resolution whose number, if it has one, is registered. -/
def Resolution.register (resolution : Resolution) (registry : Registry) :
    Except GenerationError Registry :=
  match resolution.registration? with
  | some (id, template) => registry.register id template
  | none => .ok registry

/-- A method resolved and its number registered. -/
def Method.admit (strict : Bool) (m : Method) (registry : Registry) : Pass (Option Resolution) :=
  let events := m.overlapEvents strict
  match m.resolve strict with
  | .error cause => ⟨.error cause, registry, events⟩
  | .ok none => ⟨.ok none, registry, events⟩
  | .ok (some resolution) =>
    match resolution.register registry with
    | .error cause => ⟨.error cause, registry, events⟩
    | .ok registry' => ⟨.ok (some resolution), registry', events⟩

/-- A pass and, unless it fails, another one from where it ended; their results are
joined. -/
def Pass.andThen {α β γ : Type} (p : Pass α) (next : Registry → Pass β) (join : α → β → γ) :
    Pass γ :=
  match p.result with
  | .error cause => ⟨.error cause, p.registry, p.events⟩
  | .ok value =>
    let later := next p.registry
    ⟨later.result.map (join value), later.registry, p.events ++ later.events⟩

/-- Methods admitted one after another, up to the first that is refused; methods
without annotations are left out of the result. -/
def admitAll (strict : Bool) : List Method → Registry → Pass (List ResolvedMethod)
  | [], registry => ⟨.ok [], registry, []⟩
  | m :: rest, registry =>
    m.admit strict registry |>.andThen (admitAll strict rest) fun resolution? resolved =>
      (resolution?.map fun resolution => ⟨m, resolution⟩).toList ++ resolved

end MessageBundle

import MessageBundle.Config
import MessageBundle.Declaration
import MessageBundle.FileFault

/-!
# What makes a round fail

A round fails with one cause. `message` words it and `code` numbers its kind;
the number is the exit status of the command line.
-/

namespace MessageBundle

/-- What makes a method's signature unfit for its annotation. -/
inductive SignatureFault
  /-- A method that returns a message is `void`. -/
  | voidMessage
  /-- A method that logs has a return type. -/
  | valuedLogMessage (returnType : String)
  /-- A method that gives out the logger has parameters. -/
  | accessorWithParameters
  deriving DecidableEq, Repr

/-- The wording of a fault. -/
def SignatureFault.message : SignatureFault → String
  | voidMessage => "@Message methods must return a value"
  | valuedLogMessage returnType => "@LogMessage methods must return void, not " ++ returnType
  | accessorWithParameters => "@GetLogger methods take no parameters"

/-- The cause of a failed round. -/
inductive GenerationError
  /-- A method carries annotations that exclude each other. -/
  | conflictingAnnotations (method : String) (kinds : List AnnotationKind)
  /-- A message number is used twice. -/
  | duplicateMessageId (id : MessageId) (template previous : String)
  /-- A log message names no severity. -/
  | unknownLevel (method level : String)
  /-- Two units would have one name. -/
  | duplicateOutput (target : String)
  /-- A unit could not be written. -/
  | outputWrite (target : String) (fault : FileFault)
  /-- The configuration is unusable. -/
  | config (fault : ConfigFault)
  /-- A method cannot be implemented as annotated. -/
  | invalidSignature (method : String) (fault : SignatureFault)
  /-- A backslash of a template swallows a quote of its literal. -/
  | danglingEscape (id : MessageId) (template : String) (offset : Nat)
  deriving DecidableEq, Repr

namespace GenerationError

/-- The wording of a cause. -/
def message : GenerationError → String
  | conflictingAnnotations method kinds =>
    let names := ", ".intercalate (kinds.map AnnotationKind.display)
    s!"cannot use combined annotations {names} on method {method}"
  | duplicateMessageId id template previous =>
    s!"message {id.display} with definition = {template} was previously defined as {previous}"
  | unknownLevel method level => s!"illegal method level {level} on method {method}"
  | duplicateOutput target => s!"output {target} is generated by more than one bundle"
  | outputWrite target fault => s!"failed to write {target}: {fault.message}"
  | config fault => s!"configuration error: {fault.message}"
  | invalidSignature method fault => s!"method {method} cannot be generated: {fault.message}"
  | danglingEscape id template offset =>
    s!"message {id.display} with definition = {template} has a dangling escape at byte {offset}"

/-- The number of the kind of cause. -/
def code : GenerationError → Nat
  | conflictingAnnotations .. => 2
  | duplicateMessageId .. => 3
  | unknownLevel .. => 4
  | duplicateOutput .. => 5
  | outputWrite .. => 6
  | config .. => 7
  | invalidSignature .. => 8
  | danglingEscape .. => 9

end GenerationError

/-- A configuration without faults is accepted, another one refused with its first. -/
def Config.check (c : Config) : Except GenerationError Unit :=
  match c.fault? with
  | none => .ok ()
  | some fault => .error (.config fault)

end MessageBundle

import MessageBundle.GenerationError

/-!
# The trace of a round

What happens in a round is recorded as events. An event has a severity, a
message, and named fields with texts and counts.
-/

namespace MessageBundle

/-- How much an event matters. -/
inductive Severity
  | debug
  | info
  | warn
  | error
  deriving DecidableEq, Repr

/-- The value of a field of an event. -/
inductive FieldValue
  | text (value : String)
  | count (value : Nat)
  deriving DecidableEq, Repr

/-- Something that happened in a round. -/
inductive Event
  /-- An interface without a project code was passed over. -/
  | interfaceSkipped (interface : String)
  /-- A method without annotations was passed over. -/
  | methodSkipped (interface method : String)
  /-- A bundle was collected with so many annotated methods. -/
  | bundleCollected (interface projectCode : String) (methods : Nat)
  /-- A bundle's turn came. -/
  | bundleStarted (bundle : String)
  /-- Two annotations on a method were resolved to the one that prevails. -/
  | overlapResolved (method : String) (kind : AnnotationKind)
  /-- A class with so many methods was rendered. -/
  | classRendered (name : String) (methods : Nat)
  /-- The source of a class was written to a file. -/
  | sourceWritten (name path : String)
  /-- A round ended well. -/
  | roundCompleted (units methods : Nat)
  /-- A round failed. -/
  | roundFailed (cause : GenerationError)
  deriving DecidableEq, Repr

namespace Event

/-- The severity of an event. -/
def severity : Event → Severity
  | interfaceSkipped .. | methodSkipped .. | bundleCollected .. | bundleStarted ..
  | classRendered .. => .debug
  | overlapResolved .. => .warn
  | sourceWritten .. | roundCompleted .. => .info
  | roundFailed .. => .error

/-- The wording of an event. -/
def message : Event → String
  | interfaceSkipped _ => "skipping interface without bundle marker"
  | methodSkipped .. => "method carries no message annotation"
  | bundleCollected .. => "collected bundle"
  | bundleStarted _ => "processing bundle"
  | overlapResolved .. => "method carries several annotations, resolving by precedence"
  | classRendered .. => "rendered implementation class"
  | sourceWritten .. => "wrote generated source"
  | roundCompleted .. => "generation round complete"
  | roundFailed cause => "generation round failed: " ++ cause.message

/-- The named values of an event. -/
def fields : Event → List (String × FieldValue)
  | interfaceSkipped interface => [("interface", .text interface)]
  | methodSkipped interface method => [("interface", .text interface), ("method", .text method)]
  | bundleCollected interface projectCode methods =>
    [("interface", .text interface), ("project_code", .text projectCode),
      ("methods", .count methods)]
  | bundleStarted bundle => [("bundle", .text bundle)]
  | overlapResolved method kind => [("method", .text method), ("resolved", .text kind.display)]
  | classRendered name methods => [("class", .text name), ("methods", .count methods)]
  | sourceWritten name path => [("class", .text name), ("path", .text path)]
  | roundCompleted units methods => [("units", .count units), ("methods", .count methods)]
  | roundFailed _ => []

end Event

end MessageBundle

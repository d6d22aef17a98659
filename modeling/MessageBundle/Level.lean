import MessageBundle.Text.AsciiCase

/-!
# Severity of a log message

A log message declares one of three severities, written in any case. The
severity selects the method of the logger that is called.
-/

namespace MessageBundle

/-- The severities a log message can declare. -/
inductive Level
  | warn
  | info
  | error
  deriving DecidableEq, Repr

namespace Level

/-- Every severity. -/
def all : List Level := [.warn, .info, .error]

/-- The severity as it is written in generated comments. -/
def display : Level → String
  | warn => "WARN"
  | info => "INFO"
  | error => "ERROR"

/-- The logger method for the severity. -/
def methodName : Level → String
  | warn => "warn"
  | info => "info"
  | error => "error"

/-- The severity that a text names, with the case of ASCII letters ignored. -/
def ofText? (text : String) : Option Level :=
  all.find? fun level => Text.sameIgnoringCase text level.display

end Level

end MessageBundle

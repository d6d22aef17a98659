import MessageBundle.Name
import MessageBundle.Text.Blank

/-!
# Configuration of a generation

A configuration names the types that generated classes use and the suffix of
their names. Every setting has a default. A configuration is at fault when a class
would take its interface's name or a type would have none.
-/

namespace MessageBundle

/-- The settings of a generation. -/
structure Config where
  /-- What is put after an interface's simple name to name the class. -/
  implSuffix : String := "_impl"
  /-- The name in the header comment of every generated unit. -/
  generatorName : String := "logbundle"
  /-- The type of the logger that a class holds. -/
  loggerType : String := "org.slf4j.Logger"
  /-- The type that gives out loggers. -/
  loggerFactory : String := "org.slf4j.LoggerFactory"
  /-- The type that puts arguments into a template. -/
  formatter : String := "org.slf4j.helpers.MessageFormatter"
  /-- The type of what the formatter gives back. -/
  formattingTuple : String := "org.slf4j.helpers.FormattingTuple"
  /-- Any two annotations on one method are refused, and not only all three. -/
  strictAnnotations : Bool := true
  deriving DecidableEq, Repr

/-- What makes a configuration unusable. -/
inductive ConfigFault
  /-- The suffix is empty. -/
  | emptySuffix
  /-- The type under a key is blank. -/
  | blankType (key : String)
  deriving DecidableEq, Repr

/-- The wording of a fault. -/
def ConfigFault.message : ConfigFault → String
  | emptySuffix => "impl_suffix cannot be empty, the class would shadow its interface"
  | blankType key => key ++ " cannot be empty"

namespace Config

/-- The types a configuration names, with their keys, in the order of checking. -/
def types (c : Config) : List (String × String) :=
  [("logger_type", c.loggerType), ("logger_factory", c.loggerFactory),
    ("formatter", c.formatter), ("formatting_tuple", c.formattingTuple)]

/-- The first fault of a configuration, if it has one. -/
def fault? (c : Config) : Option ConfigFault :=
  if c.implSuffix = "" then some .emptySuffix
  else (c.types.find? fun entry => Text.isAllBlank entry.2).map fun entry => .blankType entry.1

/-- The types every generated unit imports, in the order of the imports. -/
def imports (c : Config) : List String :=
  [c.loggerType, c.loggerFactory, c.formattingTuple, c.formatter]

/-- The logger's type as it is named inside a unit. -/
def loggerName (c : Config) : String := Name.simpleName c.loggerType

end Config

/-- Settings given beside a configuration that take precedence over it. -/
structure Overrides where
  implSuffix : Option String := none
  lenient : Bool := false
  deriving DecidableEq, Repr

/-- A configuration with the overrides put in; leniency can only be switched on. -/
def Overrides.apply (o : Overrides) (c : Config) : Config :=
  { c with
    implSuffix := o.implSuffix.getD c.implSuffix
    strictAnnotations := c.strictAnnotations && !o.lenient }

end MessageBundle

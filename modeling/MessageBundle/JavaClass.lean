import MessageBundle.Resolution
import MessageBundle.SourceText

/-!
# Generated Java classes

A bundle whose methods are resolved is rendered as one class. The class holds a
logger, has a constructor that takes one and a constructor that asks the factory
for it, a shared instance, and one method for each method of the bundle. A method
that returns a message formats it and hands it back in its return type; a method
that logs a message calls the logger; a method that gives out the logger returns
it.

## Main definitions

* `className`, `outputName` — the simple and the qualified name of the class
* `Source` — a rendered unit
* `Resolution.pieces` — the source of one method
* `Bundle.render` — the unit for a bundle and its resolved methods
-/

namespace MessageBundle

open SourceText

/-- A rendered unit: its qualified class name, its text, and how many methods of
the interface it implements. -/
structure Source where
  qualifiedName : String
  contents : String
  methodCount : Nat
  deriving DecidableEq, Repr

namespace JavaClass

/-- The field that holds the logger. -/
def loggerField : String := "logger"

/-- The local variable that holds a formatted message. -/
def returnLocal : String := "returnString"

/-- The most arguments that are handed to the formatter one by one. -/
def maxInlineArguments : Nat := 2

/-- A text between double quotes. -/
def quoted (body : String) : String := "\"" ++ body ++ "\""

/-- The body of the literal of a message: project code, number, a space, template. -/
def messageLiteral (projectCode : String) (id : MessageId) (template : String) : String :=
  Template.escape s!"{projectCode}{id.display} {template}"

/-- The declared parameters, with their types trimmed. -/
def parameterList (m : Method) : String :=
  ", ".intercalate (m.parameters.map fun p => s!"{Text.trim p.type} {p.name}")

/-- The names of the parameters, as they are handed on. -/
def argumentList (m : Method) : String := ", ".intercalate (m.parameters.map Parameter.name)

/-- Arguments after a literal: each preceded by a comma. -/
def trailingArguments (m : Method) : String :=
  if m.parameters.isEmpty then "" else ", " ++ argumentList m

/-- The statement or statements that bind the formatted message. -/
def bindingPieces (config : Config) (m : Method) (literal : String) : List Piece :=
  if m.parameters.isEmpty then [.line s!"String {returnLocal} = {quoted literal};"]
  else
    let tuple := Name.simpleName config.formattingTuple
    let formatter := Name.simpleName config.formatter
    let arguments := argumentList m
    let call :=
      if maxInlineArguments < m.parameters.length then
        s!"arrayFormat({quoted literal}, new Object[] \x7b{arguments}\x7d)"
      else s!"format({quoted literal}, {arguments})"
    [.line s!"{tuple} tuple = {formatter}.{call};",
      .line s!"String {returnLocal} = tuple.getMessage();"]

/-- The statement that hands the formatted message back. -/
def returnPiece (m : Method) : Piece :=
  match JavaType.ReturnShape.of m.returnType with
  | .text => .line s!"return {returnLocal};"
  | .constructed type => .line s!"return new {type}({returnLocal});"

end JavaClass

open JavaClass

/-- The source of one method, by what it was resolved to. -/
def Resolution.pieces (config : Config) (projectCode : String) (m : Method) :
    Resolution → List Piece
  | .message id template =>
    let value := quoted (Template.escape template)
    [.line s!"// @Message(id = {id.display}, value = {value})",
      .line s!"public {Text.trim m.returnType} {m.name}({parameterList m})",
      .block "\x7b" "\x7d"
        (bindingPieces config m (messageLiteral projectCode id template) ++ [returnPiece m])]
  | .logMessage id template level =>
    let value := quoted (Template.escape template)
    let literal := quoted (messageLiteral projectCode id template)
    [.line s!"// @LogMessage(id = {id.display}, value = {value}, level = {level.display})",
      .line s!"public void {m.name}({parameterList m})",
      .block "\x7b" "\x7d"
        [.line s!"{loggerField}.{level.methodName}({literal}{trailingArguments m});"]]
  | .getLogger =>
    [.line "// @GetLogger",
      .line s!"public {config.loggerName} {m.name}() \x7b return {loggerField}; \x7d"]

namespace Bundle

/-- The simple name of the class for a bundle. -/
def className (config : Config) (b : Bundle) : String :=
  Name.className (Name.simpleName b.qualifiedName) config.implSuffix

/-- The qualified name of the class for a bundle, by which its unit is known. -/
def outputName (config : Config) (b : Bundle) : String :=
  Name.qualify b.namespaceName (b.className config)

/-- How the class names its interface: by the simple name if both are in one package. -/
def interfaceReference (b : Bundle) : String :=
  if Name.packageOf b.qualifiedName = b.namespaceName then Name.simpleName b.qualifiedName
  else b.qualifiedName

/-- What stands before the class: the header comment, the package, the imports. -/
def headerPieces (config : Config) (b : Bundle) : List Piece :=
  [.line s!"/** This class is auto generated by {config.generatorName}",
    .line s!"    and it inherits whatever license is declared at {b.qualifiedName} */",
    .blank] ++
  (if b.namespaceName = "" then [] else [.line s!"package {b.namespaceName};", .blank]) ++
  config.imports.map (fun type => .line s!"import {type};") ++
  [.blank]

/-- What every class holds: the logger, two constructors, the shared instance. -/
def memberPieces (config : Config) (b : Bundle) : List Piece :=
  let name := b.className config
  let logger := config.loggerName
  let factory := Name.simpleName config.loggerFactory
  [.line s!"private final {logger} {loggerField};",
    .blank,
    .block s!"public {name}({logger} {loggerField}) \x7b" "\x7d"
      [.line s!"this.{loggerField} = {loggerField};"],
    .blank,
    .block s!"public {name}() \x7b" "\x7d"
      [.line s!"this({factory}.getLogger({b.outputName config}.class));"],
    .blank,
    .line s!"public static final {name} INSTANCE = new {name}();"]

/-- The source of a method inside the class, an empty line before it. -/
def methodPieces (config : Config) (b : Bundle) (resolved : ResolvedMethod) : List Piece :=
  .blank :: resolved.resolution.pieces config b.projectCode resolved.method

/-- The whole unit for a bundle and its resolved methods. -/
def pieces (config : Config) (b : Bundle) (methods : List ResolvedMethod) : List Piece :=
  b.headerPieces config ++
    [.line s!"// @LogBundle(projectCode = {quoted (Template.escape b.projectCode)})",
      .line s!"public class {b.className config} implements {b.interfaceReference}",
      .block "\x7b" "\x7d" (b.memberPieces config ++ methods.flatMap (b.methodPieces config))]

/-- The unit for a bundle and its resolved methods. -/
def render (config : Config) (b : Bundle) (methods : List ResolvedMethod) : Source :=
  { qualifiedName := b.outputName config
    contents := SourceText.render (b.pieces config methods)
    methodCount := methods.length }

end Bundle

end MessageBundle

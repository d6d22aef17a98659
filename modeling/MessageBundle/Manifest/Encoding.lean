import MessageBundle.Data.Reading
import MessageBundle.Manifest.Basic

/-!
# Manifests as data

`encode` writes each record as a map of all its fields, null for what is absent.
The fields of a record, with their names and what they are when absent, are
listed once; readers take a record from a map or from a list of its fields.

## Main definitions

* `Parameter.encode` … `Manifest.encode` — records as data
* `Parameter.read` … `Manifest.read` — records from data
-/

namespace MessageBundle

variable {φ : Type}

/-! ### Writing -/

/-- A value that may be absent, null if it is. -/
def Data.ofOption {α : Type} (encode : α → Data φ) : Option α → Data φ
  | none => .null
  | some value => encode value

/-- A parameter as data. -/
def Parameter.encode (p : Parameter) : Data φ :=
  .ofMembers [("type", .text p.type), ("name", .text p.name)]

/-- The annotation of a method that returns a message, as data. -/
def AnnotatedMessage.encode (a : AnnotatedMessage) : Data φ :=
  .ofMembers [("id", .int a.id.toInt), ("value", .text a.template)]

/-- The annotation of a method that logs a message, as data. -/
def AnnotatedLogMessage.encode (a : AnnotatedLogMessage) : Data φ :=
  .ofMembers
    [("id", .int a.id.toInt), ("value", .text a.template), ("level", .text a.level)]

/-- The annotation of a method that gives out the logger, as data. -/
def encodeGetLogger (present : Bool) : Data φ := if present then .ofMembers [] else .null

/-- A method as data. -/
def Method.encode (m : Method) : Data φ :=
  .ofMembers
    [("name", .text m.name), ("returns", .text m.returnType),
      ("parameters", .ofList (m.parameters.map Parameter.encode)),
      ("message", .ofOption AnnotatedMessage.encode m.message),
      ("log_message", .ofOption AnnotatedLogMessage.encode m.logMessage),
      ("get_logger", encodeGetLogger m.getLogger)]

/-- The mark of a bundle, as data. -/
def encodeProjectCode (code : String) : Data φ := .ofMembers [("project_code", .text code)]

/-- An interface as data. -/
def Interface.encode (i : Interface) : Data φ :=
  .ofMembers
    [("name", .text i.name), ("namespace", .ofOption .text i.namespaceName),
      ("log_bundle", .ofOption encodeProjectCode i.projectCode),
      ("method", .ofList (i.methods.map Method.encode))]

/-- A configuration as data. -/
def Config.encode (c : Config) : Data φ :=
  .ofMembers
    [("impl_suffix", .text c.implSuffix), ("generator_name", .text c.generatorName),
      ("logger_type", .text c.loggerType), ("logger_factory", .text c.loggerFactory),
      ("formatter", .text c.formatter), ("formatting_tuple", .text c.formattingTuple),
      ("strict_annotations", .bool c.strictAnnotations)]

/-- A manifest as data. -/
def Manifest.encode (m : Manifest) : Data φ :=
  .ofMembers
    [("generator", m.config.encode), ("interface", .ofList (m.interfaces.map Interface.encode))]

/-! ### Fields -/

/-- A required field that holds a text. -/
abbrev textField (name : String) : Field φ := ⟨String, name, [], Data.readText, none⟩

/-- A field that holds a text and has a default. -/
abbrev defaultedField (name value : String) : Field φ :=
  ⟨String, name, [], Data.readText, some value⟩

/-- A required field that holds a message number. -/
abbrev idField (name : String) : Field φ := ⟨MessageId, name, [], Data.readMessageId, none⟩

/-- A field that may be absent or null. -/
abbrev optionalField {α : Type} (name : String) (read : Data φ → Reading φ α) : Field φ :=
  ⟨Option α, name, [], Data.readOptional read, some none⟩

/-- A field that holds a list and is empty when absent. -/
abbrev listField {α : Type} (name : String) (aliases : List String)
    (read : Data φ → Reading φ α) : Field φ :=
  ⟨List α, name, aliases, Data.readList read, some []⟩

/-! ### Reading -/

variable (medium : Medium φ)

/-- A parameter from data. -/
def Parameter.read (d : Data φ) : Reading φ Parameter := do
  let (type, name, ()) ←
    d.readRecord medium "ParameterDeclaration" [textField "type", textField "name"]
  return { type, name }

/-- The annotation of a method that returns a message, from data. -/
def AnnotatedMessage.read (d : Data φ) : Reading φ AnnotatedMessage := do
  let (id, template, ()) ←
    d.readRecord medium "MessageAnnotation" [idField "id", textField "value"]
  return { id, template }

/-- The annotation of a method that logs a message, from data. -/
def AnnotatedLogMessage.read (d : Data φ) : Reading φ AnnotatedLogMessage := do
  let (id, template, level, ()) ←
    d.readRecord medium "LogMessageAnnotation"
      [idField "id", textField "value", textField "level"]
  return { id, template, level }

/-- The annotation of a method that gives out the logger, from data. -/
def readGetLogger (d : Data φ) : Reading φ Unit :=
  d.readRecord medium "GetLoggerAnnotation" []

/-- A method from data. -/
def Method.read (d : Data φ) : Reading φ Method := do
  let (name, returnType, parameters, message, logMessage, getLogger, ()) ←
    d.readRecord medium "MethodElement"
      [textField "name", defaultedField "returns" "void",
        listField "parameters" [] (Parameter.read medium),
        optionalField "message" (AnnotatedMessage.read medium),
        optionalField "log_message" (AnnotatedLogMessage.read medium),
        optionalField "get_logger" (readGetLogger medium)]
  return { name, returnType, parameters, message, logMessage, getLogger := getLogger.isSome }

/-- The mark of a bundle from data: its project code. -/
def readProjectCode (d : Data φ) : Reading φ String := do
  let (code, ()) ← d.readRecord medium "LogBundleAnnotation" [textField "project_code"]
  return code

/-- An interface from data. -/
def Interface.read (d : Data φ) : Reading φ Interface := do
  let (name, namespaceName, projectCode, methods, ()) ←
    d.readRecord medium "InterfaceElement"
      [textField "name", optionalField "namespace" Data.readText,
        optionalField "log_bundle" (readProjectCode medium),
        listField "method" ["methods"] (Method.read medium)]
  return { name, namespaceName, projectCode, methods }

/-- A configuration from data; every setting may be absent. -/
def Config.read (d : Data φ) : Reading φ Config := do
  let standard : Config := {}
  let (implSuffix, generatorName, loggerType, loggerFactory, formatter, formattingTuple,
      strictAnnotations, ()) ←
    d.readRecord medium "GeneratorConfig"
      [defaultedField "impl_suffix" standard.implSuffix,
        defaultedField "generator_name" standard.generatorName,
        defaultedField "logger_type" standard.loggerType,
        defaultedField "logger_factory" standard.loggerFactory,
        defaultedField "formatter" standard.formatter,
        defaultedField "formatting_tuple" standard.formattingTuple,
        ⟨Bool, "strict_annotations", [], Data.readBool, some standard.strictAnnotations⟩]
  return { implSuffix, generatorName, loggerType, loggerFactory, formatter, formattingTuple,
           strictAnnotations }

/-- A manifest from data; both parts may be absent. -/
def Manifest.read (d : Data φ) : Reading φ Manifest := do
  let (config, interfaces, ()) ←
    d.readRecord medium "Manifest"
      [⟨Config, "generator", [], Config.read medium, some {}⟩,
        listField "interface" ["interfaces"] (Interface.read medium)]
  return { config, interfaces }

end MessageBundle

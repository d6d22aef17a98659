/-!
# Declared interfaces and bundles

An interface is declared with its methods, and a method with the annotations it
carries. An interface with a project code is a bundle; the other interfaces take
no part in generation.

## Main definitions

* `AnnotationKind` — the three kinds of annotation, in order of precedence
* `Method`, `Interface` — declarations as they are handed in
* `Bundle` — an interface with a project code and its annotated methods
-/

namespace MessageBundle

/-- The number of a message, unique in a round. -/
abbrev MessageId := Int32

/-- The decimal text of a message number. -/
def MessageId.display (id : MessageId) : String := toString id.toInt

/-- The kinds of annotation a method can carry, the one that prevails first. -/
inductive AnnotationKind
  | message
  | logMessage
  | getLogger
  deriving DecidableEq, Repr

/-- The kind as it is written in source. -/
def AnnotationKind.display : AnnotationKind → String
  | message => "@Message"
  | logMessage => "@LogMessage"
  | getLogger => "@GetLogger"

/-- A method parameter. -/
structure Parameter where
  type : String
  name : String
  deriving DecidableEq, Repr

/-- What a method that returns a message is annotated with. -/
structure AnnotatedMessage where
  id : MessageId
  template : String
  deriving DecidableEq, Repr

/-- What a method that logs a message is annotated with. The level is text here
and becomes a severity when the method is resolved. -/
structure AnnotatedLogMessage where
  id : MessageId
  template : String
  level : String
  deriving DecidableEq, Repr

/-- A declared method. -/
structure Method where
  name : String
  returnType : String := "void"
  parameters : List Parameter := []
  message : Option AnnotatedMessage := none
  logMessage : Option AnnotatedLogMessage := none
  getLogger : Bool := false
  deriving DecidableEq, Repr

namespace Method

/-- The kinds of annotation on the method, the one that prevails first. -/
def kinds (m : Method) : List AnnotationKind :=
  (if m.message.isSome then [.message] else []) ++
    (if m.logMessage.isSome then [.logMessage] else []) ++
      if m.getLogger then [.getLogger] else []

/-- The method carries at least one annotation. -/
def isAnnotated (m : Method) : Bool := m.message.isSome || m.logMessage.isSome || m.getLogger

/-- The method with another return type. -/
def returning (m : Method) (type : String) : Method := { m with returnType := type }

/-- The method with one more parameter at the end. -/
def withParameter (m : Method) (type name : String) : Method :=
  { m with parameters := m.parameters ++ [⟨type, name⟩] }

/-- The method as one that returns a message. -/
def withMessage (m : Method) (id : MessageId) (template : String) : Method :=
  { m with message := some ⟨id, template⟩ }

/-- The method as one that logs a message. -/
def withLogMessage (m : Method) (id : MessageId) (template level : String) : Method :=
  { m with logMessage := some ⟨id, template, level⟩ }

/-- The method as one that gives out the logger. -/
def withGetLogger (m : Method) : Method := { m with getLogger := true }

end Method

/-- A declared interface. The namespace is the package of its name unless it is
given; the project code marks it as a bundle. -/
structure Interface where
  name : String
  namespaceName : Option String := none
  projectCode : Option String := none
  methods : List Method := []
  deriving DecidableEq, Repr

namespace Interface

/-- The interface with its namespace given. -/
def withNamespace (i : Interface) (namespaceName : String) : Interface :=
  { i with namespaceName := some namespaceName }

/-- The interface with one more method at the end. -/
def withMethod (i : Interface) (m : Method) : Interface :=
  { i with methods := i.methods ++ [m] }

end Interface

/-- An interface that is to be implemented. -/
structure Bundle where
  qualifiedName : String
  namespaceName : String
  projectCode : String
  methods : List Method
  deriving DecidableEq, Repr

end MessageBundle

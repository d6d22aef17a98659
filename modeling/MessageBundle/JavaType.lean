import MessageBundle.Text.Blank

/-!
# Java types of generated methods

A type is written as text and compared without the blanks around it. A method
that gives back a message returns it as it is when its type is the text type,
and otherwise builds a value of its type from it.
-/

namespace MessageBundle.JavaType

open MessageBundle.Text

/-- The two spellings of the text type. -/
def textTypes : List String := ["java.lang.String", "String"]

/-- The type is the text type. -/
def isText (type : String) : Bool := textTypes.contains (trim type)

/-- The type is `void`. -/
def isVoid (type : String) : Bool := trim type == "void"

/-- How a method hands back a formatted message. -/
inductive ReturnShape
  /-- The text itself is returned. -/
  | text
  /-- A value of the type is built from the text. -/
  | constructed (type : String)
  deriving DecidableEq, Repr

/-- The shape that a return type asks for. -/
def ReturnShape.of (type : String) : ReturnShape :=
  if isText type then .text else .constructed (trim type)

end MessageBundle.JavaType

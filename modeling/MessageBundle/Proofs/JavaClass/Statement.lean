import MessageBundle.JavaClass
import MessageBundle.Proofs.Method.Shape

/-!
# The statements of a generated method

The body of a generated method is written as lines of text. Behind the lines are statements:
a body declares local variables, calls methods and gives values back. This file gives the
statements that a body is made of and shows that their text is what is written. A statement
tells what a line of text does not, namely what each name in it is to stand for: a parameter
of the method, a local variable of the body, or a field of the class.

## Main definitions

* `Variable` — a name with what it is to stand for
* `Expression`, `Statement` — what a body is made of, with its text and its variables
* `Resolution.statements` — the body of a method, by what the method was resolved to
* `IsWrittenAs` — a body as it is written below the parameters of its method

## Main results

* `Resolution.isWrittenAs` — the source of a method is its body as it is written
-/

namespace MessageBundle

open SourceText

namespace JavaClass

/-- What a variable in the body of a method can stand for. -/
inductive Referent
  | parameter
  | localVariable
  | field
  deriving DecidableEq, Repr

/-- A variable as it is meant: its name, and what the name is to stand for. -/
structure Variable where
  name : String
  referent : Referent
  deriving DecidableEq, Repr

namespace Variable

/-- A parameter of the method. -/
def ofParameter (p : Parameter) : Variable := ⟨p.name, .parameter⟩

/-- The local variable for what the formatter gives back. -/
def tuple : Variable := ⟨"tuple", .localVariable⟩

/-- The local variable for the formatted message. -/
def formatted : Variable := ⟨returnLocal, .localVariable⟩

/-- The field with the logger. -/
def logger : Variable := ⟨loggerField, .field⟩

end Variable

/-- An expression in the body of a method. -/
inductive Expression
  /-- A text between quotes. -/
  | literal (body : String)
  /-- The value of a variable. -/
  | reference (v : Variable)
  /-- A class whose methods are called. -/
  | typeName (name : String)
  /-- A call of a method, on a value or on a class. -/
  | call (receiver : Expression) (method : String) (arguments : List Expression)
  /-- An array of values. -/
  | array (elements : List Expression)
  /-- A new value of a type. -/
  | construction (type : String) (argument : Expression)

/-- Texts in a row, with commas between them. -/
def commaSeparated (texts : List String) : String := ", ".intercalate texts

namespace Expression

mutual

/-- An expression as it is written. -/
def text : Expression → String
  | literal body => quoted body
  | reference v => v.name
  | typeName name => name
  | call receiver method arguments =>
    s!"{receiver.text}.{method}({commaSeparated (texts arguments)})"
  | array elements => s!"new Object[] \x7b{commaSeparated (texts elements)}\x7d"
  | construction type argument => s!"new {type}({argument.text})"

/-- Expressions as they are written, one by one. -/
def texts : List Expression → List String
  | [] => []
  | e :: rest => e.text :: texts rest

end

mutual

/-- The variables in an expression. -/
def uses : Expression → List Variable
  | literal _ => []
  | reference v => [v]
  | typeName _ => []
  | call receiver _ arguments => receiver.uses ++ usesOf arguments
  | array elements => usesOf elements
  | construction _ argument => argument.uses

/-- The variables in a list of expressions. -/
def usesOf : List Expression → List Variable
  | [] => []
  | e :: rest => e.uses ++ usesOf rest

end

attribute [simp] uses usesOf

theorem texts_references (vs : List Variable) :
    texts (vs.map reference) = vs.map Variable.name := by
  induction vs with
  | nil => rfl
  | cons v vs ih => rw [List.map_cons, texts, ih, text, List.map_cons]

theorem usesOf_references (vs : List Variable) :
    usesOf (vs.map reference) = vs := by
  induction vs with
  | nil => rfl
  | cons v vs ih => rw [List.map_cons, usesOf, ih, uses, List.singleton_append]

end Expression

/-- A statement in the body of a method. -/
inductive Statement
  /-- A local variable with its type and its value. -/
  | declaration (type name : String) (value : Expression)
  /-- An expression for its effect. -/
  | evaluation (e : Expression)
  /-- The value that the method gives back. -/
  | giveBack (e : Expression)

namespace Statement

/-- A statement as it is written. -/
def text : Statement → String
  | declaration type name value => s!"{type} {name} = {value.text};"
  | evaluation e => s!"{e.text};"
  | giveBack e => s!"return {e.text};"

/-- The line that a statement is written on. -/
def line (s : Statement) : Piece := .line s.text

end Statement

/-! ### The bodies -/

/-- The parameters of a method as the arguments of a call. -/
def arguments (m : Method) : List Expression :=
  (m.parameters.map Variable.ofParameter).map .reference

@[simp] theorem usesOf_arguments (m : Method) :
    Expression.usesOf (arguments m) = m.parameters.map .ofParameter :=
  Expression.usesOf_references _

/-- The call of the formatter. -/
def formatCall (config : Config) (m : Method) (literal : String) : Expression :=
  let formatter := .typeName (Name.simpleName config.formatter)
  if maxInlineArguments < m.parameters.length then
    .call formatter "arrayFormat" [.literal literal, .array (arguments m)]
  else .call formatter "format" (.literal literal :: arguments m)

/-- The declarations that bind the formatted message. -/
def bindingStatements (config : Config) (m : Method) (literal : String) : List Statement :=
  if m.parameters.isEmpty then
    [.declaration "String" Variable.formatted.name (.literal literal)]
  else
    [.declaration (Name.simpleName config.formattingTuple) Variable.tuple.name
        (formatCall config m literal),
      .declaration "String" Variable.formatted.name
        (.call (.reference .tuple) "getMessage" [])]

/-- The statement that gives the formatted message back. -/
def returnStatement (m : Method) : Statement :=
  match JavaType.ReturnShape.of m.returnType with
  | .text => .giveBack (.reference .formatted)
  | .constructed type => .giveBack (.construction type (.reference .formatted))

end JavaClass

open JavaClass

/-- The body of a method, by what the method was resolved to. -/
def Resolution.statements (config : Config) (projectCode : String) (m : Method) :
    Resolution → List Statement
  | .message id template =>
    bindingStatements config m (messageLiteral projectCode id template) ++ [returnStatement m]
  | .logMessage id template level =>
    [.evaluation (.call (.reference .logger) level.methodName
      (.literal (messageLiteral projectCode id template) :: arguments m))]
  | .getLogger => [.giveBack (.reference .logger)]

namespace JavaClass

/-- The head of a method with the type. -/
def signature (type : String) (m : Method) : String :=
  s!"public {type} {m.name}({parameterList m})"

/-- How a body is written behind the head of its method: one statement a line between braces,
or a single statement on the line of the head. -/
inductive IsWrittenAs (m : Method) : List Statement → List Piece → Prop
  | block (comment type : String) (body : List Statement) :
      IsWrittenAs m body
        [.line comment, .line (signature type m), .block "\x7b" "\x7d" (body.map Statement.line)]
  | inline (comment type : String) (statement : Statement) :
      IsWrittenAs m [statement]
        [.line comment, .line (signature type m ++ " \x7b " ++ statement.text ++ " \x7d")]

variable {config : Config} {m : Method} {literal : String}

theorem bindingStatements_of_bare (h : m.parameters = []) :
    bindingStatements config m literal =
      [.declaration "String" Variable.formatted.name (.literal literal)] := by
  rw [bindingStatements, h]
  rfl

theorem bindingStatements_of_ne_nil (h : m.parameters ≠ []) :
    bindingStatements config m literal =
      [.declaration (Name.simpleName config.formattingTuple) Variable.tuple.name
          (formatCall config m literal),
        .declaration "String" Variable.formatted.name
          (.call (.reference .tuple) "getMessage" [])] := by
  rw [bindingStatements, if_neg (by simpa using h)]

/-! ### The text of a body -/

theorem commaSeparated_texts_arguments (m : Method) :
    commaSeparated (Expression.texts (arguments m)) = argumentList m := by
  rw [arguments, Expression.texts_references, List.map_map, commaSeparated, argumentList]
  rfl

/-- Arguments behind a literal, as they are written: each with a comma in front of it. -/
theorem commaSeparated_texts_literal_arguments (literal : String) (m : Method) :
    commaSeparated (Expression.texts (.literal literal :: arguments m)) =
      quoted literal ++ trailingArguments m := by
  rw [Expression.texts, Expression.text, trailingArguments, ← commaSeparated_texts_arguments]
  by_cases hbare : m.parameters = []
  · rw [arguments, hbare]
    exact (String.append_empty).symm
  · have hsome : Expression.texts (arguments m) ≠ [] := by
      rw [arguments, Expression.texts_references]
      simpa using hbare
    rw [if_neg (by simpa using hbare), commaSeparated, String.intercalate_cons_of_ne_nil hsome,
      commaSeparated, String.append_assoc]

theorem returnPiece_eq (m : Method) : returnPiece m = (returnStatement m).line := by
  unfold returnPiece returnStatement
  cases JavaType.ReturnShape.of m.returnType with
  | text => rfl
  | constructed type =>
    simp [Statement.line, Statement.text, Expression.text, Variable.formatted, toString,
      ← String.toList_inj]

/-- The call of the formatter as it is written: with more arguments than it takes one by one,
they are put in an array. -/
theorem text_formatCall (h : m.parameters ≠ []) :
    (formatCall config m literal).text =
      Name.simpleName config.formatter ++ "." ++
        if maxInlineArguments < m.parameters.length then
          s!"arrayFormat({quoted literal}, new Object[] \x7b{argumentList m}\x7d)"
        else s!"format({quoted literal}, {argumentList m})" := by
  have hbare : m.parameters.isEmpty = false := List.isEmpty_eq_false_iff.mpr h
  rw [formatCall]
  split_ifs with hmany
  · -- the array is a second argument, behind the literal
    rw [← commaSeparated_texts_arguments]
    simp [Expression.texts, Expression.text, commaSeparated, toString, ← String.toList_inj]
  · rw [Expression.text, commaSeparated_texts_literal_arguments, trailingArguments, hbare,
      Expression.text]
    simp [toString, ← String.toList_inj]

theorem bindingPieces_eq (config : Config) (m : Method) (literal : String) :
    bindingPieces config m literal = (bindingStatements config m literal).map Statement.line := by
  by_cases hbare : m.parameters = []
  · rw [bindingPieces, bindingStatements_of_bare hbare, hbare]
    rfl
  · have hmessage : (Expression.call (.reference .tuple) "getMessage" []).text =
        "tuple.getMessage()" := by decide
    rw [bindingPieces, bindingStatements_of_ne_nil hbare, if_neg (by simpa using hbare),
      List.map_cons, List.map_singleton, Statement.line, Statement.line, Statement.text,
      Statement.text, text_formatCall hbare, hmessage]
    simp [Variable.tuple, Variable.formatted, toString, ← String.toList_inj]

/-- A call of the logger as it is written. -/
theorem text_log_call (level : Level) (literal : String) (m : Method) :
    Statement.text (.evaluation
        (.call (.reference .logger) level.methodName (.literal literal :: arguments m))) =
      s!"{loggerField}.{level.methodName}({quoted literal}{trailingArguments m});" := by
  rw [Statement.text, Expression.text, commaSeparated_texts_literal_arguments, Expression.text]
  simp [Variable.logger, toString, ← String.toList_inj]

theorem signature_void (m : Method) :
    s!"public void {m.name}({parameterList m})" = signature "void" m := by
  simp [signature, toString]

theorem signature_bare (h : m.parameters = []) (type : String) :
    s!"public {type} {m.name}()" = signature type m := by
  simp [signature, parameterList, h, toString, ← String.toList_inj]

end JavaClass

/-- The source of a method is its body as it is written. -/
theorem Resolution.isWrittenAs {m : Method} {r : Resolution} (h : m.ResolvesTo r)
    (config : Config) (projectCode : String) :
    IsWrittenAs m (r.statements config projectCode m) (r.pieces config projectCode m) := by
  cases h with
  | @message a =>
    have hbody : ((message a.id a.template).statements config projectCode m).map Statement.line =
        bindingPieces config m (messageLiteral projectCode a.id a.template) ++ [returnPiece m] := by
      rw [statements, List.map_append, bindingPieces_eq, returnPiece_eq, List.map_singleton]
    rw [pieces, ← hbody]
    exact .block _ _ _
  | @logMessage a level =>
    rw [pieces, signature_void, ← text_log_call]
    exact .block _ "void" _
  | getLogger _ _ _ bare =>
    -- without parameters, the head of the method ends in empty parentheses
    have hline : s!"public {config.loggerName} {m.name}() \x7b return {loggerField}; \x7d" =
        signature config.loggerName m ++ " \x7b " ++
          (Statement.giveBack (.reference .logger)).text ++ " \x7d" := by
      rw [← signature_bare bare]
      simp [Statement.text, Expression.text, Variable.logger, toString, ← String.toList_inj]
    rw [pieces, hline]
    exact .inline _ _ _

end MessageBundle

import MessageBundle.Path

/-!
# Qualified names

A qualified name is a package and a simple name with a dot between them. A name
without a dot is a simple name in the default package, whose name is empty.

## Main definitions

* `simpleName`, `packageOf` — the two parts of a qualified name
* `className` — the name of a class, from its interface's
* `qualify` — the parts put together
* `sourcePath` — where the source of a class belongs: a directory for each
  segment of the package, then the simple name with `.java` after it
-/

namespace MessageBundle.Name

open MessageBundle.Text

/-- What follows the last dot; the whole name if it has none. -/
def simpleName (name : String) : String :=
  match cutLast? '.' name.toList with
  | some (_, simple) => String.ofList simple
  | none => name

/-- What precedes the last dot; empty if there is none. -/
def packageOf (name : String) : String :=
  match cutLast? '.' name.toList with
  | some (package, _) => String.ofList package
  | none => ""

/-- The simple name of the class that implements an interface. -/
def className (simple suffix : String) : String := simple ++ suffix

/-- A simple name in a namespace; the empty namespace adds nothing. -/
def qualify (namespaceName simple : String) : String :=
  if namespaceName = "" then simple else namespaceName ++ "." ++ simple

/-- The directories of a package: its segments that are not empty. -/
def packageParts (name : String) : List String :=
  (pieces '.' (packageOf name)).filter (· ≠ "")

/-- The relative path of the source file for a qualified class name. -/
def sourcePath (name : String) : String :=
  Path.push (Path.ofParts (packageParts name)) (simpleName name ++ ".java")

end MessageBundle.Name

import MessageBundle.Text.Cut

/-!
# File paths as texts

A path is a text whose parts stand between slashes. Joining puts one slash
between two paths where none is there, and a path that starts with a slash
replaces what it is joined to. Empty parts, and single dots other than a leading
one, do not count as components.

## Main definitions

* `push` — one path joined to another
* `parent?` — the path without its last component
* `ancestors` — a path and its parents, up to the last that names a directory
* `extension?` — the last component after its last dot
-/

namespace MessageBundle.Path

open MessageBundle.Text

/-- A path that starts with a slash names its place from the root. -/
def isAbsolute (path : String) : Bool := path.toList.head? == some '/'

/-- A slash is owed before another part unless the path is empty or ends in one. -/
def wantsSlash (path : String) : Bool :=
  match path.toList.getLast? with
  | none => false
  | some c => c != '/'

/-- The path `part` seen from `base`; an absolute part stands alone. -/
def push (base part : String) : String :=
  if isAbsolute part then part
  else if wantsSlash base then base ++ "/" ++ part
  else base ++ part

/-- Parts joined one after another, from the empty path. -/
def ofParts (parts : List String) : String := parts.foldl push ""

/-- A part that names no component: nothing, or a single dot. -/
def isVoidPart (part : String) : Bool := part == "" || part == "."

/-- Parts after the first, last one first, from the last component on. -/
def fromLastComponent (reversed : List String) : List String := reversed.dropWhile isVoidPart

/-- The path without its last component: nothing for a path that has none. A
leading dot counts as a component, and the root has no parent. -/
def parent? (path : String) : Option String :=
  match pieces '/' path with
  | [] => none
  | first :: rest =>
    match fromLastComponent rest.reverse with
    | [] => if first == "" then none else some ""
    | _ :: before =>
      match (fromLastComponent before).reverse with
      | [] => some (if first == "" then "/" else first)
      | kept => some ("/".intercalate (first :: kept))

/-- At most `count` paths: the path, its parent, and so on, as long as a path
has a parent and is not empty. -/
def ancestorsUpTo : Nat → String → List String
  | 0, _ => []
  | count + 1, path =>
    match parent? path with
    | none => []
    | some parent => if path == "" then [] else path :: ancestorsUpTo count parent

/-- A path and its parents, the longest first, without the empty path and the root. -/
def ancestors (path : String) : List String := ancestorsUpTo (path.length + 1) path

/-- The last component, unless it is a step up or there is none. -/
def fileName? (path : String) : Option String :=
  match pieces '/' path with
  | [] => none
  | first :: rest =>
    let last :=
      match fromLastComponent rest.reverse with
      | [] => first
      | name :: _ => name
    if isVoidPart last || last == ".." then none else some last

/-- What follows the last dot of the file name, unless that dot starts it. -/
def extension? (path : String) : Option String := do
  let name ← fileName? path
  match cutLast? '.' name.toList with
  | some (_ :: _, after) => some (String.ofList after)
  | _ => none

end MessageBundle.Path

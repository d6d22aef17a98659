import MessageBundle.Data.Reading
import MessageBundle.Toml.Scalar
import MessageBundle.Toml.Table
import MessageBundle.Toml.Token

/-!
# TOML documents

A reader goes over the tokens of a document one by one. It keeps the containers
that are open, the table that lines are added to, and the document before that
table's header. A line that breaks a rule ends the reading without a result.

## Main definitions

* `Document` — the tree of a text
* `Document.ofText?` — the document of a text, if it is well formed
* `Document.read` — a document read by a reader of trees
-/

namespace MessageBundle.Toml

/-- The most containers that may be open at once. -/
def maxDepth : Nat := 80

/-- A container that is still open: the items of a list, the last one first, or
a table written as a value with the key whose value is due. -/
inductive Frame
  | list (items : List (Data TextFault))
  | table (t : Table) (path : List String)

/-- A header: whether it is in double brackets, and its path. -/
structure Header where
  isDouble : Bool
  path : List String
  deriving DecidableEq, Repr

/-- What may come next. A path is kept last part first. -/
inductive Expecting
  /-- The start of a line. -/
  | line
  /-- Nothing but a comment before the end of the line. -/
  | lineEnd
  /-- A second bracket or the first key of a header. -/
  | headerStart
  | headerKey (isDouble : Bool) (path : List String)
  /-- A dot or the end of the header. -/
  | headerDot (isDouble : Bool) (path : List String)
  /-- The second closing bracket of a header. -/
  | headerEnd (path : List String)
  | key (path : List String)
  /-- A dot or an equals sign. -/
  | keyDot (path : List String)
  /-- An equals sign on a later line than the key. -/
  | equals (path : List String)
  | value
  /-- A value or the end of a list. -/
  | item
  /-- A comma or the end of a list. -/
  | itemEnd
  /-- A key or the end of a table. -/
  | member
  /-- A comma or the end of a table. -/
  | memberEnd
  /-- More of a bare value. -/
  | word (text : String)
  /-- A time may follow the date before a single blank. -/
  | moment (date : String)
  deriving DecidableEq, Repr

/-- A document under construction. -/
structure Reader where
  expecting : Expecting := .line
  stack : List Frame := []
  /-- The path under which the next value on the outermost level goes. -/
  path : List String := []
  /-- The document before the header of the current table. -/
  root : Table := .empty
  header : Option Header := none
  current : Table := .empty

/-- A bare key has letters, digits, underscores and hyphens of ASCII. -/
def isBareKey (word : String) : Bool :=
  !word.isEmpty && word.toList.all fun c => c.isAlphanum || c = '_' || c = '-'

/-- The key that a token spells. -/
def key? : Token → Option String
  | .word text => if isBareKey text then some text else none
  | .text value => some value
  | _ => none

namespace Reader

/-- The reader with something else expected. -/
def expect (r : Reader) (expecting : Expecting) : Reader := { r with expecting }

/-- The last key of a path, kept last first, and the keys before it, which are
fewer than the containers that may be open. -/
def splitPath? : List String → Option (List String × String)
  | [] => none
  | last :: before => if before.length < maxDepth then some (before.reverse, last) else none

/-- The document with the current table put in its place. -/
def settled? (r : Reader) : Option Table :=
  match r.header with
  | none => some r.current
  | some header => do
    let (path, key) ← splitPath? header.path
    if header.isDouble then r.root.append? path key r.current
    else r.root.define? path key r.current

/-- A header opens a table. -/
def openTable (r : Reader) (header : Header) : Option Reader := do
  let root ← r.settled?
  let (path, key) ← splitPath? header.path
  let current ← if header.isDouble then some Table.empty else root.opened? path key
  return { r with expecting := .lineEnd, root, header := some header, current }

/-- A value put in its place. -/
def give (r : Reader) (d : Data TextFault) : Option Reader :=
  match r.stack with
  | [] => do
    let (path, key) ← splitPath? r.path
    let current ← r.current.assign? path key d
    return { r with expecting := .lineEnd, current }
  | .list items :: stack =>
    some { r with expecting := .itemEnd, stack := .list (d :: items) :: stack }
  | .table t keys :: stack => do
    let (path, key) ← splitPath? keys
    let t ← t.assign? path key d
    return { r with expecting := .memberEnd, stack := .table t [] :: stack }

/-- A container opens. -/
def push (r : Reader) (frame : Frame) (expecting : Expecting) : Option Reader :=
  if r.stack.length < maxDepth then some { r with expecting, stack := frame :: r.stack } else none

/-- The innermost list ended. -/
def closeList (r : Reader) : Option Reader :=
  match r.stack with
  | .list items :: stack => ({ r with stack } : Reader).give (.ofList items.reverse)
  | _ => none

/-- The innermost table ended. -/
def closeTable (r : Reader) : Option Reader :=
  match r.stack with
  | .table t _ :: stack => ({ r with stack } : Reader).give t.toData
  | _ => none

/-- The innermost open container is a table. -/
def isInTable (r : Reader) : Bool :=
  match r.stack with
  | .table .. :: _ => true
  | _ => false

/-- The keys before an equals sign. -/
def givePath (r : Reader) (path : List String) : Option Reader :=
  match r.stack with
  | [] => some { r with expecting := .value, path }
  | .table t _ :: stack => some { r with expecting := .value, stack := .table t path :: stack }
  | .list _ :: _ => none

/-- A bare value ended. -/
def giveWord (r : Reader) (word : String) : Option Reader := do
  match ← Scalar.ofWord? word with
  | .bool value => r.give (.bool value)
  | .number numeral => r.give numeral.toData
  | .moment => r.give (.ofMembers [("moment", .text word)])

/-- A token where a value is due. -/
def stepValue (r : Reader) : Token → Option Reader
  | .blank _ => some r
  | .word text => some (r.expect (.word text))
  | .dot => some (r.expect (.word "."))
  | .text value => r.give (.text value)
  | .multilineText value => r.give (.text value)
  | .openBracket => r.push (.list []) .item
  | .openBrace => r.push (.table .empty []) .member
  | _ => none

/-- The end of a line, or a comment before it, inside a member of a table that is
written as a value; elsewhere a key, its equals sign and the value share a line. -/
def stepLineEnd (r : Reader) (expecting : Expecting) : Option Reader :=
  if r.isInTable then some (r.expect expecting) else none

/-- A token behind a finished value, on the outermost level or in a container. -/
def stepBehind (r : Reader) (token : Token) : Option Reader :=
  match r.expecting, token with
  | .lineEnd, .blank _ | .lineEnd, .comment => some r
  | .lineEnd, .newline => some (r.expect .line)
  | .itemEnd, .comma => some (r.expect .item)
  | .itemEnd, .closeBracket => r.closeList
  | .memberEnd, .comma => some (r.expect .member)
  | .memberEnd, .closeBrace => r.closeTable
  | .itemEnd, .blank _ | .itemEnd, .comment | .itemEnd, .newline => some r
  | .memberEnd, .blank _ | .memberEnd, .comment | .memberEnd, .newline => some r
  | _, _ => none

/-- A token behind a bare value, which it ends. -/
def endWord (r : Reader) (word : String) (token : Token) : Option Reader := do
  (← r.giveWord word).stepBehind token

/-- A token where a line starts. -/
def stepLine (r : Reader) (token : Token) : Option Reader :=
  match token with
  | .blank _ | .newline => some r
  | .comment => some (r.expect .lineEnd)
  | .openBracket => some (r.expect .headerStart)
  | _ => (key? token).map fun key => r.expect (.keyDot [key])

/-- A token where a key of a header is due. -/
def stepHeaderKey (r : Reader) (isDouble : Bool) (path : List String) (token : Token) :
    Option Reader :=
  match token with
  | .blank _ => some (r.expect (.headerKey isDouble path))
  | _ => (key? token).map fun key => r.expect (.headerDot isDouble (key :: path))

/-- One more token. -/
def step (r : Reader) (token : Token) : Option Reader :=
  match r.expecting with
  | .line => r.stepLine token
  | .lineEnd | .itemEnd | .memberEnd => r.stepBehind token
  | .headerStart =>
    match token with
    | .openBracket => some (r.expect (.headerKey true []))
    | _ => r.stepHeaderKey false [] token
  | .headerKey isDouble path => r.stepHeaderKey isDouble path token
  | .headerDot isDouble path =>
    match token with
    | .blank _ => some r
    | .dot => some (r.expect (.headerKey isDouble path))
    | .closeBracket =>
      if isDouble then some (r.expect (.headerEnd path)) else r.openTable ⟨false, path⟩
    | _ => none
  | .headerEnd path =>
    match token with
    | .closeBracket => r.openTable ⟨true, path⟩
    | _ => none
  | .key path =>
    match token with
    | .blank _ => some r
    | _ => (key? token).map fun key => r.expect (.keyDot (key :: path))
  | .keyDot path =>
    match token with
    | .blank _ => some r
    | .dot => some (r.expect (.key path))
    | .equals => r.givePath path
    | .newline | .comment => r.stepLineEnd (.equals path)
    | _ => none
  | .equals path =>
    match token with
    | .blank _ | .newline | .comment => some r
    | .equals => r.givePath path
    | _ => none
  | .value =>
    match token with
    | .newline | .comment => r.stepLineEnd .value
    | _ => r.stepValue token
  | .item =>
    match token with
    | .newline | .comment => some r
    | .closeBracket => r.closeList
    | _ => r.stepValue token
  | .member =>
    match token with
    | .blank _ | .newline | .comment => some r
    | .closeBrace => r.closeTable
    | _ => (key? token).map fun key => r.expect (.keyDot [key])
  | .word word =>
    match token with
    | .word text => some (r.expect (.word (word ++ text)))
    | .dot => some (r.expect (.word (word ++ ".")))
    | .blank " " =>
      if isDate word.toList then some (r.expect (.moment word)) else r.endWord word token
    | _ => r.endWord word token
  | .moment date =>
    match token with
    | .word text =>
      if text.toList.head?.any Char.isDigit then some (r.expect (.word (date ++ " " ++ text)))
      else none
    | _ => r.endWord date token

/-- The document when the tokens are at their end. -/
def finish (r : Reader) : Option Reader :=
  match r.expecting with
  | .line | .lineEnd => some r
  | .word word | .moment word => do
    let r ← r.giveWord word
    if r.expecting = .lineEnd then some r else none
  | _ => none

end Reader

/-- The tree of a text. -/
structure Document where
  root : Data TextFault

namespace Document

/-- The document of a text, if it is well formed. -/
def ofText? (text : String) : Option Document := do
  let tokens ← scan? text
  let reader ← tokens.foldlM Reader.step {}
  let reader ← reader.finish
  let root ← reader.settled?
  return ⟨root.toData⟩

/-- A list may be longer than the record it stands for, and what it holds beyond
the record does not matter. A value that nobody asks for still has to be sound. -/
def medium : Medium TextFault := { surplus := fun _ => none, skip := Data.skipAll }

/-- The tree of a document read. If it does not fit, a number without a readable
value, wherever it stands, is the graver fault. -/
def read {α : Type} (reader : Data TextFault → Reading TextFault α) (d : Document) :
    Reading TextFault α :=
  match reader d.root with
  | .error (.misfit why) =>
    if d.root.isSound then .error (.misfit why) else .error (.damage .malformed)
  | answer => answer

end Document

end MessageBundle.Toml

import MessageBundle.Data.Reading
import MessageBundle.Json.Token

/-!
# JSON documents

Tokens are put together from left to right. The containers that are still open
are kept on a stack, so that nesting has no bound. Where a text breaks off, what
was read of the open containers is kept, and each of them is cut.

## Main definitions

* `Document` — the tree of a text, with the fault that follows it if there is one
* `Document.ofBytes` — the document of a text
* `Document.read` — a document read by a reader of trees
-/

namespace MessageBundle.Json

/-- A member of a map. -/
abbrev Member := Except TextFault String × Data TextFault

/-- A container that is still open, with what it holds so far, the last first; a
map also has the key whose value is due. -/
inductive Frame
  | list (items : List (Data TextFault))
  | map (members : List Member) (key : Except TextFault String)

/-- What may come next. -/
inductive Expecting
  | value
  /-- A value or the end of the list. -/
  | item
  /-- A comma or the end of the container. -/
  | separator
  /-- A key or the end of the map. -/
  | firstKey
  | key
  | colon
  deriving DecidableEq, Repr

/-- A tree with what follows it: a fault, if anything does. -/
structure Document where
  root : Data TextFault
  trailing : Option TextFault

/-- A document under construction. -/
inductive Assembly
  | open (expecting : Expecting) (stack : List Frame)
  /-- The tree is complete. -/
  | complete (root : Data TextFault)
  /-- Nothing that follows matters. -/
  | closed (document : Document)

namespace Frame

/-- A frame with one more value. -/
def push (d : Data TextFault) : Frame → Frame
  | list items => list (d :: items)
  | map members key => map ((key, d) :: members) key

/-- The container of a frame, cut by a fault if there is one. -/
def toData (cut : Option TextFault) : Frame → Data TextFault
  | list items => .list items.reverse cut
  | map members _ => .map members.reverse cut

end Frame

namespace Assembly

/-- A value put in its place. -/
def give (d : Data TextFault) : List Frame → Assembly
  | [] => complete d
  | frame :: stack => .open .separator (frame.push d :: stack)

/-- The innermost container ended. -/
def close : List Frame → Assembly
  | [] => closed ⟨.null, some .malformed⟩
  | frame :: stack => give (frame.toData none) stack

/-- All open containers cut by a fault, from the inside out; `inner` is what the
fault was met in. -/
def cutAll (fault : TextFault) (inner : Data TextFault) : List Frame → Data TextFault
  | [] => inner
  | frame :: stack => cutAll fault ((frame.push inner).toData (some fault)) stack

/-- The document of a text in which a value broke off: reading the value and
passing over it meet these faults. -/
def breakInValue (onReading onSkipping : TextFault) (stack : List Frame) : Document :=
  ⟨cutAll onSkipping (.flaw onReading (some onSkipping)) stack, none⟩

/-- The document of a text in which a container broke off between its values. -/
def breakBetween (fault : TextFault) : List Frame → Document
  | [] => ⟨.flaw fault (some fault), none⟩
  | frame :: stack => ⟨cutAll fault (frame.toData (some fault)) stack, none⟩

/-- The document of a text in which a key broke off. -/
def breakInKey (onReading onSkipping : TextFault) : List Frame → Document
  | .map members _ :: stack =>
    let key : Member := (.error onReading, .flaw onReading (some onSkipping))
    ⟨cutAll onSkipping (.map (key :: members).reverse (some onSkipping)) stack, none⟩
  | stack => breakBetween onSkipping stack

/-- A key whose value is due. -/
def giveKey (key : Except TextFault String) : List Frame → Assembly
  | .map members _ :: stack => .open .colon (.map members key :: stack)
  | stack => closed (breakBetween .malformed stack)

/-- A token where a value is due. -/
def stepValue (stack : List Frame) : Token → Assembly
  | .openList => .open .item (.list [] :: stack)
  | .openMap => .open .firstKey (.map [] (.ok "") :: stack)
  | .text (.ok value) => give (.text value) stack
  | .text (.error fault) => give (.flaw fault none) stack
  | .scalar d => give d stack
  | .brokenText onReading onSkipping => closed (breakInValue onReading onSkipping stack)
  | .broken onReading onSkipping => closed (breakInValue onReading onSkipping stack)
  | .closeList | .closeMap | .comma | .colon => closed (breakInValue .malformed .malformed stack)

/-- A token where a key is due. -/
def stepKey (stack : List Frame) : Token → Assembly
  | .text key => giveKey key stack
  | .brokenText onReading onSkipping => closed (breakInKey onReading onSkipping stack)
  | _ => closed (breakBetween .malformed stack)

/-- A token behind a value in a container. -/
def stepSeparator (stack : List Frame) (token : Token) : Assembly :=
  match token, stack with
  | .comma, .list _ :: _ => .open .value stack
  | .closeList, .list _ :: _ => close stack
  | .comma, .map .. :: _ => .open .key stack
  | .closeMap, .map .. :: _ => close stack
  | _, _ => closed (breakBetween .malformed stack)

/-- One more token. -/
def step (a : Assembly) (token : Token) : Assembly :=
  match a with
  | .open .value stack => stepValue stack token
  | .open .item stack =>
    match token with
    | .closeList => close stack
    | _ => stepValue stack token
  | .open .separator stack => stepSeparator stack token
  | .open .firstKey stack =>
    match token with
    | .closeMap => close stack
    | _ => stepKey stack token
  | .open .key stack => stepKey stack token
  | .open .colon stack =>
    match token with
    | .colon => .open .value stack
    | _ => closed (breakInValue .malformed .malformed stack)
  | .complete root => closed ⟨root, some .malformed⟩
  | .closed document => closed document

/-- The document when the tokens are at their end. -/
def finish : Assembly → Document
  | .open .value stack | .open .colon stack => breakInValue .truncated .truncated stack
  | .open _ stack => breakBetween .truncated stack
  | .complete root => ⟨root, none⟩
  | .closed document => document

end Assembly

namespace Document

/-- The document of a text, given as bytes. -/
def ofBytes (bytes : List UInt8) : Document :=
  ((scan bytes).foldl Assembly.step (.open .value [])).finish

/-- A list that is too long for its record is a fault of the text. -/
def medium : Medium TextFault :=
  { skip := Data.skip, surplus := fun _ => some (.damage .malformed) }

/-- The tree read, and then nothing may follow it. -/
def read {α : Type} (reader : Data TextFault → Reading TextFault α) (d : Document) :
    Reading TextFault α := do
  let value ← reader d.root
  Data.checkCut d.trailing
  return value

end Document

end MessageBundle.Json

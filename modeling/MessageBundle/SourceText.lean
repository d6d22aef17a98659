/-!
# Source text laid out by nesting

Generated source is described by pieces: lines, blank lines, indented groups and
blocks. A writer turns pieces into text. It keeps the depth of the place it
writes at; a line is indented by three spaces for each level, unless it is
empty, and always ends in a line feed.

## Main definitions

* `Piece` — what can be written
* `Writer` — the text so far and the depth
* `Piece.write`, `render` — pieces written at a place, and from an empty page
* `Piece.lines` — the lines a piece stands for at a depth, without writing
-/

namespace MessageBundle.SourceText

/-- A part of a source text. -/
inductive Piece
  /-- One line of text. -/
  | line (text : String)
  /-- One empty line. -/
  | blank
  /-- Pieces one level deeper. -/
  | indented (body : List Piece)
  /-- Pieces one level deeper between two lines. -/
  | block (opening closing : String) (body : List Piece)

/-- The indentation of one level. -/
def indent : String := "   "

/-- The text written so far and the depth at which the next line stands. -/
structure Writer where
  text : String
  depth : Nat
  deriving DecidableEq, Repr

/-- The indentation of a number of levels. -/
def indentBy : Nat → String
  | 0 => ""
  | depth + 1 => indent ++ indentBy depth

/-- A line as it stands at a depth: an empty one is not indented. -/
def atDepth (depth : Nat) (text : String) : String :=
  if text = "" then "" else indentBy depth ++ text

namespace Writer

/-- Nothing written yet, at the outermost level. -/
def empty : Writer := ⟨"", 0⟩

/-- One more line at the writer's depth. -/
def line (text : String) (w : Writer) : Writer :=
  { w with text := w.text ++ atDepth w.depth text ++ "\n" }

/-- A step inwards. -/
def deeper (w : Writer) : Writer := { w with depth := w.depth + 1 }

/-- A step outwards. -/
def shallower (w : Writer) : Writer := { w with depth := w.depth - 1 }

end Writer

mutual

/-- One piece written at the writer's place. -/
def Piece.write : Piece → Writer → Writer
  | .line text, w => w.line text
  | .blank, w => w.line ""
  | .indented body, w => (writeAll body w.deeper).shallower
  | .block opening closing body, w =>
    ((writeAll body (w.line opening).deeper).shallower).line closing

/-- Pieces written one after another. -/
def writeAll : List Piece → Writer → Writer
  | [], w => w
  | piece :: rest, w => writeAll rest (piece.write w)

end

/-- The text of pieces written on an empty page. -/
def render (pieces : List Piece) : String := (writeAll pieces .empty).text

mutual

/-- The lines of one piece at a depth. -/
def Piece.lines (depth : Nat) : Piece → List String
  | .line text => [atDepth depth text]
  | .blank => [""]
  | .indented body => linesOf (depth + 1) body
  | .block opening closing body =>
    atDepth depth opening :: linesOf (depth + 1) body ++ [atDepth depth closing]

/-- The lines of pieces at a depth. -/
def linesOf (depth : Nat) : List Piece → List String
  | [] => []
  | piece :: rest => piece.lines depth ++ linesOf depth rest

end

end MessageBundle.SourceText

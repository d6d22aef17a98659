import Mathlib.Data.List.Basic
import MessageBundle.Proofs.SourceText.Difference

/-!
# Lines by their nesting

A writer keeps a depth of its own, and a piece moves it inwards and back. What comes out of
that can be told without a writer: each text of the pieces stands on a line of its own, in
the order of the pieces, and the number of groups around it tells how far it is indented.
So the depth of a writer is nothing but the number of groups it is in, and no line is
indented that has no text. A line that is put together from parts is a line like any other.

## Main definitions

* `Placed` — a text with the number of groups around it, and the line it makes
* `Piece.placed`, `placedAll` — the texts of pieces with their places
* `EndsInSpace` — the last character is a space

## Main results

* `linesOf_eq_map` — the lines of pieces are those of their texts
* `laid_out_by_nesting` — pieces leave the depth as it was, and their text has one line for
  each of their texts
-/

namespace MessageBundle.SourceText

/-- A text with the number of indented groups and blocks around it. -/
structure Placed where
  depth : Nat
  text : String
  deriving DecidableEq, Repr

namespace Placed

/-- The text with one more group around it. -/
def within (p : Placed) : Placed := { p with depth := p.depth + 1 }

/-- Three spaces for each group, then the text; nothing at all if there is no text. -/
def line (p : Placed) : String :=
  if p.text = "" then "" else String.ofList (List.replicate (3 * p.depth) ' ') ++ p.text

@[simp] theorem within_depth (p : Placed) : p.within.depth = p.depth + 1 := rfl

end Placed

mutual

/-- The texts of a piece, each with its place. -/
def Piece.placed : Piece → List Placed
  | .line text => [⟨0, text⟩]
  | .blank => [⟨0, ""⟩]
  | .indented body => (placedAll body).map Placed.within
  | .block opening closing body =>
    ⟨0, opening⟩ :: (placedAll body).map Placed.within ++ [⟨0, closing⟩]

/-- The texts of pieces one after another, each with its place. -/
def placedAll : List Piece → List Placed
  | [] => []
  | piece :: rest => piece.placed ++ placedAll rest

end

/-- The last character of the text is a space. -/
def EndsInSpace (s : String) : Prop := s.toList.getLast? = some ' '

instance (s : String) : Decidable (EndsInSpace s) :=
  inferInstanceAs (Decidable (s.toList.getLast? = some ' '))

/-! ### The line of a text -/

section Line

variable {p : Placed}

theorem indentBy_toList (depth : Nat) :
    (indentBy depth).toList = List.replicate (3 * depth) ' ' := by
  induction depth with
  | zero => rfl
  | succ depth ih =>
    have hspaces : 3 * (depth + 1) = 3 + 3 * depth := by omega
    rw [indentBy, String.toList_append, ih, hspaces, List.replicate_add]
    rfl

/-- The indentation is three spaces for each level. -/
theorem Placed.line_eq (p : Placed) : p.line = atDepth p.depth p.text := by
  have hindent : String.ofList (List.replicate (3 * p.depth) ' ') = indentBy p.depth := by
    rw [← indentBy_toList, String.ofList_toList]
  rw [Placed.line, atDepth, hindent]

theorem Placed.feed_notMem_line (h : '\n' ∉ p.text.toList) : '\n' ∉ p.line.toList := by
  rw [Placed.line]
  split
  · exact List.not_mem_nil
  · simp [h, List.mem_replicate]

/-- A line ends as its text does, since a line without text has no space in it. -/
theorem Placed.endsInSpace_line_iff : EndsInSpace p.line ↔ EndsInSpace p.text := by
  rw [Placed.line]
  split
  next hempty => rw [hempty]
  next hne =>
    have htext : p.text.toList ≠ [] := mt String.toList_eq_nil_iff.mp hne
    rw [EndsInSpace, EndsInSpace, String.toList_append, List.getLast?_append_of_ne_nil _ htext]

end Line

/-! ### The lines of pieces -/

/-- A group around texts is one level more for all of them. -/
theorem map_within (depth : Nat) (ps : List Placed) :
    ((ps.map Placed.within).map fun p => atDepth (depth + p.depth) p.text) =
      ps.map fun p => atDepth (depth + 1 + p.depth) p.text := by
  rw [List.map_map]
  refine List.map_congr_left fun p _ => ?_
  have hdepth : depth + p.within.depth = depth + 1 + p.depth := by
    rw [Placed.within_depth]
    omega
  exact congrArg (atDepth · p.text) hdepth

mutual

theorem Piece.lines_eq_map : ∀ (piece : Piece) (depth : Nat),
    piece.lines depth = piece.placed.map fun p => atDepth (depth + p.depth) p.text
  | .line text, depth => rfl
  | .blank, depth => rfl
  | .indented body, depth => by
    rw [Piece.lines, Piece.placed, map_within, linesOf_eq_map body]
  | .block opening closing body, depth => by
    rw [Piece.lines, Piece.placed, List.map_append, List.map_cons, map_within,
      linesOf_eq_map body]
    rfl

/-- The lines of pieces at a depth are those of their texts, each as deep as the groups around
it make it. -/
theorem linesOf_eq_map : ∀ (pieces : List Piece) (depth : Nat),
    linesOf depth pieces = (placedAll pieces).map fun p => atDepth (depth + p.depth) p.text
  | [], depth => rfl
  | piece :: rest, depth => by
    rw [linesOf, placedAll, Piece.lines_eq_map piece, linesOf_eq_map rest, List.map_append]

end

/-- From an empty page, each text makes its line. -/
theorem linesOf_zero_eq (pieces : List Piece) :
    linesOf 0 pieces = (placedAll pieces).map Placed.line := by
  rw [linesOf_eq_map]
  refine List.map_congr_left fun p _ => ?_
  rw [Nat.zero_add, p.line_eq]

/-- Texts without a line feed make one line each. -/
theorem pieces_render_of_notMem {pieces : List Piece}
    (h : ∀ p ∈ placedAll pieces, '\n' ∉ p.text.toList) :
    Text.pieces '\n' (render pieces) = (placedAll pieces).map Placed.line ++ [""] := by
  rw [pieces_render, linesOf_zero_eq, List.flatMap_map]
  refine congrArg (· ++ [""]) ?_
  have hline : ∀ p ∈ placedAll pieces, Text.pieces '\n' p.line = [p.line] := by
    intro p hp
    exact Text.pieces_of_notMem (Placed.feed_notMem_line (h p hp))
  rw [List.flatMap_congr hline]
  exact List.map_eq_flatMap.symm

/-- Writing a piece, and so writing pieces one after another, comes back to the depth of the
writer; a group writes its pieces one level deeper, so that its step outwards always has a
level to leave. The text of pieces without a line feed in them has one line for each of their
texts, in their order: three spaces for each group around the text and then the text, or
nothing if there is none. Each line is ended, so that nothing stands behind the last line
feed. If no text ends in a space, no line does. -/
theorem laid_out_by_nesting :
    (∀ (piece : Piece) (w : Writer), (piece.write w).depth = w.depth) ∧
    (∀ (pieces : List Piece) (w : Writer), (writeAll pieces w).depth = w.depth ∧
      (writeAll pieces w.deeper).shallower.depth + 1 = (writeAll pieces w.deeper).depth) ∧
    ∀ pieces : List Piece, (∀ p ∈ placedAll pieces, '\n' ∉ p.text.toList) →
      Text.pieces '\n' (render pieces) = (placedAll pieces).map Placed.line ++ [""] ∧
      ((∀ p ∈ placedAll pieces, ¬EndsInSpace p.text) →
        ∀ line ∈ Text.pieces '\n' (render pieces), ¬EndsInSpace line) := by
  refine ⟨fun piece w => (write_spec piece w).2, fun pieces w => ⟨(writeAll_spec pieces w).2, ?_⟩,
    fun pieces hfeed => ?_⟩
  · have hdeeper : (writeAll pieces w.deeper).depth = w.depth + 1 := (writeAll_spec pieces _).2
    show (writeAll pieces w.deeper).depth - 1 + 1 = (writeAll pieces w.deeper).depth
    omega
  · have hlines := pieces_render_of_notMem hfeed
    refine ⟨hlines, ?_⟩
    intro hspace line hline
    rw [hlines, List.mem_append, List.mem_map] at hline
    rcases hline with ⟨p, hp, rfl⟩ | hlast
    · rw [Placed.endsInSpace_line_iff]
      exact hspace p hp
    · rw [List.mem_singleton.mp hlast]
      decide

/-- A class with a method in it: the body of the method stands two levels deep, and the empty
line between the members has no space in it. -/
def nestedPieces : List Piece :=
  [.line "package a;", .blank,
    .block "class A \x7b" "\x7d"
      [.line "int x;", .blank, .block "void m() \x7b" "\x7d" [.indented [.line "n();", .line ""]]]]

/-- The lines of these pieces, and none of them ends in a space. -/
theorem laid_out_by_nesting_two_levels :
    (∀ p ∈ placedAll nestedPieces, '\n' ∉ p.text.toList ∧ ¬EndsInSpace p.text) ∧
    Text.pieces '\n' (render nestedPieces) =
      ["package a;", "", "class A \x7b", "   int x;", "", "   void m() \x7b", "         n();", "",
        "   \x7d", "\x7d", ""] ∧
    ∀ line ∈ Text.pieces '\n' (render nestedPieces), ¬EndsInSpace line := by
  have htexts : ∀ p ∈ placedAll nestedPieces, '\n' ∉ p.text.toList ∧ ¬EndsInSpace p.text := by
    decide
  obtain ⟨hlines, hspace⟩ :=
    laid_out_by_nesting.2.2 nestedPieces fun p hp => (htexts p hp).1
  refine ⟨htexts, ?_, hspace fun p hp => (htexts p hp).2⟩
  rw [hlines]
  decide

end MessageBundle.SourceText

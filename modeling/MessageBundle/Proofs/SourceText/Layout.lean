import MessageBundle.SourceText

/-!
# Written text and its lines

A writer produces text piece by piece while `Piece.lines` describes the lines directly.
Writing a piece appends exactly its lines, each ended by a line feed, and leaves the
writer at the depth where it was; so the text of pieces is that of their lines.

## Main definitions

* `asText` — lines as the characters of a text

## Main results

* `linesOf_append`, `linesOf_flatMap` — the lines of pieces in a row
* `writeAll_spec` — what writing pieces appends and keeps
* `render_toList` — the text of pieces is that of their lines
* `infix_render` — what stands on a line stands in the text
-/

namespace MessageBundle.SourceText

/-- Lines as the characters of a text: each is ended by a line feed. -/
def asText (lines : List String) : List Char := lines.flatMap fun line => line.toList ++ ['\n']

theorem asText_append (before after : List String) :
    asText (before ++ after) = asText before ++ asText after := List.flatMap_append

theorem asText_cons (line : String) (rest : List String) :
    asText (line :: rest) = line.toList ++ '\n' :: asText rest := by
  rw [asText, List.flatMap_cons, List.append_assoc, List.singleton_append, asText]

/-- A line that is not within anything stands as it is. -/
theorem atDepth_zero (text : String) : atDepth 0 text = text := by
  rw [atDepth]
  split
  next hempty => rw [hempty]
  next => exact String.empty_append

variable {α : Type}

theorem asText_flatMap (f : α → List String) (xs : List α) :
    asText (xs.flatMap f) = (xs.map fun x => asText (f x)).flatten := by
  rw [asText, List.flatMap_assoc, List.flatMap_def]
  rfl

theorem linesOf_append (depth : Nat) (before after : List Piece) :
    linesOf depth (before ++ after) = linesOf depth before ++ linesOf depth after := by
  induction before with
  | nil => rfl
  | cons piece rest ih => rw [List.cons_append, linesOf, linesOf, ih, List.append_assoc]

theorem linesOf_flatMap (depth : Nat) (f : α → List Piece) (xs : List α) :
    linesOf depth (xs.flatMap f) = xs.flatMap fun x => linesOf depth (f x) := by
  induction xs with
  | nil => rfl
  | cons x rest ih => rw [List.flatMap_cons, linesOf_append, ih, List.flatMap_cons]

theorem line_text (text : String) (w : Writer) :
    (w.line text).text.toList = w.text.toList ++ asText [atDepth w.depth text] := by
  rw [Writer.line, String.toList_append, String.toList_append, asText_cons, List.append_assoc]
  rfl

mutual

/-- Writing a piece appends its lines and comes back to the depth of the writer. -/
theorem write_spec : ∀ (piece : Piece) (w : Writer),
    (piece.write w).text.toList = w.text.toList ++ asText (piece.lines w.depth) ∧
      (piece.write w).depth = w.depth
  | .line text, w => ⟨line_text text w, rfl⟩
  | .blank, w => ⟨line_text "" w, rfl⟩
  | .indented body, w => by
    obtain ⟨htext, hdepth⟩ := writeAll_spec body w.deeper
    rw [Piece.write, Piece.lines]
    refine ⟨htext, ?_⟩
    rw [Writer.shallower, hdepth]
    rfl
  | .block opening closing body, w => by
    obtain ⟨htext, hdepth⟩ := writeAll_spec body (w.line opening).deeper
    have hback : (writeAll body (w.line opening).deeper).shallower.depth = w.depth := by
      rw [Writer.shallower, hdepth]
      rfl
    rw [Piece.write, Piece.lines]
    refine ⟨?_, hback⟩
    -- the opening line, then the body one level deeper
    have hbody : (writeAll body (w.line opening).deeper).text.toList =
        w.text.toList ++ asText (atDepth w.depth opening :: linesOf (w.depth + 1) body) := by
      rw [htext, ← List.singleton_append, asText_append, ← List.append_assoc, ← line_text]
      rfl
    rw [line_text, hback, asText_append, ← List.append_assoc, ← hbody]
    rfl

/-- Writing pieces appends their lines and comes back to the depth of the writer. -/
theorem writeAll_spec : ∀ (pieces : List Piece) (w : Writer),
    (writeAll pieces w).text.toList = w.text.toList ++ asText (linesOf w.depth pieces) ∧
      (writeAll pieces w).depth = w.depth
  | [], w => by
    rw [writeAll, linesOf]
    exact ⟨(List.append_nil _).symm, rfl⟩
  | piece :: rest, w => by
    obtain ⟨htext, hdepth⟩ := write_spec piece w
    obtain ⟨hrest, hrestDepth⟩ := writeAll_spec rest (piece.write w)
    rw [writeAll, linesOf]
    refine ⟨?_, hrestDepth.trans hdepth⟩
    rw [hrest, htext, hdepth, asText_append, List.append_assoc]

end

theorem render_toList (pieces : List Piece) : (render pieces).toList = asText (linesOf 0 pieces) :=
  (writeAll_spec pieces .empty).1

/-- What stands on a line of pieces stands in their text. -/
theorem infix_render {pieces : List Piece} {line : String} {cs : List Char}
    (hline : line ∈ linesOf 0 pieces) (hwithin : cs <:+: line.toList) :
    cs <:+: (render pieces).toList := by
  obtain ⟨before, after, hplace⟩ := List.append_of_mem hline
  rw [render_toList, hplace, asText_append, asText_cons]
  refine hwithin.trans (List.IsInfix.trans ?_ (List.suffix_append _ _).isInfix)
  exact (List.prefix_append _ _).isInfix

end MessageBundle.SourceText

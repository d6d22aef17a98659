import MessageBundle.Proofs.SourceText.Layout
import MessageBundle.Text.Cut

/-!
# Texts that differ in places

Two texts are compared line by line. They may differ in places: in each place one text stands
in the first and another one in the second, on lines that are otherwise the same. Lines that
differ in places belong to texts that differ in the same places as long as nothing in a place
ends a line; what else stands on the lines may hold line feeds, and both texts break there.

## Main definitions

* `DiffersAt` — lines that are the same but for some places, which are listed

## Main results

* `DiffersAt.length_eq` — places make no line more and none less
* `pieces_render` — the lines of a text that is laid out by nesting
* `DiffersAt.flatMap_pieces` — places of lines are places of the text
* `DiffersAt.filter_asText` — characters that stand in no place are the same in both texts
-/

namespace MessageBundle.SourceText

/-- Lines that are the same one by one, but for the listed places: there the first text of a
pair stands on a line and the second one on the other line, with the same in front of it and
the same behind it. -/
inductive DiffersAt : List (String × String) → List String → List String → Prop
  | nil : DiffersAt [] [] []
  | same (line : String) {places : List (String × String)} {lines others : List String}
      (rest : DiffersAt places lines others) : DiffersAt places (line :: lines) (line :: others)
  | changed (front back text other : String) {places : List (String × String)}
      {lines others : List String} (rest : DiffersAt places lines others) :
      DiffersAt ((text, other) :: places) ((front ++ text ++ back) :: lines)
        ((front ++ other ++ back) :: others)

namespace DiffersAt

variable {places more : List (String × String)} {lines others after behind : List String}

theorem refl (lines : List String) : DiffersAt [] lines lines := by
  induction lines with
  | nil => exact .nil
  | cons line rest ih => exact .same line ih

theorem append (h : DiffersAt places lines others) (h' : DiffersAt more after behind) :
    DiffersAt (places ++ more) (lines ++ after) (others ++ behind) := by
  induction h with
  | nil => exact h'
  | same line _ ih => exact .same line ih
  | changed front back text other _ ih => exact .changed front back text other ih

/-- A place on a line leaves it one line. -/
theorem length_eq (h : DiffersAt places lines others) : lines.length = others.length := by
  induction h with
  | nil => rfl
  | same line _ ih => rw [List.length_cons, List.length_cons, ih]
  | changed front back text other _ ih => rw [List.length_cons, List.length_cons, ih]

/-- A place on a line that is indented. -/
theorem line {text other : String} (h : text ≠ "") (h' : other ≠ "") (depth : Nat)
    (front back : String) :
    DiffersAt [(text, other)] [atDepth depth (front ++ text ++ back)]
      [atDepth depth (front ++ other ++ back)] := by
  have hindented {s : String} (hs : s ≠ "") :
      atDepth depth (front ++ s ++ back) = indentBy depth ++ front ++ s ++ back := by
    have hne : front ++ s ++ back ≠ "" := by simp [hs]
    rw [atDepth, if_neg hne, ← String.append_assoc, ← String.append_assoc]
  rw [hindented h, hindented h']
  exact .changed _ _ _ _ .nil

/-- A place that is a line of its own. -/
theorem wholeLine {text other : String} (h : text ≠ "") (h' : other ≠ "") (depth : Nat) :
    DiffersAt [(text, other)] [atDepth depth text] [atDepth depth other] := by
  have hplace := DiffersAt.line h h' depth "" ""
  rwa [String.empty_append, String.empty_append, String.append_empty, String.append_empty]
    at hplace

/-- A place that ends no line is a place of the text whose lines are taken apart. -/
theorem flatMap_pieces (h : DiffersAt places lines others)
    (hplaces : ∀ place ∈ places, '\n' ∉ place.1.toList ∧ '\n' ∉ place.2.toList) :
    DiffersAt places (lines.flatMap (Text.pieces '\n')) (others.flatMap (Text.pieces '\n')) := by
  induction h with
  | nil => exact .nil
  | same line _ ih =>
    rw [List.flatMap_cons, List.flatMap_cons]
    exact (DiffersAt.refl _).append (ih hplaces)
  | changed front back text other _ ih =>
    rw [List.forall_mem_cons] at hplaces
    obtain ⟨⟨htext, hother⟩, hrest⟩ := hplaces
    -- the lines before the place and those behind it are the same in both texts
    obtain ⟨init, last, head, tail, haround⟩ := Text.exists_pieces_around '\n' front back
    have hplace : DiffersAt [(text, other)] (Text.pieces '\n' (front ++ text ++ back))
        (Text.pieces '\n' (front ++ other ++ back)) := by
      rw [haround text htext, haround other hother]
      exact (DiffersAt.refl init).append (.changed last head text other (.refl tail))
    rw [List.flatMap_cons, List.flatMap_cons]
    exact hplace.append (ih hrest)

/-- Characters that stand in no place are the same in both texts. -/
theorem filter_asText (h : DiffersAt places lines others) {p : Char → Bool}
    (hplaces : ∀ place ∈ places,
      (∀ c ∈ place.1.toList, p c = false) ∧ ∀ c ∈ place.2.toList, p c = false) :
    (asText lines).filter p = (asText others).filter p := by
  have hfree {s : String} (hs : ∀ c ∈ s.toList, p c = false) : s.toList.filter p = [] :=
    List.filter_eq_nil_iff.mpr fun c hc => Bool.not_eq_true _ ▸ hs c hc
  induction h with
  | nil => rfl
  | same line _ ih =>
    rw [asText_cons, asText_cons, List.filter_append, List.filter_append, List.filter_cons,
      List.filter_cons, ih hplaces]
  | changed front back text other _ ih =>
    rw [List.forall_mem_cons] at hplaces
    obtain ⟨⟨htext, hother⟩, hrest⟩ := hplaces
    simp only [asText_cons, String.toList_append, List.filter_append, List.filter_cons,
      hfree htext, hfree hother, ih hrest]

end DiffersAt

/-! ### The lines of a text -/

theorem splitOn_asText (lines : List String) :
    (asText lines).splitOn '\n' = lines.flatMap (fun line => line.toList.splitOn '\n') ++ [[]] := by
  induction lines with
  | nil => rfl
  | cons line rest ih =>
    rw [asText_cons, List.splitOn_append_cons_self, ih, List.flatMap_cons, List.append_assoc]

/-- The lines of a text that is laid out: those of each line that was written, and what stands
behind the last line feed, which is nothing. -/
theorem pieces_render (pieces : List Piece) :
    Text.pieces '\n' (render pieces) =
      (linesOf 0 pieces).flatMap (Text.pieces '\n') ++ [""] := by
  rw [Text.pieces, render_toList, splitOn_asText, List.map_append, List.map_flatMap]
  rfl

end MessageBundle.SourceText

/-!
# Cutting a text at a character

`cutLast?` takes a text apart at the last occurrence of a character, and
`pieces` at every occurrence.

## Main results

* `cutLast?_eq_none_iff` — there is no cut exactly when the character is absent
* `append_of_cutLast?` — the two parts around the character give the text back
* `notMem_of_cutLast?` — the part after the cut is free of the character
* `cutLast?_append_cons` — the cut of a text that is put together around the character
* `intercalate_pieces` — the pieces tell the text
* `pieces_of_toList_eq` — the pieces before an occurrence and the pieces behind it
* `mem_splitOn_spec` — a piece is free of the character and part of the text
* `splitOn_around`, `splitOn_append_of_notMem` — a text without the character belongs to one
  piece of the text it is put into, or behind
* `append_eq_append_iff` — a text put together in two ways
-/

namespace MessageBundle.Text

/-- The parts before and after the last `mark`, if there is one. -/
def cutLast? (mark : Char) : List Char → Option (List Char × List Char)
  | [] => none
  | c :: cs =>
    match cutLast? mark cs with
    | some (before, after) => some (c :: before, after)
    | none => if c = mark then some ([], cs) else none

/-- The texts between the occurrences of `mark`, the empty ones included. -/
def pieces (mark : Char) (s : String) : List String :=
  (s.toList.splitOn mark).map String.ofList

theorem cutLast?_eq_none_iff {mark : Char} {cs : List Char} :
    cutLast? mark cs = none ↔ mark ∉ cs := by
  induction cs with
  | nil => simp [cutLast?]
  | cons c cs ih =>
    cases h : cutLast? mark cs with
    | none =>
      by_cases hc : c = mark
      · simp [cutLast?, h, hc]
      · have hmem := ih.1 h
        simp [cutLast?, h, hc, hmem, Ne.symm hc]
    | some parts =>
      have hmem : mark ∈ cs := by
        by_cases hm : mark ∈ cs
        · exact hm
        · rw [ih.2 hm] at h; cases h
      simp [cutLast?, h, hmem]

theorem append_of_cutLast? {mark : Char} {cs before after : List Char}
    (h : cutLast? mark cs = some (before, after)) : before ++ mark :: after = cs := by
  induction cs generalizing before after with
  | nil => simp [cutLast?] at h
  | cons c cs ih =>
    cases hrest : cutLast? mark cs with
    | none =>
      simp only [cutLast?, hrest] at h
      split at h
      next hc => cases h; simp [hc]
      next => cases h
    | some parts =>
      obtain ⟨b, a⟩ := parts
      simp only [cutLast?, hrest] at h
      cases h
      simp [ih hrest]

theorem notMem_of_cutLast? {mark : Char} {cs before after : List Char}
    (h : cutLast? mark cs = some (before, after)) : mark ∉ after := by
  induction cs generalizing before after with
  | nil => simp [cutLast?] at h
  | cons c cs ih =>
    cases hrest : cutLast? mark cs with
    | none =>
      simp only [cutLast?, hrest] at h
      split at h
      next => cases h; exact cutLast?_eq_none_iff.1 hrest
      next => cases h
    | some parts =>
      obtain ⟨b, a⟩ := parts
      simp only [cutLast?, hrest] at h
      cases h
      exact ih hrest

/-- In front of text without the character, an occurrence is the last one. -/
theorem cutLast?_append_cons {mark : Char} {after : List Char} (h : mark ∉ after)
    (before : List Char) : cutLast? mark (before ++ mark :: after) = some (before, after) := by
  induction before with
  | nil => simp [cutLast?, cutLast?_eq_none_iff.mpr h]
  | cons c before ih => simp [cutLast?, ih]

/-! ### Pieces -/

/-- A text is made of its pieces with the character between them. -/
theorem intercalate_pieces (mark : Char) (s : String) :
    (String.singleton mark).intercalate (pieces mark s) = s := by
  have hpieces : (pieces mark s).map String.toList = s.toList.splitOn mark := by
    rw [pieces, List.map_map]
    exact List.map_id'' (fun _ => String.toList_ofList) _
  rw [← String.toList_inj, String.toList_intercalate, hpieces, String.toList_singleton,
    List.intercalate_splitOn]

theorem pieces_of_notMem {mark : Char} {s : String} (h : mark ∉ s.toList) :
    pieces mark s = [s] := by
  rw [pieces, List.splitOn_eq_singleton h, List.map_singleton, String.ofList_toList]

/-- Around a mark stand the pieces before it and the pieces behind it. -/
theorem pieces_of_toList_eq {mark : Char} {s : String} {before after : List Char}
    (h : s.toList = before ++ mark :: after) :
    pieces mark s = pieces mark (String.ofList before) ++ pieces mark (String.ofList after) := by
  simp only [pieces, h, List.splitOn_append_cons_self, List.map_append, String.toList_ofList]

/-- A piece is free of the mark, and its characters stand in the text in their order. -/
theorem mem_splitOn_spec {mark : Char} {cs piece : List Char} (h : piece ∈ cs.splitOn mark) :
    mark ∉ piece ∧ piece.Sublist cs := by
  induction cs generalizing piece with
  | nil =>
    rw [List.splitOn_nil, List.mem_singleton] at h
    subst h
    exact ⟨List.not_mem_nil, List.Sublist.refl []⟩
  | cons c cs ih =>
    rw [List.splitOn_cons_eq_if_modifyHead] at h
    by_cases hc : c = mark
    · rw [if_pos (beq_iff_eq.mpr hc)] at h
      rcases List.mem_cons.mp h with rfl | hrest
      · exact ⟨List.not_mem_nil, List.nil_sublist _⟩
      · exact ⟨(ih hrest).1, (ih hrest).2.cons c⟩
    · rw [if_neg (mt beq_iff_eq.mp hc)] at h
      cases hsplit : cs.splitOn mark with
      | nil => exact absurd hsplit (List.splitOn_ne_nil mark cs)
      | cons head tail =>
        rw [hsplit] at h ih
        -- the character belongs to the first piece, and the others stay as they are
        rcases List.mem_cons.mp h with rfl | hrest
        · have hhead := ih List.mem_cons_self
          have hfree : mark ∉ c :: head := fun hmem =>
            (List.mem_cons.mp hmem).elim (fun heq => hc heq.symm) hhead.1
          exact ⟨hfree, hhead.2.cons_cons c⟩
        · have hpiece := ih (List.mem_cons_of_mem head hrest)
          exact ⟨hpiece.1, hpiece.2.cons c⟩

/-- A text without a mark belongs to one piece, with the end of what stands before it and the
start of what stands behind it. -/
theorem splitOn_around (mark : Char) (front back : List Char) :
    ∃ init last head tail, front.splitOn mark = init ++ [last] ∧ back.splitOn mark = head :: tail ∧
      ∀ text, mark ∉ text →
        (front ++ (text ++ back)).splitOn mark = init ++ (last ++ (text ++ head)) :: tail := by
  induction front with
  | nil =>
    obtain ⟨head, tail, hback⟩ := List.exists_cons_of_ne_nil (List.splitOn_ne_nil mark back)
    refine ⟨[], [], head, tail, List.splitOn_nil mark, hback, fun text htext => ?_⟩
    induction text with
    | nil => exact hback
    | cons c text ih =>
      rw [List.mem_cons, not_or] at htext
      have hc : ¬(c == mark) = true := fun heq => htext.1 (beq_iff_eq.mp heq).symm
      rw [List.nil_append, List.cons_append, List.splitOn_cons_eq_if_modifyHead, if_neg hc]
      exact congrArg (List.modifyHead (c :: ·)) (ih htext.2)
  | cons c front ih =>
    obtain ⟨init, last, head, tail, hfront, hback, haround⟩ := ih
    -- the character is a mark, or it belongs to the first piece of what stands in front
    by_cases hc : (c == mark) = true
    · refine ⟨[] :: init, last, head, tail, ?_, hback, fun text htext => ?_⟩
      · rw [List.splitOn_cons_eq_if_modifyHead, if_pos hc, hfront, List.cons_append]
      · rw [List.cons_append, List.splitOn_cons_eq_if_modifyHead, if_pos hc, haround text htext,
          List.cons_append]
    · cases init with
      | nil =>
        refine ⟨[], c :: last, head, tail, ?_, hback, fun text htext => ?_⟩
        · rw [List.splitOn_cons_eq_if_modifyHead, if_neg hc, hfront]
          rfl
        · rw [List.cons_append, List.splitOn_cons_eq_if_modifyHead, if_neg hc, haround text htext]
          rfl
      | cons first init =>
        refine ⟨(c :: first) :: init, last, head, tail, ?_, hback, fun text htext => ?_⟩
        · rw [List.splitOn_cons_eq_if_modifyHead, if_neg hc, hfront]
          rfl
        · rw [List.cons_append, List.splitOn_cons_eq_if_modifyHead, if_neg hc, haround text htext]
          rfl

/-- What is put behind a text, and has no mark, belongs to its last piece. -/
theorem splitOn_append_of_notMem {mark : Char} {tail : List Char} (h : mark ∉ tail)
    (cs : List Char) :
    ∃ init last, cs.splitOn mark = init ++ [last] ∧
      (cs ++ tail).splitOn mark = init ++ [last ++ tail] := by
  obtain ⟨init, last, head, rest, hcs, hnil, haround⟩ := splitOn_around mark cs []
  rw [List.splitOn_nil, List.cons_eq_cons] at hnil
  obtain ⟨rfl, rfl⟩ := hnil
  have htail := haround tail h
  rw [List.append_nil] at htail
  exact ⟨init, last, hcs, htail⟩

/-- The pieces of a text in which another text, without a mark, stands in the place of one. -/
theorem exists_pieces_around (mark : Char) (front back : String) :
    ∃ init last head tail, ∀ text : String, mark ∉ text.toList →
      pieces mark (front ++ text ++ back) = init ++ (last ++ text ++ head) :: tail := by
  obtain ⟨init, last, head, tail, -, -, haround⟩ := splitOn_around mark front.toList back.toList
  refine ⟨init.map String.ofList, String.ofList last, String.ofList head, tail.map String.ofList,
    fun text htext => ?_⟩
  rw [pieces, String.toList_append, String.toList_append, List.append_assoc, haround _ htext,
    List.map_append, List.map_cons]
  have hpiece : String.ofList (last ++ (text.toList ++ head)) =
      String.ofList last ++ text ++ String.ofList head := by
    rw [← String.toList_inj]
    simp only [String.toList_append, String.toList_ofList, List.append_assoc]
  rw [hpiece]

/-! ### Texts joined -/

/-- A text cut in two ways: one of the cuts is behind the other one. -/
theorem append_eq_append_iff {a b c d : String} :
    a ++ b = c ++ d ↔
      (∃ more, c = a ++ more ∧ b = more ++ d) ∨ ∃ more, a = c ++ more ∧ d = more ++ b := by
  constructor
  · intro h
    have hlist := congrArg String.toList h
    rw [String.toList_append, String.toList_append, List.append_eq_append_iff] at hlist
    rcases hlist with ⟨more, hc, hb⟩ | ⟨more, ha, hd⟩
    · refine .inl ⟨String.ofList more, ?_, ?_⟩
      · rw [← String.toList_inj, String.toList_append, String.toList_ofList, hc]
      · rw [← String.toList_inj, String.toList_append, String.toList_ofList, hb]
    · refine .inr ⟨String.ofList more, ?_, ?_⟩
      · rw [← String.toList_inj, String.toList_append, String.toList_ofList, ha]
      · rw [← String.toList_inj, String.toList_append, String.toList_ofList, hd]
  · rintro (⟨more, rfl, rfl⟩ | ⟨more, rfl, rfl⟩)
    · rw [String.append_assoc]
    · rw [String.append_assoc]

end MessageBundle.Text

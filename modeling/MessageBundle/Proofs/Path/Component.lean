import MessageBundle.FileTree

/-!
# Components of joined paths

Joining puts texts together, and a path is read as its components. This file says
what joining does to them: the components of a relative part follow those of the
base, and an absolute part leaves nothing of the base. A text that is put behind a
path without a slash belongs to the last component.

## Main results

* `isAbsolute_push`, `components_push` — one path joined to another
* `isAbsolute_ofParts`, `mem_components_ofParts`, `components_ofParts_of_notMem` — parts
  joined one after another
* `exists_components_append` — text put behind a path belongs to its last component
-/

namespace MessageBundle

open Text

namespace Path

variable {base part : String} {parts : List String}

theorem isAbsolute_empty : isAbsolute "" = false := by decide

theorem isAbsolute_append {path : String} (h : path ≠ "") (tail : String) :
    isAbsolute (path ++ tail) = isAbsolute path := by
  rw [isAbsolute, isAbsolute, String.toList_append]
  cases hpath : path.toList with
  | nil => exact absurd (String.toList_eq_nil_iff.mp hpath) h
  | cons c rest => rfl

/-- The result is absolute when either path is. -/
theorem isAbsolute_push (base part : String) :
    isAbsolute (push base part) = (isAbsolute part || isAbsolute base) := by
  rw [push]
  cases hpart : isAbsolute part with
  | true => exact hpart
  | false =>
    rw [if_neg Bool.false_ne_true, Bool.false_or]
    by_cases hbase : base = ""
    · subst hbase
      rw [if_neg (by decide), String.empty_append, hpart, isAbsolute_empty]
    · split
      · rw [String.append_assoc, isAbsolute_append hbase]
      · exact isAbsolute_append hbase part

theorem isAbsolute_foldl_push (parts : List String) (base : String) :
    isAbsolute (parts.foldl push base) = (isAbsolute base || parts.any isAbsolute) := by
  induction parts generalizing base with
  | nil => simp
  | cons part rest ih =>
    rw [List.foldl_cons, ih, isAbsolute_push, List.any_cons, Bool.or_comm (isAbsolute part),
      Bool.or_assoc]

theorem isAbsolute_ofParts (parts : List String) :
    isAbsolute (ofParts parts) = parts.any isAbsolute := by
  rw [ofParts, isAbsolute_foldl_push, isAbsolute_empty, Bool.false_or]

theorem isAbsolute_of_notMem {path : String} (h : '/' ∉ path.toList) : isAbsolute path = false := by
  rw [isAbsolute, beq_eq_false_iff_ne]
  intro hhead
  exact h (List.mem_of_head? hhead)

theorem isVoidPart_eq_false_iff : isVoidPart part = false ↔ part ≠ "" ∧ part ≠ "." := by
  rw [isVoidPart, Bool.or_eq_false_iff, beq_eq_false_iff_ne, beq_eq_false_iff_ne]

/-- With two characters behind it, every part names something. -/
theorem isVoidPart_append {tail : String} (h : 1 < tail.length) (part : String) :
    isVoidPart (part ++ tail) = false := by
  have hlength : 1 < (part ++ tail).length := by
    rw [String.length_append]
    omega
  rw [isVoidPart_eq_false_iff]
  constructor
  · intro heq
    rw [heq] at hlength
    exact absurd hlength (by decide)
  · intro heq
    rw [heq] at hlength
    exact absurd hlength (by decide)

/-- A path that owes no slash is empty or ends in one. -/
theorem wantsSlash_eq_false_iff {path : String} :
    wantsSlash path = false ↔ path = "" ∨ ∃ before, path.toList = before ++ ['/'] := by
  rw [wantsSlash]
  cases hlast : path.toList.getLast? with
  | none =>
    rw [List.getLast?_eq_none_iff, String.toList_eq_nil_iff] at hlast
    exact iff_of_true rfl (.inl hlast)
  | some c =>
    obtain ⟨before, hpath⟩ := List.getLast?_eq_some_iff.mp hlast
    have hne : path ≠ "" := by
      rintro rfl
      cases hlast
    simp [hne, hpath]

end Path

namespace FileTree

variable {base part : String} {parts : List String} {name : String}

theorem components_of_toList_eq {path : String} {before after : List Char}
    (h : path.toList = before ++ '/' :: after) :
    components path = components (String.ofList before) ++ components (String.ofList after) := by
  rw [components, pieces_of_toList_eq h, List.filter_append]
  rfl

theorem components_empty : components "" = [] := by decide

/-- An absolute part stands alone; the components of a relative one follow those of
the base. -/
theorem components_push (base part : String) :
    components (Path.push base part) =
      if Path.isAbsolute part = true then components part
      else components base ++ components part := by
  rw [Path.push]
  split
  · rfl
  · cases hslash : Path.wantsSlash base with
    | true =>
      have hjoined : (base ++ "/" ++ part).toList = base.toList ++ '/' :: part.toList := by
        simp
      rw [if_pos rfl, components_of_toList_eq hjoined, String.ofList_toList, String.ofList_toList]
    | false =>
      rw [if_neg Bool.false_ne_true]
      rcases Path.wantsSlash_eq_false_iff.mp hslash with rfl | ⟨before, hbase⟩
      · rw [components_empty, String.empty_append, List.nil_append]
      · -- behind the slash that ends the base there is no component of its own
        have hjoined : (base ++ part).toList = before ++ '/' :: part.toList := by
          simp [hbase]
        have hempty : components (String.ofList []) = [] := components_empty
        rw [components_of_toList_eq hjoined, components_of_toList_eq hbase, hempty,
          List.append_nil, String.ofList_toList]

/-- A text without a slash that names something is a component by itself. -/
theorem components_of_notMem {path : String} (h : '/' ∉ path.toList)
    (hnamed : Path.isVoidPart path = false) : components path = [path] := by
  rw [components, pieces_of_notMem h, List.filter_cons_of_pos (by rw [hnamed]; rfl),
    List.filter_nil]

/-- Parts that are components by themselves are the components of the path they make. -/
theorem components_foldl_push_of_notMem
    (h : ∀ part ∈ parts, '/' ∉ part.toList ∧ Path.isVoidPart part = false) (base : String) :
    components (parts.foldl Path.push base) = components base ++ parts := by
  induction parts generalizing base with
  | nil => rw [List.foldl_nil, List.append_nil]
  | cons part rest ih =>
    obtain ⟨⟨hslash, hnamed⟩, hrest⟩ := List.forall_mem_cons.mp h
    rw [List.foldl_cons, ih hrest, components_push, Path.isAbsolute_of_notMem hslash,
      if_neg Bool.false_ne_true, components_of_notMem hslash hnamed, List.append_assoc,
      List.singleton_append]

theorem components_ofParts_of_notMem
    (h : ∀ part ∈ parts, '/' ∉ part.toList ∧ Path.isVoidPart part = false) :
    components (Path.ofParts parts) = parts := by
  rw [Path.ofParts, components_foldl_push_of_notMem h, components_empty, List.nil_append]

theorem mem_components_foldl_push (base : String)
    (h : name ∈ components (parts.foldl Path.push base)) :
    name ∈ components base ∨ ∃ part ∈ parts, name ∈ components part := by
  induction parts generalizing base with
  | nil => exact .inl h
  | cons part rest ih =>
    rcases ih (Path.push base part) h with hpush | ⟨other, hother, hname⟩
    · rw [components_push] at hpush
      split at hpush
      · exact .inr ⟨part, List.mem_cons_self, hpush⟩
      · rcases List.mem_append.mp hpush with hbase | hpart
        · exact .inl hbase
        · exact .inr ⟨part, List.mem_cons_self, hpart⟩
    · exact .inr ⟨other, List.mem_cons_of_mem _ hother, hname⟩

/-- Joining parts makes no components that they do not have. -/
theorem mem_components_ofParts (h : name ∈ components (Path.ofParts parts)) :
    ∃ part ∈ parts, name ∈ components part := by
  rcases mem_components_foldl_push "" h with hempty | hpart
  · rw [components_empty] at hempty
    cases hempty
  · exact hpart

/-- A component has no slash, and its characters stand in the path in their order. -/
theorem mem_components_spec {path : String} (h : name ∈ components path) :
    '/' ∉ name.toList ∧ name.toList.Sublist path.toList ∧ name ≠ "" ∧ name ≠ "." := by
  obtain ⟨hpiece, hnamed⟩ := List.mem_filter.mp h
  obtain ⟨piece, hsplit, rfl⟩ := List.mem_map.mp hpiece
  obtain ⟨hfree, hsublist⟩ := mem_splitOn_spec hsplit
  rw [String.toList_ofList]
  rw [Bool.not_eq_true', Path.isVoidPart_eq_false_iff] at hnamed
  exact ⟨hfree, hsublist, hnamed⟩

/-- Text that is put behind a path, long enough and without a slash, belongs to the last
component, so that the path does not lead to a directory by its form. -/
theorem exists_components_append {tail : String} (hslash : '/' ∉ tail.toList)
    (hlong : 1 < tail.length) (path : String) :
    wantsDirectory (path ++ tail) = false ∧
      ∃ init last, components (path ++ tail) = init ++ [last ++ tail] := by
  obtain ⟨init, last, -, hsplit⟩ := splitOn_append_of_notMem hslash path.toList
  have hpieces : pieces '/' (path ++ tail) =
      init.map String.ofList ++ [String.ofList last ++ tail] := by
    rw [pieces, String.toList_append, hsplit, List.map_append, List.map_singleton,
      String.ofList_append, String.ofList_toList]
  have hnamed := Path.isVoidPart_append hlong (String.ofList last)
  constructor
  · rw [wantsDirectory, hpieces, List.getLast?_concat]
    exact hnamed
  · refine ⟨(init.map String.ofList).filter fun part => !Path.isVoidPart part,
      String.ofList last, ?_⟩
    rw [components, hpieces, List.filter_append, List.filter_cons_of_pos (by rw [hnamed]; rfl)]
    rfl

end FileTree

end MessageBundle

import MessageBundle.Filer.Directory
import MessageBundle.Proofs.Path.Component

/-!
# The path of a qualified name

The segments of a qualified name are the texts between its dots. The last one is the
simple name and becomes the file, the others become the directories, and the empty
ones among them are left out. A segment has no dot, so that no component of the path
is a step up; but a segment may start with a slash, and then the path is absolute.

## Main definitions

* `IsRelative` — no segment starts with a slash

## Main results

* `exists_pieces_eq_append_simpleName` — the segments are those of the package and the
  simple name
* `isAbsolute_sourcePath` — the path is absolute when a segment starts with a slash
* `up_notMem_components_sourcePath` — the path takes no step up
* `pathFor_of_isRelative`, `pathFor_of_not_isRelative` — the path under a root directory
* `exists_components_pathFor` — the last component of the file of a class ends in `.java`
-/

namespace MessageBundle

open Text

theorem Path.exists_push_append (base part tail : String) :
    ∃ stem, Path.push base (part ++ tail) = stem ++ tail := by
  rw [Path.push]
  split
  · exact ⟨part, rfl⟩
  · split
    · exact ⟨base ++ "/" ++ part, (String.append_assoc).symm⟩
    · exact ⟨base ++ part, (String.append_assoc).symm⟩

/-- A path with one dot at most has no component that is a step up. -/
theorem FileTree.up_notMem_components {path : String} (h : path.toList.count '.' ≤ 1) :
    ".." ∉ components path := by
  intro hup
  have hsublist := (mem_components_spec hup).2.1
  have hcount : 2 ≤ path.toList.count '.' := hsublist.count_le '.'
  omega

namespace Name

variable {name segment : String}

/-- The segments are those of the package, of which the path leaves the empty ones out,
and then the simple name. -/
theorem exists_pieces_eq_append_simpleName (name : String) :
    ∃ package, pieces '.' name = package ++ [simpleName name] ∧
      packageParts name = package.filter (· ≠ "") := by
  cases hcut : cutLast? '.' name.toList with
  | none =>
    have hfree := cutLast?_eq_none_iff.mp hcut
    have hpackage : packageOf name = "" := by rw [packageOf, hcut]
    refine ⟨[], ?_, ?_⟩
    · rw [simpleName, hcut, pieces_of_notMem hfree, List.nil_append]
    · rw [packageParts, hpackage]
      rfl
  | some parts =>
    obtain ⟨before, after⟩ := parts
    have hname := (append_of_cutLast? hcut).symm
    have hfree : '.' ∉ (String.ofList after).toList := by
      rw [String.toList_ofList]
      exact notMem_of_cutLast? hcut
    refine ⟨pieces '.' (String.ofList before), ?_, ?_⟩
    · rw [simpleName, hcut, pieces_of_toList_eq hname, pieces_of_notMem hfree]
    · rw [packageParts, packageOf, hcut]

theorem dot_notMem_of_mem_pieces (h : segment ∈ pieces '.' name) : '.' ∉ segment.toList := by
  obtain ⟨piece, hpiece, rfl⟩ := List.mem_map.mp h
  rw [String.toList_ofList]
  exact (mem_splitOn_spec hpiece).1

theorem isAbsolute_append_java (simple : String) :
    Path.isAbsolute (simple ++ ".java") = Path.isAbsolute simple := by
  by_cases hempty : simple = ""
  · subst hempty
    decide
  · exact Path.isAbsolute_append hempty ".java"

/-- The path of a name is absolute when a segment of the name starts with a slash. -/
theorem isAbsolute_sourcePath (name : String) :
    Path.isAbsolute (sourcePath name) = (pieces '.' name).any Path.isAbsolute := by
  obtain ⟨package, hpieces, hparts⟩ := exists_pieces_eq_append_simpleName name
  -- the segments left out are empty, and an empty text is not absolute
  have hpackage : (packageParts name).any Path.isAbsolute = package.any Path.isAbsolute := by
    rw [hparts, List.any_filter]
    refine congrArg package.any (funext fun segment => ?_)
    by_cases hempty : segment = ""
    · simp [hempty, Path.isAbsolute_empty]
    · simp [hempty]
  rw [sourcePath, Path.isAbsolute_push, Path.isAbsolute_ofParts, isAbsolute_append_java, hpackage,
    hpieces, List.any_append, List.any_cons, List.any_nil, Bool.or_false, Bool.or_comm]

/-- No segment of a name starts with a slash. -/
def IsRelative (name : String) : Prop :=
  ∀ segment ∈ pieces '.' name, Path.isAbsolute segment = false

instance (name : String) : Decidable (IsRelative name) :=
  inferInstanceAs (Decidable (∀ segment ∈ pieces '.' name, Path.isAbsolute segment = false))

theorem isAbsolute_sourcePath_eq_false_iff :
    Path.isAbsolute (sourcePath name) = false ↔ IsRelative name := by
  rw [isAbsolute_sourcePath, List.any_eq_false]
  simp only [Bool.not_eq_true]
  rfl

/-- A segment has no dot and `.java` has one, so that no component is made of two. -/
theorem up_notMem_components_sourcePath (name : String) :
    ".." ∉ FileTree.components (sourcePath name) := by
  obtain ⟨package, hpieces, hparts⟩ := exists_pieces_eq_append_simpleName name
  have hsegment : ∀ segment ∈ pieces '.' name, segment.toList.count '.' = 0 :=
    fun segment hmem => List.count_eq_zero.mpr (dot_notMem_of_mem_pieces hmem)
  have hfile : ".." ∉ FileTree.components (simpleName name ++ ".java") := by
    have hsimple := hsegment (simpleName name)
      (hpieces ▸ List.mem_append_right package (List.mem_singleton_self _))
    refine FileTree.up_notMem_components ?_
    rw [String.toList_append, List.count_append, hsimple]
    decide
  have hdirectories : ".." ∉ FileTree.components (Path.ofParts (packageParts name)) := by
    intro hup
    obtain ⟨segment, hmem, hcomponent⟩ := FileTree.mem_components_ofParts hup
    rw [hparts] at hmem
    have hpiece : segment ∈ pieces '.' name :=
      hpieces ▸ List.mem_append_left _ (List.mem_filter.mp hmem).1
    have hnone : segment.toList.count '.' ≤ 1 := by
      rw [hsegment segment hpiece]
      exact Nat.zero_le 1
    exact FileTree.up_notMem_components hnone hcomponent
  rw [sourcePath, FileTree.components_push]
  split
  · exact hfile
  · rw [List.mem_append, not_or]
    exact ⟨hdirectories, hfile⟩

/-- The path joins the directories and then the file. -/
theorem sourcePath_eq_ofParts (name : String) :
    sourcePath name = Path.ofParts (packageParts name ++ [simpleName name ++ ".java"]) := by
  rw [sourcePath, Path.ofParts, Path.ofParts, List.foldl_append]
  rfl

theorem exists_sourcePath_eq_append (name : String) :
    ∃ stem, sourcePath name = stem ++ ".java" :=
  Path.exists_push_append _ _ _

theorem components_sourcePath_ne_nil (name : String) :
    FileTree.components (sourcePath name) ≠ [] := by
  obtain ⟨stem, hstem⟩ := exists_sourcePath_eq_append name
  obtain ⟨init, last, hlast⟩ :=
    (FileTree.exists_components_append (show '/' ∉ ".java".toList by decide) (by decide) stem).2
  rw [hstem, hlast]
  exact List.append_ne_nil_of_right_ne_nil init (List.cons_ne_nil _ _)

end Name

/-! ### Under a root directory -/

namespace DirectoryFiler

/-- Under a root, the file of a class has the components of its own path behind those of
the root, if no segment of the name starts with a slash. -/
theorem pathFor_of_isRelative {name : String} (h : Name.IsRelative name) (root : String) :
    Path.isAbsolute (pathFor root name) = Path.isAbsolute root ∧
      FileTree.components (pathFor root name) =
        FileTree.components root ++ FileTree.components (Name.sourcePath name) := by
  have hrelative := Name.isAbsolute_sourcePath_eq_false_iff.mpr h
  rw [pathFor, Path.isAbsolute_push, FileTree.components_push, hrelative, Bool.false_or,
    if_neg Bool.false_ne_true]
  exact ⟨rfl, rfl⟩

/-- With a segment that starts with a slash, the root is no part of the path. -/
theorem pathFor_of_not_isRelative {name : String} (h : ¬Name.IsRelative name) (root : String) :
    Path.isAbsolute (pathFor root name) = true ∧ pathFor root name = Name.sourcePath name := by
  rw [← Name.isAbsolute_sourcePath_eq_false_iff, Bool.not_eq_false] at h
  have hpath : pathFor root name = Name.sourcePath name := by rw [pathFor, Path.push, if_pos h]
  rw [hpath]
  exact ⟨h, rfl⟩

/-- The path of a class is that of a file, not of a directory, and its last component ends
in `.java`. -/
theorem exists_components_pathFor (root name : String) :
    FileTree.wantsDirectory (pathFor root name) = false ∧
      ∃ init last, FileTree.components (pathFor root name) = init ++ [last ++ ".java"] := by
  obtain ⟨stem, hstem⟩ := Name.exists_sourcePath_eq_append name
  obtain ⟨path, hpath⟩ := Path.exists_push_append root stem ".java"
  rw [pathFor, hstem, hpath]
  exact FileTree.exists_components_append (by decide) (by decide) path

end DirectoryFiler

end MessageBundle

import Mathlib.Data.List.DropRight
import Mathlib.Data.List.ModifyLast
import MessageBundle.Proofs.Name.SourcePath

/-!
# Plain names

A path leaves out the empty segments of its name and cuts the ones with a slash, so that two
names can share it. Of a plain name nothing is left out and nothing is cut: the path is the
text of the segments with slashes between them and `.java` behind them. Its components are
the segments again, and joined with dots they are the name. So no two plain names share a
path, whatever the root directory is.

## Main definitions

* `IsPlain` — all segments name something, and none has a slash
* `ofComponents` — the name that is read off the components of a path

## Main results

* `Path.ofParts_eq_intercalate` — parts joined one after another are the parts with slashes
  between them
* `IsPlain.pieces_eq`, `IsPlain.components_eq` — the segments of a plain name, and the
  components of its path
* `IsPlain.ofComponents_eq`, `eq_of_components_sourcePath_eq` — the path tells the name
* `sourcePath_invertible` — a plain name, its path under any root, and the name again
-/

namespace MessageBundle

open Text

/-! ### Parts with slashes between them -/

namespace Path

variable {base part : String} {parts : List String}

/-- A path that ends in a part without a slash owes one. -/
theorem wantsSlash_append (hne : part ≠ "") (hslash : '/' ∉ part.toList) (front : String) :
    wantsSlash (front ++ part) = true := by
  have hnonempty : part.toList ≠ [] := mt String.toList_eq_nil_iff.mp hne
  obtain ⟨c, hlast⟩ := Option.ne_none_iff_exists'.mp (mt List.getLast?_eq_none_iff.mp hnonempty)
  rw [wantsSlash, String.toList_append, List.getLast?_append_of_ne_nil _ hnonempty, hlast,
    bne_iff_ne]
  rintro rfl
  exact hslash (List.mem_of_getLast? hlast)

theorem push_of_notMem (hslash : '/' ∉ part.toList) (hbase : wantsSlash base = true) :
    push base part = base ++ "/" ++ part := by
  rw [push, isAbsolute_of_notMem hslash, if_neg Bool.false_ne_true, if_pos hbase]

/-- Parts without a slash follow a base that owes one, with slashes between them. -/
theorem foldl_push_eq_intercalate (hbase : wantsSlash base = true)
    (h : ∀ part ∈ parts, part ≠ "" ∧ '/' ∉ part.toList) :
    parts.foldl push base = "/".intercalate (base :: parts) := by
  induction parts generalizing base with
  | nil => rw [List.foldl_nil, String.intercalate_singleton]
  | cons part rest ih =>
    obtain ⟨⟨hne, hslash⟩, hrest⟩ := List.forall_mem_cons.mp h
    rw [List.foldl_cons, push_of_notMem hslash hbase, ih (wantsSlash_append hne hslash _) hrest,
      String.intercalate_cons_append, String.intercalate_cons_cons]

theorem ofParts_eq_intercalate (h : ∀ part ∈ parts, part ≠ "" ∧ '/' ∉ part.toList) :
    ofParts parts = "/".intercalate parts := by
  cases parts with
  | nil => rfl
  | cons part rest =>
    obtain ⟨⟨hne, hslash⟩, hrest⟩ := List.forall_mem_cons.mp h
    have hpush : push "" part = part := by
      rw [push, isAbsolute_of_notMem hslash, if_neg Bool.false_ne_true]
      exact String.empty_append
    have hwants := wantsSlash_append hne hslash ""
    rw [String.empty_append] at hwants
    rw [ofParts, List.foldl_cons, hpush, foldl_push_eq_intercalate hwants hrest]

end Path

namespace Name

variable {name other : String}

/-- The segments of a name all name something, and none of them has a slash. -/
def IsPlain (name : String) : Prop :=
  ∀ segment ∈ pieces '.' name, segment ≠ "" ∧ '/' ∉ segment.toList

instance (name : String) : Decidable (IsPlain name) :=
  inferInstanceAs (Decidable (∀ segment ∈ pieces '.' name, segment ≠ "" ∧ '/' ∉ segment.toList))

/-- The name that is read off the components of a path: `.java` is dropped from the last one,
and they are joined with dots. -/
def ofComponents (components : List String) : String :=
  ".".intercalate (components.modifyLast fun file =>
    String.ofList (file.toList.rdrop ".java".length))

/-! ### The path of a plain name -/

theorem IsPlain.isRelative (h : IsPlain name) : IsRelative name := by
  intro segment hmem
  exact Path.isAbsolute_of_notMem (h segment hmem).2

/-- Nothing is left out of the package of a plain name. -/
theorem IsPlain.pieces_eq (h : IsPlain name) :
    pieces '.' name = packageParts name ++ [simpleName name] := by
  obtain ⟨package, hpieces, hparts⟩ := exists_pieces_eq_append_simpleName name
  have hkept : packageParts name = package := by
    rw [hparts, List.filter_eq_self]
    intro segment hmem
    exact decide_eq_true (h segment (hpieces ▸ List.mem_append_left _ hmem)).1
  rw [hpieces, hkept]

/-- Each part that the path is made of is a component by itself. -/
theorem IsPlain.parts (h : IsPlain name) :
    ∀ part ∈ packageParts name ++ [simpleName name ++ ".java"],
      '/' ∉ part.toList ∧ Path.isVoidPart part = false := by
  have hsegments : ∀ segment ∈ packageParts name ++ [simpleName name],
      '.' ∉ segment.toList ∧ segment ≠ "" ∧ '/' ∉ segment.toList := by
    intro segment hmem
    rw [← h.pieces_eq] at hmem
    exact ⟨dot_notMem_of_mem_pieces hmem, h segment hmem⟩
  rw [List.forall_mem_append, List.forall_mem_singleton] at hsegments ⊢
  obtain ⟨hpackage, -, -, hslash⟩ := hsegments
  constructor
  · intro segment hmem
    obtain ⟨hdot, hne, hslash⟩ := hpackage segment hmem
    refine ⟨hslash, Path.isVoidPart_eq_false_iff.mpr ⟨hne, ?_⟩⟩
    rintro rfl
    exact hdot (by decide)
  · refine ⟨?_, Path.isVoidPart_append (by decide) _⟩
    rw [String.toList_append, List.mem_append, not_or]
    exact ⟨hslash, by decide⟩

/-- The path of a plain name has its segments as components, and the last one is the file. -/
theorem IsPlain.components_eq (h : IsPlain name) :
    FileTree.components (sourcePath name) =
      packageParts name ++ [simpleName name ++ ".java"] := by
  rw [sourcePath_eq_ofParts, FileTree.components_ofParts_of_notMem h.parts]

theorem IsPlain.sourcePath_eq (h : IsPlain name) :
    sourcePath name = "/".intercalate (packageParts name ++ [simpleName name ++ ".java"]) := by
  rw [sourcePath_eq_ofParts]
  refine Path.ofParts_eq_intercalate fun part hmem => ?_
  obtain ⟨hslash, hnamed⟩ := h.parts part hmem
  exact ⟨(Path.isVoidPart_eq_false_iff.mp hnamed).1, hslash⟩

/-! ### The name of a path -/

/-- From the components of its path, a plain name is read. -/
theorem IsPlain.ofComponents_eq (h : IsPlain name) :
    ofComponents (FileTree.components (sourcePath name)) = name := by
  have hdropped : (simpleName name ++ ".java").toList.rdrop ".java".length =
      (simpleName name).toList := by
    rw [String.toList_append, ← String.length_toList, List.rdrop_append_length]
  rw [h.components_eq, ofComponents, List.modifyLast_concat, hdropped, String.ofList_toList,
    ← h.pieces_eq]
  exact intercalate_pieces '.' name

/-- Plain names with one path are one name. -/
theorem eq_of_components_sourcePath_eq (h : IsPlain name) (h' : IsPlain other)
    (hpath : FileTree.components (sourcePath name) = FileTree.components (sourcePath other)) :
    name = other := by
  rw [← h.ofComponents_eq, hpath, h'.ofComponents_eq]

open DirectoryFiler

/-- The path of a plain name is made of its segments, with slashes between them and `.java`
behind the last one, and these are its components, none of them a step of the way. Under a
root directory they follow the components of the root. From the components the name is read,
and so two plain names do not have one path under any root. -/
theorem sourcePath_invertible (h : IsPlain name) :
    (∃ init last, pieces '.' name = init ++ [last] ∧
      sourcePath name = "/".intercalate (init ++ [last ++ ".java"]) ∧
      FileTree.components (sourcePath name) = init ++ [last ++ ".java"] ∧
      ∀ root, Path.isAbsolute (pathFor root name) = Path.isAbsolute root ∧
        FileTree.components (pathFor root name) =
          FileTree.components root ++ (init ++ [last ++ ".java"])) ∧
    (∀ part ∈ FileTree.components (sourcePath name), part ≠ "." ∧ part ≠ "..") ∧
    ofComponents (FileTree.components (sourcePath name)) = name ∧
    ∀ root other, IsPlain other →
      FileTree.components (pathFor root name) = FileTree.components (pathFor root other) →
      name = other := by
  refine ⟨⟨packageParts name, simpleName name, h.pieces_eq, h.sourcePath_eq, h.components_eq,
    fun root => ?_⟩, fun part hpart => ⟨?_, ?_⟩, h.ofComponents_eq, ?_⟩
  · rw [← h.components_eq]
    exact pathFor_of_isRelative h.isRelative root
  · exact (FileTree.mem_components_spec hpart).2.2.2
  · rintro rfl
    exact up_notMem_components_sourcePath name hpart
  · intro root other hother hpath
    rw [(pathFor_of_isRelative h.isRelative root).2,
      (pathFor_of_isRelative hother.isRelative root).2] at hpath
    exact eq_of_components_sourcePath_eq h hother (List.append_cancel_left hpath)

/-- A name in two packages has its three segments as components under a root of two, is read
off its path, and does not share it with a name in one package. -/
theorem sourcePath_invertible_two_packages :
    IsPlain "org.example.Bundle" ∧ IsPlain "org_example.Bundle" ∧
      FileTree.components (pathFor "out/dir" "org.example.Bundle") =
        ["out", "dir", "org", "example", "Bundle.java"] ∧
      ofComponents (FileTree.components (sourcePath "org.example.Bundle")) =
        "org.example.Bundle" ∧
      FileTree.components (pathFor "out" "org.example.Bundle") ≠
        FileTree.components (pathFor "out" "org_example.Bundle") := by
  have hplain : IsPlain "org.example.Bundle" := by decide +kernel
  have hother : IsPlain "org_example.Bundle" := by decide +kernel
  obtain ⟨⟨init, last, hpieces, -, -, hroot⟩, -, hname, hinjective⟩ :=
    sourcePath_invertible hplain
  have hsegments : pieces '.' "org.example.Bundle" = ["org", "example"] ++ ["Bundle"] := by
    decide +kernel
  have hcomponents : FileTree.components "out/dir" = ["out", "dir"] := by decide +kernel
  obtain ⟨rfl, hlast⟩ := List.append_inj' (hpieces.symm.trans hsegments) rfl
  obtain rfl := List.singleton_inj.mp hlast
  have hpath := (hroot "out/dir").2
  rw [hcomponents] at hpath
  refine ⟨hplain, hother, hpath, hname, fun hsame => ?_⟩
  exact absurd (hinjective "out" _ hother hsame) (by decide)

end Name

end MessageBundle

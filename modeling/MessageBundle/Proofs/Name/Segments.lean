import Mathlib.Data.List.TakeWhile
import MessageBundle.Proofs.Name.SourcePath

/-!
# The segments of a name

Blanks around the parts of a name are not part of it: a name is told by its segments, the
texts between its dots without the blanks at either end. They are those of the package and
then the simple name. Text put behind a name is no part of it exactly when it is blank.

## Main definitions

* `segments` — what a name is told by
* `IsSegmented` — no two dots of a name stand together, and none at an end

## Main results

* `trim_append_eq_iff` — what is put behind a text is trimmed away exactly when it is blank
* `segments_qualify` — the segments of a simple name in a namespace
* `IsSegmented.segments_eq` — the segments of a name are those of its package and its simple
  name
* `IsSegmented.segments_className_eq_iff` — when a name with a suffix is the name itself
-/

namespace MessageBundle

namespace Text

/-! ### Trimming -/

theorem filter_dropWhile_isBlank (cs : List Char) :
    (cs.dropWhile isBlank).filter (fun c => !isBlank c) = cs.filter fun c => !isBlank c := by
  induction cs with
  | nil => rfl
  | cons c cs ih =>
    by_cases hc : isBlank c = true
    · rw [List.dropWhile_cons_of_pos hc, ih, List.filter_cons_of_neg (by simp [hc])]
    · rw [List.dropWhile_cons_of_neg hc]

/-- Trimming keeps all characters that are not blank. -/
theorem filter_trimChars (cs : List Char) :
    (trimChars cs).filter (fun c => !isBlank c) = cs.filter fun c => !isBlank c := by
  rw [trimChars, List.filter_reverse, filter_dropWhile_isBlank, List.filter_reverse,
    List.reverse_reverse, filter_dropWhile_isBlank]

/-- Blanks behind a text are trimmed away. -/
theorem trimChars_append {tail : List Char} (h : ∀ c ∈ tail, isBlank c = true) (cs : List Char) :
    trimChars (cs ++ tail) = trimChars cs := by
  have hreversed : tail.reverse.dropWhile isBlank = [] :=
    List.dropWhile_eq_nil_iff.mpr fun c hc => h c (List.mem_reverse.mp hc)
  rw [trimChars, trimChars, List.dropWhile_append]
  split
  next hnone => rw [List.isEmpty_iff.mp hnone, List.dropWhile_eq_nil_iff.mpr h]
  next => rw [List.reverse_append, List.dropWhile_append, hreversed, List.isEmpty_nil, if_pos rfl]

/-- What is put behind a text is trimmed away exactly when it is blank. -/
theorem trim_append_eq_iff (s tail : String) :
    trim (s ++ tail) = trim s ↔ isAllBlank tail = true := by
  rw [trim, trim, String.ofList_inj, String.toList_append, isAllBlank, List.all_eq_true]
  refine ⟨fun h => ?_, fun h => trimChars_append h s.toList⟩
  -- the characters of the tail that are not blank would be left
  have hkept := congrArg (List.filter fun c => !isBlank c) h
  rw [filter_trimChars, filter_trimChars, List.filter_append, List.append_right_eq_self,
    List.filter_eq_nil_iff] at hkept
  simpa using hkept

end Text

namespace Name

open Text

variable {name simple suffix : String}

/-- The segments of a name, without the blanks around them; an empty name has none. -/
def segments (name : String) : List String :=
  if name = "" then [] else (pieces '.' name).map trim

/-- All segments of the name are some text. -/
def IsSegmented (name : String) : Prop := ∀ segment ∈ pieces '.' name, segment ≠ ""

instance (name : String) : Decidable (IsSegmented name) :=
  List.decidableBAll (· ≠ "") (pieces '.' name)

theorem segments_of_notMem (h : '.' ∉ simple.toList) (hne : simple ≠ "") :
    segments simple = [trim simple] := by
  rw [segments, if_neg hne, pieces_of_notMem h, List.map_singleton]

theorem segments_eq_nil_iff : segments name = [] ↔ name = "" := by
  rw [segments]
  split_ifs with hempty
  · exact iff_of_true rfl hempty
  · simp [pieces, List.splitOn_ne_nil, hempty]

/-- Behind a dot stands one more segment. -/
theorem segments_append (hne : name ≠ "") (h : '.' ∉ simple.toList) :
    segments (name ++ "." ++ simple) = segments name ++ [trim simple] := by
  have htext : (name ++ "." ++ simple).toList = name.toList ++ '.' :: simple.toList := by
    simp
  have hqualified : name ++ "." ++ simple ≠ "" := by simp
  rw [segments, segments, if_neg hqualified, if_neg hne, pieces_of_toList_eq htext,
    String.ofList_toList, String.ofList_toList, pieces_of_notMem h, List.map_append,
    List.map_singleton]

/-- A simple name in a namespace is one more segment. -/
theorem segments_qualify (h : '.' ∉ simple.toList) (hne : simple ≠ "") (namespaceName : String) :
    segments (qualify namespaceName simple) = segments namespaceName ++ [trim simple] := by
  by_cases hempty : namespaceName = ""
  · rw [qualify, if_pos hempty, segments_of_notMem h hne, hempty]
    rfl
  · rw [qualify, if_neg hempty, segments_append hempty h]

/-! ### Package and simple name -/

theorem dot_notMem_simpleName (name : String) : '.' ∉ (simpleName name).toList := by
  obtain ⟨package, hpieces, -⟩ := exists_pieces_eq_append_simpleName name
  exact dot_notMem_of_mem_pieces (hpieces ▸ List.mem_append_right package List.mem_cons_self)

theorem IsSegmented.simpleName_ne_empty (h : IsSegmented name) : simpleName name ≠ "" := by
  obtain ⟨package, hpieces, -⟩ := exists_pieces_eq_append_simpleName name
  exact h _ (hpieces ▸ List.mem_append_right package List.mem_cons_self)

/-- A name without a dot is its simple name. -/
theorem simpleName_of_notMem (h : '.' ∉ name.toList) :
    simpleName name = name ∧ packageOf name = "" := by
  rw [simpleName, packageOf, cutLast?_eq_none_iff.mpr h]
  exact ⟨rfl, rfl⟩

/-- With a dot, the package and the simple name stand around the last one. -/
theorem eq_packageOf_append (h : '.' ∈ name.toList) :
    name = packageOf name ++ "." ++ simpleName name := by
  cases hcut : cutLast? '.' name.toList with
  | none => exact absurd h (cutLast?_eq_none_iff.mp hcut)
  | some parts =>
    obtain ⟨before, after⟩ := parts
    rw [← String.toList_inj, packageOf, simpleName, hcut, ← append_of_cutLast? hcut]
    simp

/-- A segmented name has a package if it has a dot. -/
theorem IsSegmented.packageOf_ne_empty (h : IsSegmented name) (hdot : '.' ∈ name.toList) :
    packageOf name ≠ "" := by
  intro hempty
  have hparts := congrArg String.toList (eq_packageOf_append hdot)
  rw [hempty] at hparts
  have htext : name.toList = [] ++ '.' :: (simpleName name).toList := by simpa using hparts
  exact h "" (pieces_of_toList_eq htext ▸ List.mem_cons_self) rfl

/-- The segments of a name are those of its package and its simple name. -/
theorem IsSegmented.segments_eq (h : IsSegmented name) :
    segments name = segments (packageOf name) ++ [trim (simpleName name)] := by
  by_cases hdot : '.' ∈ name.toList
  · calc
      segments name = segments (packageOf name ++ "." ++ simpleName name) := by
        rw [← eq_packageOf_append hdot]
      _ = segments (packageOf name) ++ [trim (simpleName name)] :=
        segments_append (h.packageOf_ne_empty hdot) (dot_notMem_simpleName name)
  · have hne := h.simpleName_ne_empty
    obtain ⟨hsimple, hpackage⟩ := simpleName_of_notMem hdot
    rw [hsimple] at hne
    rw [hsimple, hpackage, segments_of_notMem hdot hne]
    rfl

theorem IsSegmented.getLast?_segments (h : IsSegmented name) :
    (segments name).getLast? = some (trim (simpleName name)) := by
  rw [h.segments_eq, List.getLast?_append]
  rfl

/-! ### A name with a suffix -/

theorem isAllBlank_dot_notMem (h : isAllBlank suffix = true) : '.' ∉ suffix.toList := by
  rw [isAllBlank, List.all_eq_true] at h
  intro hdot
  exact absurd (h '.' hdot) (by decide)

theorem qualify_append (namespaceName simple tail : String) :
    qualify namespaceName (simple ++ tail) = qualify namespaceName simple ++ tail := by
  rw [qualify, qualify]
  split
  · rfl
  · rw [String.append_assoc, String.append_assoc, String.append_assoc]

theorem qualify_ne_empty (hne : simple ≠ "") (namespaceName : String) :
    qualify namespaceName simple ≠ "" := by
  rw [qualify]
  split
  · exact hne
  · simp

/-- A name with a suffix, put into a namespace, is the name itself in two cases: the suffix is
blank and the namespace the package of the name, or the last dot of the suffix cuts it into a
part that stands for the package and a part that stands for the simple name. -/
theorem IsSegmented.segments_className_eq_iff (h : IsSegmented name)
    (namespaceName suffix : String) :
    segments (qualify namespaceName (className (simpleName name) suffix)) = segments name ↔
      (isAllBlank suffix = true ∧ segments namespaceName = segments (packageOf name)) ∨
      ('.' ∈ suffix.toList ∧ trim (simpleName suffix) = trim (simpleName name) ∧
        segments (qualify namespaceName (className (simpleName name) (packageOf suffix))) =
          segments (packageOf name)) := by
  have hne := h.simpleName_ne_empty
  have hinj {front other : List String} {last last' : String} :
      front ++ [last] = other ++ [last'] ↔ last = last' ∧ front = other := by
    refine ⟨fun heq => ?_, fun ⟨hlast, hfront⟩ => by rw [hlast, hfront]⟩
    obtain ⟨hfront, hlast⟩ := List.append_inj' heq rfl
    exact ⟨List.singleton_inj.mp hlast, hfront⟩
  by_cases hdot : '.' ∈ suffix.toList
  · -- the class name has a dot, and the last one is that of the suffix
    have hblank : isAllBlank suffix ≠ true := fun hblank => isAllBlank_dot_notMem hblank hdot
    have hclass : qualify namespaceName (className (simpleName name) suffix) =
        qualify namespaceName (className (simpleName name) (packageOf suffix)) ++ "." ++
          simpleName suffix := by
      have hsuffix : className (simpleName name) suffix =
          className (simpleName name) (packageOf suffix) ++ ("." ++ simpleName suffix) := by
        have hparts := congrArg (className (simpleName name)) (eq_packageOf_append hdot)
        simpa only [className, String.append_assoc] using hparts
      rw [hsuffix, qualify_append, String.append_assoc]
    have hqualified :
        qualify namespaceName (className (simpleName name) (packageOf suffix)) ≠ "" :=
      qualify_ne_empty (by simp [className, hne]) namespaceName
    rw [hclass, segments_append hqualified (dot_notMem_simpleName suffix), h.segments_eq, hinj]
    simp [hdot, hblank]
  · have hclass : '.' ∉ (className (simpleName name) suffix).toList := by
      rw [className, String.toList_append, List.mem_append, not_or]
      exact ⟨dot_notMem_simpleName name, hdot⟩
    have hclassNe : className (simpleName name) suffix ≠ "" := by simp [className, hne]
    rw [segments_qualify hclass hclassNe, h.segments_eq, hinj, className, trim_append_eq_iff]
    simp [hdot]

end Name

end MessageBundle

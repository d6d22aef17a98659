import MessageBundle.JavaClass
import MessageBundle.Proofs.Name.Segments

/-!
# Names taken apart and put together again

A name is taken apart at its last dot, and a package and a simple name are put together with a
dot between them. What is put together from a package and a simple name without a dot is taken
apart into the two again. What is taken apart is not always put together again: the empty
package stands for no package, and then no dot is written. So the dot is lost of a name whose
only dot is in front, and of no other name.

The class of a bundle is named in this way, from its namespace and a simple name with the
suffix behind it. It is taken apart into the two again unless the suffix brings a dot of its
own.

## Main definitions

* `rejoined` — a name that was taken apart and put together again
* `IsDottedSimple` — a simple name with a dot in front
* `SameButForDot` — two names that differ in such a dot at most

## Main results

* `parts_qualify` — a simple name in a namespace is taken apart into the two
* `rejoined_eq_self_iff`, `rejoined_eq_rejoined_iff` — which names come back, and which two
  names become one
* `Bundle.outputName_parts_iff` — the name of a unit tells the package and the class that it
  declares exactly when the suffix has no dot
-/

namespace MessageBundle

open Text

namespace Name

variable {name other simple : String}

/-! ### Put together, then taken apart -/

theorem parts_append_dot (h : '.' ∉ simple.toList) (package : String) :
    simpleName (package ++ "." ++ simple) = simple ∧
      packageOf (package ++ "." ++ simple) = package := by
  have htext : (package ++ "." ++ simple).toList = package.toList ++ '.' :: simple.toList := by
    simp
  rw [simpleName, packageOf, htext, cutLast?_append_cons h]
  exact ⟨String.ofList_toList, String.ofList_toList⟩

/-- A simple name in a namespace is taken apart into the two, whether the namespace is empty or
not. -/
theorem parts_qualify (h : '.' ∉ simple.toList) (namespaceName : String) :
    simpleName (qualify namespaceName simple) = simple ∧
      packageOf (qualify namespaceName simple) = namespaceName := by
  rw [qualify]
  split
  next hempty =>
    rw [hempty]
    exact simpleName_of_notMem h
  next => exact parts_append_dot h namespaceName

/-! ### Taken apart, then put together -/

/-- The parts of a name put together again. -/
def rejoined (name : String) : String := qualify (packageOf name) (simpleName name)

/-- The name is a dot with a simple name behind it. -/
def IsDottedSimple (name : String) : Prop :=
  ∃ simple, '.' ∉ simple.toList ∧ name = "." ++ simple

/-- The names are equal, or one of them is a simple name and the other one is the same with a
dot in front. -/
def SameButForDot (name other : String) : Prop :=
  name = other ∨ ∃ simple, '.' ∉ simple.toList ∧
    (name = "." ++ simple ∧ other = simple ∨ name = simple ∧ other = "." ++ simple)

theorem rejoined_of_notMem (h : '.' ∉ name.toList) : rejoined name = name := by
  obtain ⟨hsimple, hpackage⟩ := simpleName_of_notMem h
  rw [rejoined, hsimple, hpackage, qualify, if_pos rfl]

/-- The package of a dotted simple name is empty, and its dot is not written again. -/
theorem rejoined_dot_append (h : '.' ∉ simple.toList) : rejoined ("." ++ simple) = simple := by
  obtain ⟨hsimple, hpackage⟩ := parts_append_dot h ""
  rw [String.empty_append] at hsimple hpackage
  rw [rejoined, hsimple, hpackage, qualify, if_pos rfl]

theorem rejoined_of_not_isDottedSimple (h : ¬IsDottedSimple name) : rejoined name = name := by
  by_cases hdot : '.' ∈ name.toList
  · have hparts := eq_packageOf_append hdot
    -- with an empty package, the simple name would have a dot in front
    have hpackage : packageOf name ≠ "" := by
      intro hempty
      rw [hempty, String.empty_append] at hparts
      exact h ⟨simpleName name, dot_notMem_simpleName name, hparts⟩
    rw [rejoined, qualify, if_neg hpackage, ← hparts]
  · exact rejoined_of_notMem hdot

/-- A name comes back unless it is a simple name with a dot in front. -/
theorem rejoined_eq_self_iff : rejoined name = name ↔ ¬IsDottedSimple name := by
  refine ⟨?_, rejoined_of_not_isDottedSimple⟩
  rintro hsame ⟨simple, hfree, rfl⟩
  rw [rejoined_dot_append hfree] at hsame
  have hlength := congrArg String.length hsame
  rw [String.length_append] at hlength
  simp at hlength

/-- Two names become one when they are the same but for a dot in front of a simple name. -/
theorem rejoined_eq_rejoined_iff : rejoined name = rejoined other ↔ SameButForDot name other := by
  constructor
  · intro hsame
    by_cases hname : IsDottedSimple name
    · obtain ⟨simple, hfree, rfl⟩ := hname
      rw [rejoined_dot_append hfree] at hsame
      by_cases hother : IsDottedSimple other
      · obtain ⟨simple', hfree', rfl⟩ := hother
        rw [rejoined_dot_append hfree'] at hsame
        exact .inl (congrArg ("." ++ ·) hsame)
      · rw [rejoined_of_not_isDottedSimple hother] at hsame
        exact .inr ⟨simple, hfree, .inl ⟨rfl, hsame.symm⟩⟩
    · rw [rejoined_of_not_isDottedSimple hname] at hsame
      by_cases hother : IsDottedSimple other
      · obtain ⟨simple, hfree, rfl⟩ := hother
        rw [rejoined_dot_append hfree] at hsame
        exact .inr ⟨simple, hfree, .inr ⟨hsame, rfl⟩⟩
      · rw [rejoined_of_not_isDottedSimple hother] at hsame
        exact .inl hsame
  · rintro (rfl | ⟨simple, hfree, ⟨rfl, rfl⟩ | ⟨rfl, rfl⟩⟩)
    · rfl
    · rw [rejoined_dot_append hfree, rejoined_of_notMem hfree]
    · rw [rejoined_dot_append hfree, rejoined_of_notMem hfree]

end Name

/-! ### The name of a unit -/

namespace Bundle

open Name

theorem dot_mem_className_iff (config : Config) (b : Bundle) :
    '.' ∈ (b.className config).toList ↔ '.' ∈ config.implSuffix.toList := by
  rw [Bundle.className, Name.className, String.toList_append, List.mem_append]
  exact or_iff_right (dot_notMem_simpleName b.qualifiedName)

/-- The name of a unit is taken apart into the class that it declares and the package it is in
exactly when the suffix has no dot, whatever the interface and the namespace are called. Then
the file of the unit has the name of the class, below the directories of the package. -/
theorem outputName_parts_iff (config : Config) (b : Bundle) :
    (simpleName (b.outputName config) = b.className config ∧
        packageOf (b.outputName config) = b.namespaceName ↔ '.' ∉ config.implSuffix.toList) ∧
      ('.' ∉ config.implSuffix.toList →
        sourcePath (b.outputName config) =
          Path.push (Path.ofParts ((Text.pieces '.' b.namespaceName).filter (· ≠ "")))
            (b.className config ++ ".java")) := by
  have hparts : '.' ∉ config.implSuffix.toList →
      simpleName (b.outputName config) = b.className config ∧
        packageOf (b.outputName config) = b.namespaceName := by
    intro hsuffix
    exact parts_qualify (mt (dot_mem_className_iff config b).mp hsuffix) b.namespaceName
  refine ⟨⟨?_, hparts⟩, fun hsuffix => ?_⟩
  · -- a simple name has no dot, and the class has one if the suffix does
    rintro ⟨hclass, -⟩ hdot
    have hfree := dot_notMem_simpleName (b.outputName config)
    rw [hclass] at hfree
    exact hfree ((dot_mem_className_iff config b).mpr hdot)
  · obtain ⟨hclass, hpackage⟩ := hparts hsuffix
    rw [sourcePath, packageParts, hclass, hpackage]

/-- A bundle in a namespace that is not the package of its interface. -/
def movedBundle : Bundle :=
  { qualifiedName := "a.B", namespaceName := "c.d", projectCode := "A", methods := [] }

/-- With the usual suffix, the parts of the name of a unit are those of its class. With a suffix
that has a dot, which is usable too, they are not: the class `B.Impl` would be filed as
`Impl`. -/
theorem outputName_parts_two_suffixes :
    ({} : Config).fault? = none ∧ '.' ∉ ({} : Config).implSuffix.toList ∧
      simpleName (movedBundle.outputName {}) = "B_impl" ∧
      packageOf (movedBundle.outputName {}) = "c.d" ∧
      sourcePath (movedBundle.outputName {}) = "c/d/B_impl.java" ∧
      ({ implSuffix := ".Impl" } : Config).fault? = none ∧
      ¬(simpleName (movedBundle.outputName { implSuffix := ".Impl" }) = "B.Impl" ∧
        packageOf (movedBundle.outputName { implSuffix := ".Impl" }) = "c.d") := by
  have hfree : '.' ∉ ({} : Config).implSuffix.toList := by decide
  obtain ⟨hiff, hpath⟩ := outputName_parts_iff {} movedBundle
  obtain ⟨hclass, hpackage⟩ := hiff.mpr hfree
  have hname : movedBundle.className {} = "B_impl" := by decide
  have hdotted := (outputName_parts_iff { implSuffix := ".Impl" } movedBundle).1
  have hdottedName : movedBundle.className { implSuffix := ".Impl" } = "B.Impl" := by decide
  refine ⟨by decide, hfree, hclass.trans hname, hpackage, (hpath hfree).trans (by decide),
    by decide, ?_⟩
  rw [← hdottedName]
  intro hparts
  exact hdotted.mp hparts (by decide)

end Bundle

end MessageBundle

import MessageBundle.Proofs.Name.Rejoining
import MessageBundle.Proofs.Round.Extent

/-!
# Bundles whose classes have one name

A round stops at a bundle whose class has the name of a class before it. The name of a class
is that of its interface taken apart, with the suffix at the simple name, and put together
again. Without a namespace of its own, an interface is therefore known by its name with the
suffix behind it, unless the name is lost on the way: that of a simple name with a dot in
front is the simple name. So two interfaces collide when they have one name, and when they
have the same simple name, one of them with a dot in front of it.

## Main results

* `Interface.outputName_eq` — the name of the class, when the namespace is not given
* `render_eq_duplicateOutput_iff` — a round reports a name twice when it stops at a bundle
  whose class has the name of one before it
* `unplaced_bundles_collide_iff` — when this happens to interfaces whose namespaces are not
  given
-/

namespace MessageBundle

open Name

variable {config : Config} {interfaces : List Interface} {target : String}

/-! ### A name that is taken -/

/-- Only the check of an output name fails because a name is taken. -/
theorem eq_newOutput_of_fault? {strict : Bool} {before : List Check} {check : Check}
    (h : check.fault? strict before = some (.duplicateOutput target)) :
    check = .newOutput target := by
  cases check with
  | newOutput name =>
    rw [Check.fault?] at h
    split at h
    · cases h
      rfl
    · cases h
  | soundTemplate id template =>
    obtain ⟨offset, -, hcause⟩ := Option.map_eq_some_iff.mp h
    cases hcause
  | newNumber id template =>
    obtain ⟨previous, -, hcause⟩ := Option.map_eq_some_iff.mp h
    cases hcause
  | _ => simp [Check.fault?] at h

/-- The checks of a method do not fail because a name is taken. -/
theorem firstFault?_methodChecks_ne {strict : Bool} {before : List Check} (m : Method) :
    firstFault? strict before m.checks ≠ some (.duplicateOutput target) := by
  intro hfirst
  obtain ⟨passed, check, later, hplace, -, hfault⟩ := firstFault?_eq_some_iff.mp hfirst
  obtain rfl := eq_newOutput_of_fault? hfault
  have hmem : Check.newOutput target ∈ m.checks := by simp [hplace]
  have hnone := List.filterMap_eq_nil_iff.mp (target?_methodChecks m) _ hmem
  cases hnone

theorem exists_render_iff :
    (∃ sources, render config interfaces = .ok sources) ↔
      firstFault? config.strictAnnotations [] (checks config interfaces) = none := by
  rw [firstFault?_checks_eq_none_iff]
  refine ⟨?_, exists_render_of_acceptable⟩
  rintro ⟨sources, hrender⟩
  exact acceptable_of_render hrender

theorem map_outputName_collect (config : Config) (interfaces : List Interface) :
    (collect interfaces).map (Bundle.outputName config) =
      (bundled interfaces).map (Interface.outputName config) :=
  map_collect_eq fun _ _ => outputName_toBundle?

/-- The place of a bundle among the collected ones is the place of its interface. -/
theorem exists_of_collect_eq {earlier later : List Bundle} {b : Bundle}
    (h : collect interfaces = earlier ++ b :: later) :
    ∃ before i after, interfaces = before ++ i :: after ∧ collect before = earlier ∧
      i.toBundle? = some b := by
  obtain ⟨front, back, rfl, hfront, hback⟩ := List.filterMap_eq_append_iff.mp h
  obtain ⟨skipped, i, after, rfl, hskipped, hbundle, -⟩ := List.filterMap_eq_cons_iff.mp hback
  refine ⟨front ++ skipped, i, after, (List.append_assoc _ _ _).symm, ?_, hbundle⟩
  have hnone := List.filterMap_eq_nil_iff.mpr hskipped
  rw [collect, List.filterMap_append, hfront, hnone, List.append_nil]

/-- A round reports that a name is taken exactly when it comes to a bundle whose class has the
name of a class before it, and everything before that bundle is accepted. -/
theorem render_eq_duplicateOutput_iff :
    render config interfaces = .error (.duplicateOutput target) ↔
      ∃ before j after, interfaces = before ++ j :: after ∧
        (∃ sources, render config before = .ok sources) ∧ j.projectCode.isSome = true ∧
        j.outputName config = target ∧ ∃ i ∈ bundled before, i.outputName config = target := by
  constructor
  · intro hrender
    have hlooks := looksAt_lookedAt config interfaces
    rw [hrender] at hlooks
    generalize lookedAt config interfaces = looked at hlooks
    cases hlooks with
    | @upToBundle earlier later b place passed taken =>
      obtain ⟨before, j, after, rfl, rfl, hbundle⟩ := exists_of_collect_eq place
      obtain ⟨code, hcode, -⟩ := Option.map_eq_some_iff.mp hbundle
      rw [map_outputName_collect] at taken
      refine ⟨before, j, after, rfl, exists_render_iff.mpr (allPass_iff.mp passed), ?_,
        (outputName_toBundle? hbundle).symm, List.mem_map.mp taken⟩
      rw [hcode, Option.isSome_some]
    | upToMethod place inside passed fails => exact absurd fails (firstFault?_methodChecks_ne _)
  · rintro ⟨before, j, after, rfl, haccepted, hcode, rfl, i, hi, hname⟩
    obtain ⟨code, hcode⟩ := Option.isSome_iff_exists.mp hcode
    have hbundle : j.toBundle? = some ⟨j.name, j.effectiveNamespace, code,
        j.methods.filter Method.isAnnotated⟩ := by
      rw [Interface.toBundle?, hcode, Option.map_some]
    -- the checks before the bundle pass, and the one of its name comes next
    have hchecks : checks config (before ++ j :: after) = checks config before ++
        (.newOutput (j.outputName config) ::
          (j.methods.filter Method.isAnnotated).flatMap Method.checks ++
            checks config after) := by
      rw [checks, collect, List.filterMap_append, List.filterMap_cons_some hbundle,
        List.flatMap_append, List.flatMap_cons, Bundle.checks, outputName_toBundle? hbundle]
      rfl
    have hfault : (Check.newOutput (j.outputName config)).fault? config.strictAnnotations
        (checks config before) = some (.duplicateOutput (j.outputName config)) := by
      have htaken : j.outputName config ∈ (collect before).map (Bundle.outputName config) := by
        rw [map_outputName_collect, ← hname]
        exact List.mem_map_of_mem hi
      rw [checks, fault?_newOutput_bundlesChecks, if_pos htaken]
    rw [← faultOf_eq_some_iff, faultOf_render]
    refine firstFault?_eq_some_iff.mpr ⟨_, _, _, hchecks, exists_render_iff.mp haccepted, ?_⟩
    rw [List.nil_append, hfault]

/-! ### Interfaces without a namespace of their own -/

/-- Without a namespace of its own, an interface gives its class its name put together again,
with the suffix behind it. -/
theorem Interface.outputName_eq {i : Interface} (h : i.namespaceName = none) (config : Config) :
    i.outputName config = rejoined i.name ++ config.implSuffix := by
  rw [Interface.outputName, Interface.effectiveNamespace, h, Option.getD_none, Name.className,
    qualify_append, rejoined]

theorem Interface.outputName_eq_outputName_iff {i j : Interface} (hi : i.namespaceName = none)
    (hj : j.namespaceName = none) (config : Config) :
    i.outputName config = j.outputName config ↔ SameButForDot i.name j.name := by
  rw [i.outputName_eq hi, j.outputName_eq hj, String.append_left_inj, rejoined_eq_rejoined_iff]

/-- In a round over two bundles, the second one collides with the first when their classes have
one name. -/
theorem render_pair_eq_duplicateOutput_iff {i j : Interface} (hi : i.projectCode.isSome = true)
    (hj : j.projectCode.isSome = true) (haccepted : ∃ sources, render config [i] = .ok sources) :
    render config [i, j] = .error (.duplicateOutput (j.outputName config)) ↔
      i.outputName config = j.outputName config := by
  rw [render_eq_duplicateOutput_iff]
  constructor
  · rintro ⟨before, k, after, hplace, -, -, -, i', hi', hname⟩
    -- something stands before the bundle that is refused, and that can only be the first
    cases before with
    | nil => cases hi'
    | cons first before =>
      obtain ⟨rfl, hrest⟩ := List.cons.inj hplace
      have hbefore : before = [] := by
        have hlength : 1 = (before ++ k :: after).length := congrArg List.length hrest
        rw [List.length_append, List.length_cons] at hlength
        exact List.length_eq_zero_iff.mp (by omega)
      rw [hbefore, bundled, List.mem_filter, List.mem_singleton] at hi'
      rwa [← hi'.1]
  · intro hname
    refine ⟨[i], j, [], rfl, haccepted, hj, rfl, i, ?_, hname⟩
    rw [bundled, List.mem_filter]
    exact ⟨List.mem_singleton_self i, hi⟩

/-- Names are taken apart and put together without loss, unless the only dot of a name is in
front. So a class is known by the name of its interface with the suffix behind it, if the
namespace is not given, but for such names, where the dot is missing. The classes of two such
interfaces have one name exactly when the interfaces have, or when their names differ in such
a dot, and then they collide in a round. In general, a round reports a name as taken exactly
when it comes, with everything accepted so far, to an interface whose class has the name of a
class before it. -/
theorem unplaced_bundles_collide_iff (config : Config) :
    (∀ name, qualify (packageOf name) (simpleName name) = name ↔ ¬IsDottedSimple name) ∧
    (∀ i : Interface, i.namespaceName = none →
      (i.outputName config = i.name ++ config.implSuffix ↔ ¬IsDottedSimple i.name) ∧
      ∀ simple, '.' ∉ simple.toList → i.name = "." ++ simple →
        i.outputName config = simple ++ config.implSuffix) ∧
    (∀ i j : Interface, i.namespaceName = none → j.namespaceName = none →
      (i.outputName config = j.outputName config ↔ SameButForDot i.name j.name) ∧
      (i.projectCode.isSome = true → j.projectCode.isSome = true →
        (∃ sources, render config [i] = .ok sources) →
        (render config [i, j] = .error (.duplicateOutput (j.outputName config)) ↔
          SameButForDot i.name j.name))) ∧
    ∀ interfaces target, render config interfaces = .error (.duplicateOutput target) ↔
      ∃ before j after, interfaces = before ++ j :: after ∧
        (∃ sources, render config before = .ok sources) ∧ j.projectCode.isSome = true ∧
        j.outputName config = target ∧ ∃ i ∈ bundled before, i.outputName config = target := by
  refine ⟨fun name => rejoined_eq_self_iff, fun i hi => ⟨?_, ?_⟩, fun i j hi hj => ⟨?_, ?_⟩,
    fun interfaces target => render_eq_duplicateOutput_iff⟩
  · rw [i.outputName_eq hi, String.append_left_inj, rejoined_eq_self_iff]
  · intro simple hfree hname
    rw [i.outputName_eq hi, hname, rejoined_dot_append hfree]
  · exact Interface.outputName_eq_outputName_iff hi hj config
  · intro hmarked hmarked' haccepted
    rw [render_pair_eq_duplicateOutput_iff hmarked hmarked' haccepted]
    exact Interface.outputName_eq_outputName_iff hi hj config

/-- Three bundles without methods and without a namespace of their own. -/
def dottedBundles : List Interface :=
  [{ name := "B", projectCode := some "A" }, { name := "a.B", projectCode := some "A" },
    { name := ".B", projectCode := some "A" }]

/-- The round over the first two of them is accepted. The third one collides with the first,
whose name has no dot in front, also when there is no other, and not with the second. -/
theorem unplaced_bundles_collide_dotted :
    SameButForDot "B" ".B" ∧ ¬SameButForDot "a.B" ".B" ∧
      (∃ sources, render {} (dottedBundles.take 2) = .ok sources) ∧
      render {} dottedBundles = .error (.duplicateOutput "B_impl") ∧
      render {} [dottedBundles[0], dottedBundles[2]] = .error (.duplicateOutput "B_impl") := by
  obtain ⟨-, hname, hpair, hround⟩ := unplaced_bundles_collide_iff {}
  have hthird := (hname (dottedBundles[2]) rfl).2 "B" (by decide) rfl
  have haccepted : ∃ sources, render {} (dottedBundles.take 2) = .ok sources := ⟨_, rfl⟩
  have hsame : SameButForDot "B" ".B" := .inr ⟨"B", by decide, .inr ⟨rfl, rfl⟩⟩
  obtain ⟨hclasses, hround₂⟩ := hpair (dottedBundles[0]) (dottedBundles[2]) rfl rfl
  refine ⟨hsame, ?_, haccepted, ?_, ?_⟩
  · intro hsame'
    have hequal := (hpair (dottedBundles[1]) (dottedBundles[2]) rfl rfl).1.mpr hsame'
    exact absurd hequal (by decide)
  · refine (hround dottedBundles "B_impl").mpr ⟨dottedBundles.take 2, dottedBundles[2], [], rfl,
      haccepted, rfl, hthird, dottedBundles[0], by decide, ?_⟩
    rw [hclasses.mpr hsame]
    exact hthird
  · rw [(hround₂ rfl rfl ⟨_, rfl⟩).mpr hsame, hthird]
    rfl

end MessageBundle

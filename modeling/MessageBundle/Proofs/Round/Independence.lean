import Mathlib.Data.List.Flatten
import Mathlib.Data.List.Perm.Subperm
import MessageBundle.Proofs.Round.Acceptance

/-!
# Rounds over other interfaces or in another order

A round threads a registry and a list of names through its bundles, and yet it does not
matter in which order they come, nor which others there are. The rules of a round say that
something holds of every interface and that nothing stands twice among all of them, so they
hold on when interfaces are left out or change places. And the unit of an interface is told
by the interface alone, as what a round over nothing else renders.

## Main results

* `Acceptable.of_subperm` — the rules hold on for some of the interfaces in any order
* `Interface.IsRenderedAs.unique` — an interface has one unit
* `render_singleton_of_isRenderedAs` — the unit of an interface is rendered without others
* `render_subperm` — a round over some of the interfaces in any order
-/

namespace MessageBundle

variable {config : Config} {interfaces interfaces' : List Interface} {sources : List Source}

/-! ### The rules -/

/-- The rules of a round hold on when interfaces are left out and others change places. -/
theorem Acceptable.of_subperm (h : interfaces'.Subperm interfaces)
    (hrules : Acceptable config interfaces) : Acceptable config interfaces' := by
  obtain ⟨kept, hperm, hsublist⟩ := h
  have hsub : (bundled kept).Sublist (bundled interfaces) := hsublist.filter _
  have hsame : (bundled kept).Perm (bundled interfaces') := hperm.filter _
  refine { outputs := ?_, methods := ?_, numbers := ?_ }
  · rw [← (hsame.map _).nodup_iff]
    exact hrules.outputs.sublist (hsub.map _)
  · intro i hi
    exact hrules.methods i (hsub.subset (hsame.mem_iff.mpr hi))
  · rw [← (hsame.flatMap_right _).nodup_iff]
    exact hrules.numbers.sublist (hsub.flatMap _)

/-! ### The unit of an interface -/

/-- What a method is resolved to is told by the method. -/
theorem Method.IsResolvedBy.unique {m : Method} {resolved resolved' : ResolvedMethod}
    (h : m.IsResolvedBy resolved) (h' : m.IsResolvedBy resolved') : resolved = resolved' := by
  have hresolution : resolved.resolution = resolved'.resolution := h.2.unique h'.2
  calc
    resolved = ⟨m, resolved.resolution⟩ := by rw [← h.1]
    _ = ⟨m, resolved'.resolution⟩ := by rw [hresolution]
    _ = resolved' := by rw [← h'.1]

/-- What an interface is rendered as is told by the interface. -/
theorem Interface.IsRenderedAs.unique {i : Interface} {source source' : Source}
    (h : i.IsRenderedAs config source) (h' : i.IsRenderedAs config source') :
    source = source' := by
  obtain ⟨b, methods, hb, hmethods, rfl⟩ := h
  obtain ⟨b', methods', hb', hmethods', rfl⟩ := h'
  obtain rfl := Option.some.inj (hb.symm.trans hb')
  have hunique : Relator.RightUnique Method.IsResolvedBy :=
    fun _ _ _ h h' => Method.IsResolvedBy.unique h h'
  rw [List.right_unique_forall₂' hunique hmethods hmethods']

/-- The unit that an interface has in a round is rendered without the others. -/
theorem render_singleton_of_isRenderedAs {i : Interface} {source : Source}
    (hrules : Acceptable config interfaces) (hi : i ∈ bundled interfaces)
    (h : i.IsRenderedAs config source) : render config [i] = .ok [source] := by
  obtain ⟨hmem, hcode⟩ := List.mem_filter.mp hi
  have halone : bundled [i] = [i] := List.filter_cons_of_pos hcode
  obtain ⟨sources, hsources⟩ := exists_render_of_acceptable
    (hrules.of_subperm (List.singleton_sublist.mpr hmem).subperm)
  have hunits := forall₂_isRenderedAs hsources
  rw [halone, List.forall₂_cons_left_iff] at hunits
  obtain ⟨source', rest, hsource', hrest, rfl⟩ := hunits
  rw [List.forall₂_nil_left_iff] at hrest
  rw [hsources, hrest, h.unique hsource']

/-- In a round, each interface that takes part has the unit that it has without the others. -/
theorem forall₂_render_singleton (h : render config interfaces = .ok sources) :
    List.Forall₂ (fun i source => render config [i] = .ok [source]) (bundled interfaces)
      sources := by
  have hunits := (List.forall₂_and_left _ _).mpr ⟨fun _ hi => hi, forall₂_isRenderedAs h⟩
  exact hunits.imp fun i source hi =>
    render_singleton_of_isRenderedAs (acceptable_of_render h) hi.1 hi.2

/-! ### Other rounds -/

/-- A round stays accepted when interfaces are left out and others change places. -/
theorem exists_render_of_subperm (h : interfaces'.Subperm interfaces)
    (hok : ∃ sources, render config interfaces = .ok sources) :
    ∃ sources, render config interfaces' = .ok sources := by
  obtain ⟨sources, hsources⟩ := hok
  exact exists_render_of_acceptable ((acceptable_of_render hsources).of_subperm h)

/-- There is a function that gives each interface its unit, and those without one any. -/
theorem exists_unit (config : Config) :
    ∃ unit : Interface → Source,
      ∀ i source, render config [i] = .ok [source] → source = unit i := by
  have hunit : ∀ i, ∃ unit, ∀ source, render config [i] = .ok [source] → source = unit := by
    intro i
    by_cases h : ∃ source, render config [i] = .ok [source]
    · obtain ⟨unit, hrender⟩ := h
      refine ⟨unit, fun source hsource => ?_⟩
      rw [hrender] at hsource
      injection hsource with hsource
      exact (List.singleton_inj.mp hsource).symm
    -- an interface that is not rendered on its own has no unit to agree with
    · exact ⟨⟨"", "", 0⟩, fun source hsource => absurd ⟨source, hsource⟩ h⟩
  choose unit hunit using hunit
  exact ⟨unit, hunit⟩

/-- The sources of a round are the units of its interfaces. -/
theorem eq_map_unit {unit : Interface → Source}
    (hunit : ∀ i source, render config [i] = .ok [source] → source = unit i)
    (h : render config interfaces = .ok sources) : sources = (bundled interfaces).map unit := by
  have hunits : List.Forall₂ (fun i source => unit i = source) (bundled interfaces) sources :=
    (forall₂_render_singleton h).imp fun i source hsource => (hunit i source hsource).symm
  rw [← List.forall₂_map_left_iff, List.forall₂_eq_eq_eq] at hunits
  exact hunits.symm

/-- Some of the interfaces of a round that is rendered, in any order, are rendered too, and
each of them as the unit that it has in the round, which is the one it has on its own. All
interfaces in another order are rendered exactly when they are in the first one. -/
theorem render_subperm (config : Config) (h : interfaces'.Subperm interfaces) :
    (∀ sources, render config interfaces = .ok sources →
      ∃ unit : Interface → Source,
        sources = (bundled interfaces).map unit ∧
        render config interfaces' = .ok ((bundled interfaces').map unit) ∧
        ∀ i ∈ bundled interfaces, render config [i] = .ok [unit i]) ∧
      (interfaces'.Perm interfaces →
        ((∃ sources, render config interfaces = .ok sources) ↔
          ∃ sources, render config interfaces' = .ok sources)) := by
  -- a full permutation goes both ways
  refine ⟨fun sources hsources => ?_, fun hperm => ⟨fun hok => exists_render_of_subperm h hok,
    fun hok => exists_render_of_subperm hperm.symm.subperm hok⟩⟩
  obtain ⟨unit, hunit⟩ := exists_unit config
  obtain ⟨sources', hsources'⟩ := exists_render_of_subperm h ⟨sources, hsources⟩
  have halone := forall₂_render_singleton hsources
  rw [eq_map_unit hunit hsources, List.forall₂_map_right_iff, List.forall₂_same] at halone
  refine ⟨unit, eq_map_unit hunit hsources, ?_, halone⟩
  rw [hsources', eq_map_unit hunit hsources']

/-- The two bundles behind a third one. -/
def threeBundles : List Interface :=
  { name := "a.C", projectCode := some "C" } :: twoBundles

/-- Without the third bundle and in the other order, the two have the units they had, the first
of them the one that it has by itself. -/
theorem render_subperm_two_of_three :
    twoBundles.reverse.Subperm threeBundles ∧
      ∃ second third, render {} threeBundles = .ok [third, firstUnit, second] ∧
        render {} twoBundles.reverse = .ok [second, firstUnit] := by
  have hsub : twoBundles.reverse.Subperm threeBundles :=
    (List.reverse_perm twoBundles).subperm.trans (List.sublist_cons_self _ _).subperm
  have hrender : ∃ sources, render {} threeBundles = .ok sources := ⟨_, rfl⟩
  obtain ⟨sources, hsources⟩ := hrender
  obtain ⟨unit, hunits, hunits', halone⟩ := (render_subperm {} hsub).1 sources hsources
  have hmem : twoBundles[0] ∈ bundled threeBundles := by decide
  have hfirst : firstUnit = unit (twoBundles[0]) := by
    have hunit := render_first_of_two.symm.trans (halone _ hmem)
    exact (List.cons.inj (Except.ok.inj hunit)).1
  rw [hunits] at hsources
  refine ⟨hsub, unit (twoBundles[1]), unit (threeBundles[0]), ?_, ?_⟩
  · rw [hsources, hfirst]
    rfl
  · rw [hunits', hfirst]
    rfl

end MessageBundle

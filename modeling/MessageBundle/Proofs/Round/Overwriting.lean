import MessageBundle.Manifest.Loading
import MessageBundle.Proofs.Filer.Directory
import MessageBundle.Proofs.Round.Acceptance

/-!
# Units that overwrite one another

No two units of a round have one name, but two names can lead to one file: the empty
segments of a package are left out of the path, and a slash in a segment cuts it like a
dot. A directory asks nothing about files that stand in the way, so the later unit takes
the place of the earlier one, and both are reported. Every reported unit is on disk
exactly when units that share a file do not differ. Names whose segments all name
something and have no slash never share one.

## Main results

* `reported_units_on_disk_iff` — what stands in the files of the units of a round
* `unit_overwritten` — a round that reports two units and leaves one of them on disk
-/

namespace MessageBundle

open DirectoryFiler

variable {config : Config} {root : String} {interfaces : List Interface} {t t' : FileTree}
  {report : Report} {events : List Event}

/-- Behind a successful round into a directory, the file of each reported unit holds what
was written to its place last. All of them hold their own units exactly when no two units
that differ belong to one place, which is never the case with plain names. -/
theorem reported_units_on_disk_iff
    (h : process config (filer FileTree.access root) interfaces t = ((.ok report, events), t')) :
    ∃ sources, render config interfaces = .ok sources ∧
      report.units = sources.map Source.reported ∧
      (∀ source ∈ sources, ∃ last, lastAt root t sources (place root t source) = some last ∧
        t'.read (pathFor root source.qualifiedName) = .ok last.contents.toUTF8) ∧
      ((∀ source ∈ sources,
          t'.read (pathFor root source.qualifiedName) = .ok source.contents.toUTF8) ↔
        ∀ a ∈ sources, ∀ b ∈ sources, place root t a = place root t b → a.contents = b.contents) ∧
      ((∀ source ∈ sources, Name.IsPlain source.qualifiedName) →
        ∀ source ∈ sources,
          t'.read (pathFor root source.qualifiedName) = .ok source.contents.toUTF8) := by
  obtain ⟨sources, hrender, hunits, hwritten⟩ := written_of_report h
  have hiff := hwritten.forall_read_eq_iff
  refine ⟨sources, hrender, hunits, fun source hmem => hwritten.read_eq hmem, hiff, ?_⟩
  -- plain names that belong to one place are one name, which no two units have
  intro hplain
  apply hiff.mpr
  intro a ha b hb hplace
  have hname := qualifiedName_eq_of_place_eq (hplain a ha) (hplain b hb) hplace
  have hsame := List.inj_on_of_nodup_map (nodup_qualifiedNames_of_render hrender) ha hb hname
  rw [hsame]

/-- A tree with nothing in it. -/
def emptyTree : FileTree := ⟨[], []⟩

/-- The names of the two bundles are plain, and both of their units are on disk. -/
theorem reported_units_on_disk_two_bundles :
    ∃ first second, render {} twoBundles = .ok [first, second] ∧
      ∀ source ∈ [first, second],
        (process {} (filer FileTree.access "out") twoBundles emptyTree).2.read
          (pathFor "out" source.qualifiedName) = .ok source.contents.toUTF8 := by
  have hrender : ∃ first second, render {} twoBundles = .ok [first, second] ∧
      first.qualifiedName = "a.A_impl" ∧ second.qualifiedName = "a.B_impl" :=
    ⟨_, _, rfl, rfl, rfl⟩
  obtain ⟨first, second, hrender, hfirst, hsecond⟩ := hrender
  refine ⟨first, second, hrender, ?_⟩
  have hreport : (process {} (filer FileTree.access "out") twoBundles emptyTree).1.1 =
      .ok ⟨[⟨"a.A_impl", 1⟩, ⟨"a.B_impl", 2⟩], 2⟩ := by decide +kernel
  rcases hround : process {} (filer FileTree.access "out") twoBundles emptyTree with
    ⟨⟨answer, events⟩, t'⟩
  rw [hround] at hreport
  obtain rfl : answer = .ok ⟨[⟨"a.A_impl", 1⟩, ⟨"a.B_impl", 2⟩], 2⟩ := hreport
  obtain ⟨sources, hsources, -, -, -, hplain⟩ := reported_units_on_disk_iff hround
  rw [hrender] at hsources
  obtain rfl := Except.ok.inj hsources
  refine hplain ?_
  rw [List.forall_mem_cons, List.forall_mem_singleton, hfirst, hsecond]
  exact ⟨by decide, by decide⟩

/-- Two interfaces whose names differ in an empty segment. -/
def sharingBundles : List Interface :=
  [{ name := "a.B", projectCode := some "A" }, { name := "a..B", projectCode := some "A" }]

/-- A round over them reports two units, but the file of the first one holds the second. -/
theorem unit_overwritten :
    Manifest.validate ⟨{}, sharingBundles⟩ = .ok () ∧
      ∃ first second, render {} sharingBundles = .ok [first, second] ∧
        (process {} (filer FileTree.access "out") sharingBundles emptyTree).1.1 =
          .ok ⟨[first.reported, second.reported], 0⟩ ∧
        (process {} (filer FileTree.access "out") sharingBundles emptyTree).2.read
          (pathFor "out" first.qualifiedName) = .ok second.contents.toUTF8 ∧
        first.contents ≠ second.contents := by
  have hrender : ∃ first second, render {} sharingBundles = .ok [first, second] ∧
      first.reported = ⟨"a.B_impl", 0⟩ ∧ second.reported = ⟨"a..B_impl", 0⟩ ∧
      first.contents ≠ second.contents :=
    ⟨_, _, rfl, rfl, rfl, by decide +kernel⟩
  obtain ⟨first, second, hrender, hfirst, hsecond, hcontents⟩ := hrender
  have hreport : (process {} (filer FileTree.access "out") sharingBundles emptyTree).1.1 =
      .ok ⟨[first.reported, second.reported], 0⟩ := by
    rw [hfirst, hsecond]
    decide +kernel
  refine ⟨by decide, first, second, hrender, hreport, ?_, hcontents⟩
  -- the second unit belongs where the first one was written, and comes last
  have hplace : place "out" emptyTree second = place "out" emptyTree first := by
    rw [place, place, (ReportedUnit.mk.inj hfirst).1, (ReportedUnit.mk.inj hsecond).1]
    decide +kernel
  have hlast : lastAt "out" emptyTree [first, second] (place "out" emptyTree first) =
      some second := (lastAt_concat [first] second _).trans (if_pos hplace)
  rcases hround : process {} (filer FileTree.access "out") sharingBundles emptyTree with
    ⟨⟨answer, events⟩, t'⟩
  rw [hround] at hreport
  obtain rfl : answer = .ok ⟨[first.reported, second.reported], 0⟩ := hreport
  obtain ⟨sources, hsources, -, hwritten⟩ := written_of_report hround
  rw [hrender] at hsources
  obtain rfl := Except.ok.inj hsources
  obtain ⟨last, hlast', hread⟩ := hwritten.read_eq (List.mem_cons_self (a := first))
  rw [hlast] at hlast'
  obtain rfl := Option.some.inj hlast'
  exact hread

end MessageBundle

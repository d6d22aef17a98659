import MessageBundle.Manifest.Loading
import MessageBundle.Proofs.Filer.Directory
import MessageBundle.Proofs.Round.Acceptance

/-!
# Output under the root directory

The path of a unit is built from its name, and the segments of a name are arbitrary texts.
No component of the path is a step up, since a segment has no dot. But joining a path that
starts with a slash leaves nothing of what it is joined to, so that a segment that starts
with a slash leads out of the root directory, to the same file whatever the root is.
Without such a segment all files of a round, and of a round that fails half way, are below
the root.

## Main definitions

* `Path.IsBelow` — a path is a root followed by components that are not steps up

## Main results

* `isBelow_pathFor_iff` — when the file of a class is below every root
* `output_confined_iff` — the paths of a round, and the files that it leaves in a tree
* `output_escapes` — a round that is let through and writes beside its root
-/

namespace MessageBundle

open DirectoryFiler

/-- A path is a root followed by one component at least, and by none that is a step up. -/
def Path.IsBelow (root path : String) : Prop :=
  isAbsolute path = isAbsolute root ∧
    ∃ names, names ≠ [] ∧ ".." ∉ names ∧
      FileTree.components path = FileTree.components root ++ names

/-- The file of a class is below every root when no segment of its name starts with a
slash, and only then. -/
theorem isBelow_pathFor_iff {name : String} :
    (∀ root, Path.IsBelow root (pathFor root name)) ↔ Name.IsRelative name := by
  constructor
  · intro hbelow
    by_contra hname
    -- the empty root is relative, but the path is not
    have hroot := (hbelow "").1
    rw [(pathFor_of_not_isRelative hname "").1, Path.isAbsolute_empty] at hroot
    exact Bool.false_ne_true hroot.symm
  · intro hname root
    obtain ⟨habsolute, hcomponents⟩ := pathFor_of_isRelative hname root
    exact ⟨habsolute, FileTree.components (Name.sourcePath name),
      Name.components_sourcePath_ne_nil name, Name.up_notMem_components_sourcePath name,
      hcomponents⟩

variable {config : Config} {interfaces : List Interface} {root : String} {t t' : FileTree}

/-- Files that are written for units with such names are below the root. -/
theorem below_of_written {units tried : List Source} {location : Location} {bytes : ByteArray}
    (h : Written root units tried t t')
    (hnames : ∀ source ∈ units, Name.IsRelative source.qualifiedName)
    (hfile : t'.get? location = some (.file bytes)) :
    t.get? location = some (.file bytes) ∨
      ∃ names, names ≠ [] ∧ ".." ∉ names ∧ location = t.locate root ++ names := by
  rcases h.file_cases hfile with hbefore | ⟨source, hmem, hplace⟩
  · exact .inl hbefore
  · refine .inr ⟨FileTree.components (Name.sourcePath source.qualifiedName),
      Name.components_sourcePath_ne_nil _, Name.up_notMem_components_sourcePath _, ?_⟩
    rw [← hplace, place, locate_pathFor_of_isRelative (hnames source hmem)]

/-- However a round ends, what was written are units of its interfaces. -/
theorem exists_written (config : Config) (root : String) (interfaces : List Interface)
    (t : FileTree) :
    ∃ units tried,
      Written root units tried t (process config (filer FileTree.access root) interfaces t).2 ∧
        ∀ source ∈ units,
          source.qualifiedName ∈ (bundled interfaces).map (Interface.outputName config) := by
  rcases round_cases config root interfaces t with ⟨cause, events, -, hround⟩ |
    ⟨sources, t', ids, events, hrender, hwritten, hround⟩ |
    ⟨before, refused, rest, fault, t', events, hrender, hwritten, hround⟩
  · rw [hround]
    exact ⟨[], [], .nil root t, nofun⟩
  · rw [hround]
    refine ⟨sources, sources, hwritten, fun source hmem => ?_⟩
    rw [← qualifiedNames_of_render hrender]
    exact List.mem_map_of_mem hmem
  · rw [hround]
    refine ⟨before, before ++ [refused], hwritten, fun source hmem => ?_⟩
    rw [← qualifiedNames_of_render hrender]
    exact List.mem_map_of_mem (List.mem_append_left _ hmem)

/-- The file of a class of a round is below the root, whatever the root is, exactly when no
segment of its name starts with a slash; with such a segment it is the same absolute path
for every root. Without one in any name, a round leaves the files that were there before
and files below the root, also when it fails. -/
theorem output_confined_iff (config : Config) (interfaces : List Interface) :
    (∀ i ∈ bundled interfaces,
        ((∀ root, Path.IsBelow root (pathFor root (i.outputName config))) ↔
          Name.IsRelative (i.outputName config)) ∧
        (¬Name.IsRelative (i.outputName config) → ∀ root,
          Path.isAbsolute (pathFor root (i.outputName config)) = true ∧
          pathFor root (i.outputName config) = Name.sourcePath (i.outputName config))) ∧
      ((∀ i ∈ bundled interfaces, Name.IsRelative (i.outputName config)) →
        ∀ root t location bytes,
          (process config (filer FileTree.access root) interfaces t).2.get? location =
            some (.file bytes) →
          t.get? location = some (.file bytes) ∨
            ∃ names, names ≠ [] ∧ ".." ∉ names ∧ location = t.locate root ++ names) := by
  refine ⟨fun i _ => ⟨isBelow_pathFor_iff, pathFor_of_not_isRelative⟩, ?_⟩
  intro hnames root t location bytes hfile
  obtain ⟨units, tried, hwritten, hunits⟩ := exists_written config root interfaces t
  have hrelative : ∀ source ∈ units, Name.IsRelative source.qualifiedName := by
    intro source hmem
    obtain ⟨i, hi, hname⟩ := List.mem_map.mp (hunits source hmem)
    rw [← hname]
    exact hnames i hi
  exact below_of_written hwritten hrelative hfile

/-- The classes of the two bundles belong below a relative and below an absolute root, and
everything that is written for them to an empty tree is below the root. -/
theorem output_confined_two_bundles :
    (∀ i ∈ bundled twoBundles, Path.IsBelow "out" (pathFor "out" (i.outputName {})) ∧
        Path.IsBelow "/out" (pathFor "/out" (i.outputName {}))) ∧
      ∀ location bytes,
        (process {} (filer FileTree.access "out") twoBundles ⟨[], ["work"]⟩).2.get? location =
          some (.file bytes) →
        ∃ names, names ≠ [] ∧ ".." ∉ names ∧ location = ["work", "out"] ++ names := by
  obtain ⟨hpaths, htree⟩ := output_confined_iff {} twoBundles
  have hnames : ∀ i ∈ bundled twoBundles, Name.IsRelative (i.outputName {}) := by decide +kernel
  constructor
  · intro i hi
    have hbelow := (hpaths i hi).1.mpr (hnames i hi)
    exact ⟨hbelow "out", hbelow "/out"⟩
  · intro location bytes hfile
    rcases htree hnames "out" ⟨[], ["work"]⟩ location bytes hfile with hbefore | hbelow
    · rw [FileTree.get?] at hbefore
      split at hbefore <;> cases hbefore
    · have hroot : FileTree.locate ⟨[], ["work"]⟩ "out" = ["work", "out"] := by decide +kernel
      rw [hroot] at hbelow
      exact hbelow

/-- A bundle whose name starts with a slash. -/
def rootedBundle : Interface := { name := "/x", projectCode := some "A" }

/-- The bundle is let through, the path of its class is not below the root, and what is
written for it stands beside the root. -/
theorem output_escapes :
    Manifest.validate ⟨{}, [rootedBundle]⟩ = .ok () ∧
      pathFor "out" (rootedBundle.outputName {}) = "/x_impl.java" ∧
      ¬Path.IsBelow "out" (pathFor "out" (rootedBundle.outputName {})) ∧
      (process {} (filer FileTree.access "out") [rootedBundle] ⟨[], ["work"]⟩).1.1 =
        .ok ⟨[⟨"/x_impl", 0⟩], 0⟩ ∧
      ((process {} (filer FileTree.access "out") [rootedBundle] ⟨[], ["work"]⟩).2.get?
        ["x_impl.java"]).isSome = true := by
  have hpath : pathFor "out" (rootedBundle.outputName {}) = "/x_impl.java" := by decide +kernel
  refine ⟨by decide, hpath, ?_, by decide +kernel, by decide +kernel⟩
  rintro ⟨habsolute, -⟩
  rw [hpath] at habsolute
  exact absurd habsolute (by decide)

end MessageBundle

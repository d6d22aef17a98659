import MessageBundle.Proofs.Filer.Directory
import MessageBundle.Proofs.Filer.Memory
import MessageBundle.Proofs.Round.Overwriting

/-!
# Units in memory and units in files

A round can put its units into memory or into files, and says the same of them either way:
it fails with the same error where it is not rendered, and it reports the same units and
numbers where it ends well. Memory goes by the names of the units and a directory by the
places of their files. No two units of a round have one name, so that memory has all of
them; two can share a file, and then the files fall behind. So the files are those of
memory exactly when no two units that differ belong to one place.

That the paths of all units are different is not enough for this: a path from the top of the
tree and one from its home can lead to one file. Paths that start together, all from the top
or all at the root directory, lead to different files when they are different paths, and a
path is another one when it starts elsewhere or differs in a component.

## Main definitions

* `Path.identity` — what makes a path a different path
* `keptPlace` — where the file of a unit that memory keeps belongs
* `FilesAre` — the files of a tree are those of an older one and the units that memory keeps
* `KeepsApart` — units that differ belong to different places
* `StartTogether` — the paths of all units start at one directory

## Main results

* `Written.filesAre_iff`, `Written.forall_read_kept_iff` — when the files behind a round are
  those of memory
* `keepsApart_of_nodup` — different paths that start together keep units apart
* `filers_agree` — one round into memory and into a directory
* `paths_differ_files_do_not` — different paths that lead to one file
-/

namespace MessageBundle

/-- What makes a path the path it is: where it starts, and its components. -/
def Path.identity (path : String) : Bool × List String :=
  (Path.isAbsolute path, FileTree.components path)

namespace DirectoryFiler

open FileTree

variable {root : String} {t t' : FileTree} {units tried : List Source} {kept : MemoryFiler}
  {location : Location} {entries : List (String × String)}

/-- Where the file of a unit that memory keeps belongs. -/
def keptPlace (root : String) (t : FileTree) (entry : String × String) : Location :=
  t.locate (pathFor root entry.1)

/-- The files of the second tree are the units that memory keeps, each in its place, and the
files of the first tree in all other places. -/
def FilesAre (root : String) (t t' : FileTree) (kept : MemoryFiler) : Prop :=
  ∀ location bytes, t'.get? location = some (.file bytes) ↔
    (∃ entry ∈ kept.entries, keptPlace root t entry = location ∧ bytes = entry.2.toUTF8) ∨
      (t.get? location = some (.file bytes) ∧
        ∀ entry ∈ kept.entries, keptPlace root t entry ≠ location)

/-- No two units that memory keeps differ and belong to one place. -/
def KeepsApart (root : String) (t : FileTree) (kept : MemoryFiler) : Prop :=
  ∀ a ∈ kept.entries, ∀ b ∈ kept.entries, keptPlace root t a = keptPlace root t b → a.2 = b.2

instance (root : String) (t : FileTree) (kept : MemoryFiler) : Decidable (KeepsApart root t kept) :=
  List.decidableBAll _ kept.entries

/-! ### Units that memory has gained -/

theorem keptPlace_eq_place (root : String) (t : FileTree) (source : Source) :
    keptPlace root t (source.qualifiedName, source.contents) = place root t source := by
  rw [keptPlace, place]

theorem mem_entries_of_gains (h : MemoryFiler.Gains units .empty kept) {entry : String × String} :
    entry ∈ kept.entries ↔ ∃ source ∈ units, (source.qualifiedName, source.contents) = entry := by
  rw [h.entries.mem_iff, MemoryFiler.empty, List.nil_append, List.mem_map]

/-- The files of units that were written are the ones that memory has gained when no two
units that differ belong to one place, and only then. -/
theorem Written.filesAre_iff (h : Written root units tried t t')
    (hgains : MemoryFiler.Gains units .empty kept) :
    FilesAre root t t' kept ↔ KeepsApart root t kept := by
  constructor
  · -- one file stands in the place that two of them share
    intro hfiles a ha b hb hplace
    have hfilea := (hfiles _ _).mpr (.inl ⟨a, ha, rfl, rfl⟩)
    have hfileb := (hfiles _ _).mpr (.inl ⟨b, hb, rfl, rfl⟩)
    rw [hplace, hfileb] at hfilea
    exact String.toByteArray_inj.mp (Entry.file.inj (Option.some.inj hfilea)).symm
  · -- at each location, by the unit that was written there last, if there is one
    intro hplaces location bytes
    cases hlast : lastAt root t units location with
    | some last =>
      obtain ⟨hmem, hplace⟩ := mem_of_lastAt hlast
      rw [← keptPlace_eq_place] at hplace
      have hkept := (mem_entries_of_gains hgains).mpr ⟨last, hmem, rfl⟩
      rw [h.files location last hlast]
      constructor
      · intro hfile
        exact .inl ⟨_, hkept, hplace, (Entry.file.inj (Option.some.inj hfile)).symm⟩
      · rintro (⟨entry, hentry, hthere, rfl⟩ | ⟨-, hnone⟩)
        · rw [hplaces entry hentry _ hkept (hthere.trans hplace.symm)]
        · exact absurd hplace (hnone _ hkept)
    | none =>
      have hnone : ∀ entry ∈ kept.entries, keptPlace root t entry ≠ location := by
        intro entry hentry hplace
        obtain ⟨source, hsource, rfl⟩ := (mem_entries_of_gains hgains).mp hentry
        obtain ⟨last, hsome⟩ := exists_lastAt root t hsource
        rw [← keptPlace_eq_place, hplace, hlast] at hsome
        cases hsome
      constructor
      · intro hfile
        rcases h.others location hlast with hsame | ⟨-, hdirectory, -⟩
        · exact .inr ⟨hsame ▸ hfile, hnone⟩
        · rw [hdirectory] at hfile
          cases hfile
      · rintro (⟨entry, hentry, hplace, -⟩ | ⟨hfile, -⟩)
        · exact absurd hplace (hnone entry hentry)
        · rcases h.others location hlast with hsame | ⟨hempty, -⟩
          · exact hsame.trans hfile
          · rw [hempty] at hfile
            cases hfile

/-- Units are all read from their paths when no two that differ belong to one place, and only
then. -/
theorem Written.forall_read_kept_iff (h : Written root units tried t t')
    (hgains : MemoryFiler.Gains units .empty kept) :
    (∀ entry ∈ kept.entries, t'.read (pathFor root entry.1) = .ok entry.2.toUTF8) ↔
      KeepsApart root t kept := by
  -- what memory keeps is a list of the units in another order
  have hunits : ∀ P : String × String → Prop, (∀ entry ∈ kept.entries, P entry) ↔
      ∀ source ∈ units, P (source.qualifiedName, source.contents) := by
    intro P
    simp only [mem_entries_of_gains hgains]
    constructor
    · intro hP source hsource
      exact hP _ ⟨source, hsource, rfl⟩
    · rintro hP _ ⟨source, hsource, rfl⟩
      exact hP source hsource
  rw [KeepsApart, hunits, hunits, h.forall_read_eq_iff]
  refine forall₂_congr fun a _ => ?_
  rw [hunits]
  simp only [keptPlace_eq_place]

/-! ### Paths and places -/

/-- The paths of all units start at the directory that the root names, or all of them start
at the top of the tree and take no step up. -/
def StartTogether (root : String) (entries : List (String × String)) : Prop :=
  (∀ entry ∈ entries, Name.IsRelative entry.1) ∨
    ∀ entry ∈ entries, Path.isAbsolute (pathFor root entry.1) = true ∧
      ".." ∉ components (pathFor root entry.1)

/-- Paths that start together and lead to one place are one path. -/
theorem identity_eq_of_keptPlace_eq (hstart : StartTogether root entries)
    {a b : String × String} (ha : a ∈ entries) (hb : b ∈ entries)
    (hplace : keptPlace root t a = keptPlace root t b) :
    Path.identity (pathFor root a.1) = Path.identity (pathFor root b.1) := by
  rw [keptPlace, keptPlace] at hplace
  rw [Path.identity, Path.identity, Prod.mk.injEq]
  rcases hstart with hrelative | htop
  · -- both places are behind that of the root, which can be cut off
    obtain ⟨hstarta, hcomponentsa⟩ := pathFor_of_isRelative (hrelative a ha) root
    obtain ⟨hstartb, hcomponentsb⟩ := pathFor_of_isRelative (hrelative b hb) root
    rw [locate_pathFor_of_isRelative (hrelative a ha),
      locate_pathFor_of_isRelative (hrelative b hb)] at hplace
    rw [hstarta, hstartb, hcomponentsa, hcomponentsb, List.append_cancel_left hplace]
    exact ⟨rfl, rfl⟩
  · obtain ⟨hstarta, hupa⟩ := htop a ha
    obtain ⟨hstartb, hupb⟩ := htop b hb
    rw [locate_of_isAbsolute hstarta hupa, locate_of_isAbsolute hstartb hupb] at hplace
    exact ⟨hstarta.trans hstartb.symm, hplace⟩

/-- Different paths that start together keep all units apart. -/
theorem keepsApart_of_nodup (hstart : StartTogether root kept.entries)
    (hpaths : (kept.entries.map fun entry => Path.identity (pathFor root entry.1)).Nodup)
    (t : FileTree) : KeepsApart root t kept := by
  intro a ha b hb hplace
  have hidentity := identity_eq_of_keptPlace_eq hstart ha hb hplace
  exact congrArg Prod.snd (List.inj_on_of_nodup_map hpaths ha hb hidentity)

end DirectoryFiler

open DirectoryFiler

variable {config : Config} {interfaces : List Interface} {root : String} {t t' : FileTree}
  {report : Report} {events : List Event}

/-- A round that ends well in a directory ends well in memory too and with the same report;
the files are then those of memory, and the units are read from their paths, exactly when
memory keeps no two units that differ and belong to one place. -/
theorem exists_memory_of_process
    (hround : process config (filer FileTree.access root) interfaces t =
      ((.ok report, events), t')) :
    ∃ events' kept,
      process config MemoryFiler.filer interfaces .empty = ((.ok report, events'), kept) ∧
      (FilesAre root t t' kept ↔ KeepsApart root t kept) ∧
      ((∀ entry ∈ kept.entries, t'.read (pathFor root entry.1) = .ok entry.2.toUTF8) ↔
        KeepsApart root t kept) := by
  obtain ⟨sources, hrender, -, hwritten⟩ := written_of_report hround
  -- no name comes twice in a round, so that memory refuses nothing
  obtain ⟨report', events', kept, hgains, hmemory⟩ := MemoryFiler.round_into_empty hrender
  obtain rfl := report_eq_of_process hround hmemory
  exact ⟨events', kept, hmemory, hwritten.filesAre_iff hgains,
    hwritten.forall_read_kept_iff hgains⟩

/-- One round into a memory that keeps nothing yet and into a directory. A round that is
not rendered fails in both with the same error, and it leaves both as they were. Behind one
that ends well in the directory, the round into memory ends well too and with the same
report. If the paths of all units are different and start together, the files are then those
of memory, and each unit is read from its path; in general, they are so exactly when no two
units that differ belong to one place. -/
theorem filers_agree (config : Config) (interfaces : List Interface) (root : String)
    (t : FileTree) :
    (∀ cause, render config interfaces = .error cause →
      (∃ events, process config MemoryFiler.filer interfaces .empty =
          ((.error cause, events), .empty)) ∧
        ∃ events, process config (filer FileTree.access root) interfaces t =
          ((.error cause, events), t)) ∧
    ∀ report events t',
      process config (filer FileTree.access root) interfaces t = ((.ok report, events), t') →
      ∃ events' kept,
        process config MemoryFiler.filer interfaces .empty = ((.ok report, events'), kept) ∧
        ((kept.entries.map fun entry => Path.identity (pathFor root entry.1)).Nodup →
          StartTogether root kept.entries →
          FilesAre root t t' kept ∧
            ∀ entry ∈ kept.entries, t'.read (pathFor root entry.1) = .ok entry.2.toUTF8) ∧
        (FilesAre root t t' kept ↔ KeepsApart root t kept) ∧
        ((∀ entry ∈ kept.entries, t'.read (pathFor root entry.1) = .ok entry.2.toUTF8) ↔
          KeepsApart root t kept) := by
  constructor
  · intro cause hrender
    exact ⟨process_of_render_error hrender _ _, process_of_render_error hrender _ _⟩
  intro report events t' hround
  obtain ⟨events', kept, hmemory, hfiles, hread⟩ := exists_memory_of_process hround
  refine ⟨events', kept, hmemory, fun hpaths hstart => ?_, hfiles, hread⟩
  have hapart := keepsApart_of_nodup hstart hpaths t
  exact ⟨hfiles.mpr hapart, hread.mpr hapart⟩

/-- The units of two bundles are in the files under a new directory what they are in memory;
a bundle that comes twice is refused in both. -/
theorem filers_agree_two_bundles :
    emptyTree.get? (emptyTree.locate "out") = none ∧
      (∃ report events t' events' kept,
        process {} (filer FileTree.access "out") twoBundles emptyTree =
            ((.ok report, events), t') ∧
          process {} MemoryFiler.filer twoBundles .empty = ((.ok report, events'), kept) ∧
          kept.size = 2 ∧ FilesAre "out" emptyTree t' kept) ∧
      ∃ cause events events',
        process {} MemoryFiler.filer (sharingBundles ++ sharingBundles) .empty =
            ((.error cause, events), .empty) ∧
          process {} (filer FileTree.access "out") (sharingBundles ++ sharingBundles) emptyTree =
            ((.error cause, events'), emptyTree) := by
  refine ⟨rfl, ?_, ?_⟩
  · have hreport : (process {} (filer FileTree.access "out") twoBundles emptyTree).1.1 =
        .ok ⟨[⟨"a.A_impl", 1⟩, ⟨"a.B_impl", 2⟩], 2⟩ := by decide +kernel
    have hnames : (process {} MemoryFiler.filer twoBundles .empty).2.entries.map Prod.fst =
        ["a.A_impl", "a.B_impl"] := by decide +kernel
    obtain ⟨events, t', hround⟩ := exists_of_answer hreport
    obtain ⟨events', kept, hmemory, hfiles, -⟩ :=
      (filers_agree {} twoBundles "out" emptyTree).2 _ _ _ hround
    rw [hmemory] at hnames
    have hstart : StartTogether "out" kept.entries := by
      have hrelative : ∀ name ∈ ["a.A_impl", "a.B_impl"], Name.IsRelative name := by decide
      rw [← hnames] at hrelative
      exact .inl (List.forall_mem_map.mp hrelative)
    have hpaths : (kept.entries.map fun entry => Path.identity (pathFor "out" entry.1)).Nodup := by
      have hidentities : (["a.A_impl", "a.B_impl"].map fun name =>
          Path.identity (pathFor "out" name)).Nodup := by decide +kernel
      rw [← hnames, List.map_map, Function.comp_def] at hidentities
      exact hidentities
    have hsize : kept.size = 2 := by
      rw [MemoryFiler.size, ← List.length_map, hnames]
      rfl
    exact ⟨_, events, t', events', kept, hround, hmemory, hsize, (hfiles hpaths hstart).1⟩
  · have hrender : ∃ cause, render {} (sharingBundles ++ sharingBundles) = .error cause :=
      ⟨_, rfl⟩
    obtain ⟨cause, hrender⟩ := hrender
    obtain ⟨⟨events, hmemory⟩, events', hdirectory⟩ :=
      (filers_agree {} (sharingBundles ++ sharingBundles) "out" emptyTree).1 cause hrender
    exact ⟨cause, events, events', hmemory, hdirectory⟩

/-! ### Different paths to one file -/

/-- A tree whose home is a directory below the top. -/
def workTree : FileTree := ⟨[(["w"], .directory)], ["w"]⟩

/-- Two interfaces of which the second one names the file of the first from the top. -/
def aliasBundles : List Interface :=
  [{ name := "a.B", projectCode := some "A" }, { name := "/w/out/a/B", projectCode := some "A" }]

/-- Two interfaces whose paths differ in a slash that separates nothing. -/
def slashBundles : List Interface :=
  [{ name := "a.B", projectCode := some "A" }, { name := "a//B", projectCode := some "A" }]

/-- A round ends well in both, and memory keeps two units that differ for one place: whatever
is different about their paths, the files are not those of memory. -/
theorem exists_of_not_keepsApart {κ : Type} (key : String → κ)
    (hreport : (process config (filer FileTree.access root) interfaces t).1.1 = .ok report)
    (hkeys : ((process config MemoryFiler.filer interfaces .empty).2.entries.map fun entry =>
      key (pathFor root entry.1)).Nodup)
    (hshared : ¬KeepsApart root t (process config MemoryFiler.filer interfaces .empty).2) :
    ∃ report events t' events' kept,
      process config (filer FileTree.access root) interfaces t = ((.ok report, events), t') ∧
      process config MemoryFiler.filer interfaces .empty = ((.ok report, events'), kept) ∧
      (kept.entries.map fun entry => key (pathFor root entry.1)).Nodup ∧
      ¬FilesAre root t t' kept ∧
      ¬∀ entry ∈ kept.entries, t'.read (pathFor root entry.1) = .ok entry.2.toUTF8 := by
  obtain ⟨events, t', hround⟩ := exists_of_answer hreport
  obtain ⟨events', kept, hmemory, hfiles, hread⟩ := exists_memory_of_process hround
  rw [hmemory] at hkeys hshared
  exact ⟨_, events, t', events', kept, hround, hmemory, hkeys, mt hfiles.mp hshared,
    mt hread.mp hshared⟩

/-- Two units have different paths under a directory that is not there yet, the round ends well
in memory and in files, and the second unit is in the file of the first: one path starts at the
home and the other one at the top. Paths that differ as texts need not be different at all. -/
theorem paths_differ_files_do_not :
    (workTree.get? (workTree.locate "out") = none ∧
      Manifest.validate ⟨{}, aliasBundles⟩ = .ok () ∧
      ∃ report events t' events' kept,
        process {} (filer FileTree.access "out") aliasBundles workTree =
            ((.ok report, events), t') ∧
          process {} MemoryFiler.filer aliasBundles .empty = ((.ok report, events'), kept) ∧
          (kept.entries.map fun entry => Path.identity (pathFor "out" entry.1)).Nodup ∧
          ¬FilesAre "out" workTree t' kept ∧
          ¬∀ entry ∈ kept.entries, t'.read (pathFor "out" entry.1) = .ok entry.2.toUTF8) ∧
    emptyTree.get? (emptyTree.locate "out") = none ∧
      Manifest.validate ⟨{}, slashBundles⟩ = .ok () ∧
      ∃ report events t' events' kept,
        process {} (filer FileTree.access "out") slashBundles emptyTree =
            ((.ok report, events), t') ∧
          process {} MemoryFiler.filer slashBundles .empty = ((.ok report, events'), kept) ∧
          (kept.entries.map fun entry => pathFor "out" entry.1).Nodup ∧
          ¬FilesAre "out" emptyTree t' kept ∧
          ¬∀ entry ∈ kept.entries, t'.read (pathFor "out" entry.1) = .ok entry.2.toUTF8 := by
  have halias : (process {} (filer FileTree.access "out") aliasBundles workTree).1.1 =
      .ok ⟨[⟨"a.B_impl", 0⟩, ⟨"/w/out/a/B_impl", 0⟩], 0⟩ := by decide +kernel
  have hslash : (process {} (filer FileTree.access "out") slashBundles emptyTree).1.1 =
      .ok ⟨[⟨"a.B_impl", 0⟩, ⟨"a//B_impl", 0⟩], 0⟩ := by decide +kernel
  refine ⟨⟨rfl, by decide, ?_⟩, rfl, by decide, ?_⟩
  · exact exists_of_not_keepsApart Path.identity halias (by decide +kernel) (by decide +kernel)
  · exact exists_of_not_keepsApart (fun path => path) hslash (by decide +kernel) (by decide +kernel)

end MessageBundle

import MessageBundle.Proofs.FileTree.Repetition
import MessageBundle.Proofs.Round.Overwriting

/-!
# Rounds that are repeated

A round that ends well into a directory can be repeated, and repeating it changes nothing.
What the first run needed is there after it: no directory is ever lost and no file becomes
one, so the directory of each unit is there and its path leads to a file. The second run
makes no directory for this reason, and it only puts files again. Two units can share a
file; then the second run puts the earlier one there for a while, but what stands there in
the end is the later one, as before.

## Main definitions

* `IsReady` — a file can be written without a directory being made
* `filePut` — the file of a unit with the place where it belongs
* `treeBehind` — what units that are handed over leave

## Main results

* `isReady_of_filed` — behind units that went out, all of their files are ready
* `handOver_of_isReady` — units whose files are ready go out, and nothing but the files is put
* `process_again` — a round into a directory that is repeated
-/

namespace MessageBundle

namespace DirectoryFiler

open FileTree

variable {root : String} {t t' : FileTree} {units sources : List Source} {source : Source}
  {path other name : String}

/-- The directory of a file is there, and the path leads to a file or to a place for one. -/
structure IsReady (t : FileTree) (path : String) : Prop where
  parent : ∀ parent ∈ (parents path).head?, t.isDirectory parent = true
  leads : t.LeadsToFile path

/-- The file of a unit with the place where it belongs. -/
def filePut (root : String) (t : FileTree) (source : Source) : Location × Entry :=
  (place root t source, .file source.contents.toUTF8)

/-- The tree behind units that are handed over one after another. -/
def treeBehind (root : String) (units : List Source) (t : FileTree) : FileTree :=
  (handOver (filer FileTree.access root) units t).2

theorem filePut_of_home (h : t'.home = t.home) : filePut root t' = filePut root t := by
  funext source
  rw [filePut, filePut, place, place, locate_of_home h]

/-! ### Files that are ready -/

/-- A file that is ready is written, and nothing else is changed. -/
theorem filer_of_isReady (h : IsReady t (pathFor root name)) (contents : String) :
    filer FileTree.access root name contents t =
      ((.ok (), [.sourceWritten name (pathFor root name)]),
        t.put (t.locate (pathFor root name)) (.file contents.toUTF8)) := by
  rw [filer_eq_ok_iff]
  exact ⟨t, makeEach_of_isDirectory h.parent, h.leads, rfl, rfl⟩

/-- A file stays ready when another one is written. -/
theorem IsReady.put (h : IsReady t path) (hfile : wantsDirectory path = false)
    (hother : t.LeadsToFile other) (bytes : ByteArray) :
    IsReady (t.put (t.locate other) (.file bytes)) path := by
  have hkeeps := hother.keepsDirectories_put bytes
  refine ⟨fun parent hparent => isDirectory_of_keepsDirectories hkeeps (h.parent parent hparent),
    h.leads.of_keepsDirectories hkeeps hfile ?_⟩
  rw [locate_of_home hkeeps.home]
  -- what stands where the path leads is the new file, or what stood there before
  by_cases hplace : t.locate path = t.locate other
  · rw [hplace, get?_put hother.locate_ne_nil]
    exact nofun
  · rw [get?_put_ne hplace]
    exact h.leads.get?_ne_directory

/-- Behind units that went out, the directories of their files are there. -/
theorem isDirectory_of_filed (h : Filed (filer FileTree.access root) t units t') :
    ∀ source ∈ units, ∀ parent ∈ (parents (pathFor root source.qualifiedName)).head?,
      t'.isDirectory parent = true := by
  -- neither the directories that the next unit makes nor its file takes one away
  induction h with
  | nil => exact nofun
  | @concat done source mid after events _ accepted ih =>
    obtain ⟨made, hmade, hleads, -, rfl⟩ := filer_eq_ok_iff.mp accepted
    have hmid : KeepsDirectories mid made := by
      have hadds := makeEach_addsDirectories (parents (pathFor root source.qualifiedName)) mid
      rw [hmade] at hadds
      exact hadds.keepsDirectories
    have hput := hleads.keepsDirectories_put source.contents.toUTF8
    intro unit hunit parent hparent
    refine isDirectory_of_keepsDirectories hput ?_
    rcases List.mem_append.mp hunit with hbefore | hlast
    · exact isDirectory_of_keepsDirectories hmid (ih unit hbefore parent hparent)
    · obtain rfl := List.mem_singleton.mp hlast
      exact isDirectory_of_makeEach hmade parent hparent

theorem isReady_of_filed (h : Filed (filer FileTree.access root) t units t')
    (hmem : source ∈ units) : IsReady t' (pathFor root source.qualifiedName) :=
  ⟨isDirectory_of_filed h source hmem, (written_of_filed h).ways source hmem⟩

/-! ### Units that go out to files that are ready -/

/-- Units whose files are ready all go out, and their files are put one after another. -/
theorem handOver_of_isReady
    (h : ∀ source ∈ sources, IsReady t (pathFor root source.qualifiedName)) :
    handOver (filer FileTree.access root) sources t =
      ((.ok (sources.map Source.reported),
          sources.map fun source =>
            .sourceWritten source.qualifiedName (pathFor root source.qualifiedName)),
        putEach (sources.map (filePut root t)) t) := by
  -- the files behind the first one stay ready, and the places stay where they are
  induction sources generalizing t with
  | nil => rfl
  | cons source rest ih =>
    obtain ⟨hsource, hrest⟩ := List.forall_mem_cons.mp h
    have hputs : ∀ entry, filePut root (t.put (place root t source) entry) = filePut root t :=
      fun _ => filePut_of_home rfl
    have hstill := ih fun unit hunit => (hrest unit hunit).put
      (exists_components_pathFor root unit.qualifiedName).1 hsource.leads source.contents.toUTF8
    rw [handOver_cons, filer_of_isReady hsource]
    simp only [hstill, Except.map, List.map_cons, List.singleton_append, putEach_cons, filePut]
    rw [← place, hputs]

/-! ### Files that are put again -/

/-- What is put last at a location is the file of the last unit for it. -/
theorem lookup_filePut (units : List Source) (location : Location) :
    (units.map (filePut root t)).reverse.lookup location =
      (lastAt root t units location).map fun source => .file source.contents.toUTF8 := by
  induction units using List.reverseRecOn with
  | nil => rfl
  | append_singleton units source ih =>
    rw [lastAt_concat, List.map_append, List.reverse_append, List.map_singleton,
      List.reverse_singleton, List.singleton_append, filePut, List.lookup_cons]
    by_cases hplace : place root t source = location
    · simp [hplace]
    · simp [hplace, beq_false_of_ne (Ne.symm hplace), ih]

/-- Behind units that went out, putting all of their files again changes nothing. -/
theorem putEach_of_filed (h : Filed (filer FileTree.access root) t units t') :
    putEach (units.map (filePut root t')) t' = t' := by
  have hwritten := written_of_filed h
  rw [filePut_of_home hwritten.home]
  refine putEach_eq_self ?_ ?_
  · rw [List.map_map, List.mem_map]
    rintro ⟨source, hsource, hplace⟩
    simp only [Function.comp_apply, filePut, place] at hplace
    refine (hwritten.ways source hsource).locate_ne_nil ?_
    rw [locate_of_home hwritten.home, hplace]
  · intro location entry hlast
    rw [lookup_filePut] at hlast
    obtain ⟨source, hsource, hentry⟩ := Option.map_eq_some_iff.mp hlast
    rw [← hentry]
    exact hwritten.files location source hsource

end DirectoryFiler

open DirectoryFiler

variable {config : Config} {root : String} {interfaces : List Interface} {t t' : FileTree}
  {report : Report} {events : List Event}

/-- A round into a directory that ends well can be repeated: it ends with the same report
and the same record, and the tree is the very one that it left the first time. No unit
takes its file or its directory from another one: behind any first units of the round their
files can be read and can be written once more, and from there to the end each directory
stays one, and each file does. -/
theorem process_again
    (h : process config (filer FileTree.access root) interfaces t = ((.ok report, events), t')) :
    process config (filer FileTree.access root) interfaces t' = ((.ok report, events), t') ∧
      ∃ sources, render config interfaces = .ok sources ∧
        report.units = sources.map Source.reported ∧
        ∀ before rest, sources = before ++ rest →
          (∀ source ∈ before,
            IsReady (treeBehind root before t) (pathFor root source.qualifiedName) ∧
              ∃ bytes, (treeBehind root before t).read (pathFor root source.qualifiedName) =
                .ok bytes) ∧
          (∀ location, (treeBehind root before t).get? location = some .directory →
            t'.get? location = some .directory) ∧
          ∀ location bytes, (treeBehind root before t).get? location = some (.file bytes) →
            ∃ bytes', t'.get? location = some (.file bytes') := by
  obtain ⟨rendering, later, hrendered, hunits, hids, hevents⟩ := process_eq_ok_iff.mp h
  obtain ⟨hreported, hfiled⟩ := units_of_handOver hunits
  constructor
  · have hagain := handOver_of_isReady fun source hsource => isReady_of_filed hfiled hsource
    rw [putEach_of_filed hfiled, ← events_of_handOver hunits, ← hreported] at hagain
    exact process_eq_ok_iff.mpr ⟨rendering, later, hrendered, hagain, hids, hevents⟩
  · refine ⟨rendering.sources, render_of_renderRound hrendered, hreported, ?_⟩
    intro before rest hsources
    rw [hsources] at hunits
    obtain ⟨front, back, first, last, mid, hfront, hback⟩ := exists_of_handOver_append hunits
    have hmid : treeBehind root before t = mid := by rw [treeBehind, hfront]
    have hbefore := (units_of_handOver hfront).2
    have hrest := written_of_filed (units_of_handOver hback).2
    rw [hmid]
    refine ⟨?_, hrest.directories, fun _ _ => hrest.file_stays⟩
    intro source hsource
    obtain ⟨last, -, hread⟩ := (written_of_filed hbefore).read_eq hsource
    exact ⟨isReady_of_filed hbefore hsource, last.contents.toUTF8, hread⟩

/-- Two interfaces whose units share a file: the round can be repeated though the second
unit takes the place of the first one each time. -/
theorem process_again_sharing :
    ∃ report events t', report.units.length = 2 ∧
      process {} (filer FileTree.access "out") sharingBundles emptyTree =
        ((.ok report, events), t') ∧
      process {} (filer FileTree.access "out") sharingBundles t' = ((.ok report, events), t') := by
  have hreport : (process {} (filer FileTree.access "out") sharingBundles emptyTree).1.1 =
      .ok ⟨[⟨"a.B_impl", 0⟩, ⟨"a..B_impl", 0⟩], 0⟩ := by decide +kernel
  obtain ⟨events, t', hround⟩ := exists_of_answer hreport
  exact ⟨_, events, t', rfl, hround, (process_again hround).1⟩

end MessageBundle

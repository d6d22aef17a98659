import MessageBundle.Proofs.FileTree.Change
import MessageBundle.Proofs.Name.Plain
import MessageBundle.Proofs.Round.Process

/-!
# Units that are written under a directory

A unit that goes out to a directory is written to the file of its class, and the
directories on the way are made. Over a run of units that all go out, each file holds
the last unit that was written to it. Nothing else is changed but that directories are
added on the way; this holds also when the next unit is refused.

## Main definitions

* `parents` — the directories on the way to a file
* `place`, `lastAt` — where the file of a unit belongs, and the last unit for a location
* `Written` — units were written and nothing else was changed but directories on the way

## Main results

* `filer_cases`, `filer_eq_ok_iff` — a unit is written, or refused with directories made on
  the way
* `written_of_filed`, `written_of_refused` — units that all went out are written, and so are
  those before one that is refused
* `events_of_handOver` — what is recorded of units that go out
* `Written.read_eq` — what is read from the file of a unit that was written
* `round_cases`, `written_of_report` — the ways in which a round into a directory ends, and
  what is written when it ends well
-/

namespace MessageBundle

namespace DirectoryFiler

open FileTree

/-- The directories that are made on the way to a file. -/
def parents (path : String) : List String := (Path.parent? path).elim [] Path.ancestors

/-- Where the file of a unit belongs. -/
def place (root : String) (t : FileTree) (source : Source) : Location :=
  t.locate (pathFor root source.qualifiedName)

/-- The last of some units whose file belongs at a location. -/
def lastAt (root : String) (t : FileTree) (units : List Source) (location : Location) :
    Option Source :=
  units.reverse.find? fun source => place root t source = location

/-- Units were written one after another, and nothing else was changed but that
directories were added on the way to the units that were tried. -/
structure Written (root : String) (units tried : List Source) (t t' : FileTree) : Prop where
  home : t'.home = t.home
  /-- No directory was lost. -/
  directories : ∀ location, t.get? location = some .directory → t'.get? location = some .directory
  /-- Where a unit belongs stands the last unit that belongs there. -/
  files : ∀ location source, lastAt root t units location = some source →
    t'.get? location = some (.file source.contents.toUTF8)
  /-- Elsewhere everything is as it was, or a directory was added where nothing was. -/
  others : ∀ location, lastAt root t units location = none →
    t'.get? location = t.get? location ∨
      t.get? location = none ∧ t'.get? location = some .directory ∧
        ∃ source ∈ tried, ∃ path ∈ parents (pathFor root source.qualifiedName),
          t.locate path = location
  /-- The paths of the units lead to their files. -/
  ways : ∀ source ∈ units, t'.LeadsToFile (pathFor root source.qualifiedName)

variable {root name contents : String} {t t' made : FileTree} {units tried : List Source}
  {source last : Source} {location : Location} {events : List Event}

/-! ### One unit -/

theorem makeParent_eq (path : String) (t : FileTree) :
    makeParent FileTree.access path t = makeEach (parents path) t := by
  rw [parents, makeParent]
  cases Path.parent? path <;> rfl

theorem makeParent_addsDirectories (path : String) (t : FileTree) :
    AddsDirectories (parents path) t (makeParent FileTree.access path t).2 := by
  rw [parents, makeParent]
  cases Path.parent? path with
  | none => exact .refl [] t
  | some parent => exact makeDirectories_addsDirectories parent t

/-- A unit is written to its file, or it is refused by the file system. In either case
directories were made on the way before. -/
theorem filer_cases (root name contents : String) (t : FileTree) :
    (∃ made, AddsDirectories (parents (pathFor root name)) t made ∧
        made.LeadsToFile (pathFor root name) ∧
        filer FileTree.access root name contents t =
          ((.ok (), [.sourceWritten name (pathFor root name)]),
            made.put (made.locate (pathFor root name)) (.file contents.toUTF8))) ∨
      ∃ fault made, AddsDirectories (parents (pathFor root name)) t made ∧
        filer FileTree.access root name contents t =
          ((.error (.outputWrite (pathFor root name) fault), []), made) := by
  simp only [filer, bind, StateT.bind]
  generalize pathFor root name = path
  have hmade := makeParent_addsDirectories path t
  rcases hparent : makeParent FileTree.access path t with ⟨answer, made⟩
  rw [hparent] at hmade
  cases answer with
  | error fault => exact .inr ⟨fault, made, hmade, rfl⟩
  | ok _ =>
    have haccess : FileTree.access.write path contents made = made.write path contents := rfl
    simp only [StateT.bind, haccess]
    rcases write_cases path contents made with ⟨fault, hwrite⟩ | ⟨hleads, hwrite⟩
    · rw [hwrite]
      exact .inr ⟨fault, made, hmade, rfl⟩
    · rw [hwrite]
      exact .inl ⟨made, hmade, hleads, rfl⟩

/-- A unit goes out when the directory of its file can be made and its path leads to a file
or to a place for one. -/
theorem filer_eq_ok_iff :
    filer FileTree.access root name contents t = ((.ok (), events), t') ↔
      ∃ made, makeEach (parents (pathFor root name)) t = (.ok (), made) ∧
        made.LeadsToFile (pathFor root name) ∧
        events = [.sourceWritten name (pathFor root name)] ∧
        t' = made.put (made.locate (pathFor root name)) (.file contents.toUTF8) := by
  simp only [filer, bind, StateT.bind, makeParent_eq]
  generalize pathFor root name = path
  rcases makeEach (parents path) t with ⟨answer, made⟩
  cases answer with
  | error fault =>
    constructor
    · rintro ⟨⟩
    · rintro ⟨_, ⟨⟩, _⟩
  | ok _ =>
    have haccess : FileTree.access.write path contents made = made.write path contents := rfl
    simp only [StateT.bind, haccess]
    rcases hwrite : made.write path contents with ⟨answer, written⟩
    cases answer with
    | error fault =>
      constructor
      · rintro ⟨⟩
      · rintro ⟨_, ⟨⟩, hleads, _⟩
        rw [write_eq_ok_iff.mpr ⟨hleads, rfl⟩] at hwrite
        cases hwrite
    | ok _ =>
      obtain ⟨hleads, rfl⟩ := write_eq_ok_iff.mp hwrite
      constructor
      · rintro ⟨⟩
        exact ⟨made, rfl, hleads, rfl, rfl⟩
      · rintro ⟨_, ⟨⟩, -, rfl, rfl⟩
        rfl

/-! ### The last unit for a location -/

theorem lastAt_concat (units : List Source) (source : Source) (location : Location) :
    lastAt root t (units ++ [source]) location =
      if place root t source = location then some source else lastAt root t units location := by
  rw [lastAt, List.reverse_append, List.reverse_singleton, List.singleton_append, List.find?_cons]
  by_cases h : place root t source = location
  · simp [h]
  · simp [h, lastAt]

theorem mem_of_lastAt (h : lastAt root t units location = some last) :
    last ∈ units ∧ place root t last = location := by
  have hplace := List.find?_some (p := fun source => decide (place root t source = location)) h
  exact ⟨List.mem_reverse.mp (List.mem_of_find?_eq_some h), of_decide_eq_true hplace⟩

theorem exists_lastAt (root : String) (t : FileTree) (h : source ∈ units) :
    ∃ last, lastAt root t units (place root t source) = some last := by
  rw [← Option.isSome_iff_exists, lastAt, List.find?_isSome]
  exact ⟨source, List.mem_reverse.mpr h, decide_eq_true rfl⟩

/-! ### Where the file of a unit belongs -/

/-- The file of a class whose path is relative belongs below the root. -/
theorem locate_pathFor_of_isRelative (h : Name.IsRelative name) (root : String) (t : FileTree) :
    t.locate (pathFor root name) =
      t.locate root ++ FileTree.components (Name.sourcePath name) := by
  obtain ⟨habsolute, hcomponents⟩ := pathFor_of_isRelative h root
  rw [locate, locate, habsolute, hcomponents, walk_append,
    walk_eq_append (Name.up_notMem_components_sourcePath name)]

/-- Units with plain names that belong to one place have one name. -/
theorem qualifiedName_eq_of_place_eq {a b : Source} (ha : Name.IsPlain a.qualifiedName)
    (hb : Name.IsPlain b.qualifiedName) (h : place root t a = place root t b) :
    a.qualifiedName = b.qualifiedName := by
  rw [place, place, locate_pathFor_of_isRelative ha.isRelative,
    locate_pathFor_of_isRelative hb.isRelative] at h
  exact Name.eq_of_components_sourcePath_eq ha hb (List.append_cancel_left h)

/-! ### A run of units -/

namespace Written

theorem nil (root : String) (t : FileTree) : Written root [] [] t t where
  home := rfl
  directories _ := id
  files := nofun
  others _ _ := .inl rfl
  ways := nofun

theorem keepsDirectories (h : Written root units tried t t') : KeepsDirectories t t' :=
  ⟨h.home, h.directories⟩

/-- At the place of a unit that was written stands a file. -/
theorem exists_file (h : Written root units tried t t') (hmem : source ∈ units) :
    ∃ last, lastAt root t units (place root t source) = some last ∧
      t'.get? (t'.locate (pathFor root source.qualifiedName)) =
        some (.file last.contents.toUTF8) := by
  obtain ⟨last, hlast⟩ := exists_lastAt root t hmem
  refine ⟨last, hlast, ?_⟩
  rw [locate_of_home h.home]
  exact h.files _ last hlast

/-- From the path of a unit that was written, the last unit for its place is read. -/
theorem read_eq (h : Written root units tried t t') (hmem : source ∈ units) :
    ∃ last, lastAt root t units (place root t source) = some last ∧
      t'.read (pathFor root source.qualifiedName) = .ok last.contents.toUTF8 := by
  obtain ⟨last, hlast, hfile⟩ := h.exists_file hmem
  exact ⟨last, hlast, (h.ways source hmem).read_eq hfile⟩

/-- A file was there before, or it is the file of a unit. -/
theorem file_cases (h : Written root units tried t t') {bytes : ByteArray}
    (hfile : t'.get? location = some (.file bytes)) :
    t.get? location = some (.file bytes) ∨ ∃ source ∈ units, place root t source = location := by
  cases hlast : lastAt root t units location with
  | some last => exact .inr ⟨last, mem_of_lastAt hlast⟩
  | none =>
    rcases h.others location hlast with hsame | ⟨-, hdirectory, -⟩
    · exact .inl (hsame ▸ hfile)
    · rw [hdirectory] at hfile
      cases hfile

/-- A file is still one when units are written. -/
theorem file_stays (h : Written root units tried t t') {bytes : ByteArray}
    (hfile : t.get? location = some (.file bytes)) :
    ∃ bytes', t'.get? location = some (.file bytes') := by
  cases hlast : lastAt root t units location with
  | some last => exact ⟨_, h.files location last hlast⟩
  | none =>
    rcases h.others location hlast with hsame | ⟨hnone, -⟩
    · exact ⟨bytes, hsame.trans hfile⟩
    · rw [hnone] at hfile
      cases hfile

/-- All units are read from their files when no two that differ belong to one place, and
only then. -/
theorem forall_read_eq_iff (h : Written root units tried t t') :
    (∀ source ∈ units,
        t'.read (pathFor root source.qualifiedName) = .ok source.contents.toUTF8) ↔
      ∀ a ∈ units, ∀ b ∈ units, place root t a = place root t b → a.contents = b.contents := by
  constructor
  · intro hread a ha b hb hplace
    -- both are read from what was written last to their place
    obtain ⟨last, hlast, hreada⟩ := h.read_eq ha
    obtain ⟨last', hlast', hreadb⟩ := h.read_eq hb
    rw [← hplace, hlast] at hlast'
    obtain rfl := Option.some.inj hlast'
    rw [hread a ha] at hreada
    rw [hread b hb, ← hreada] at hreadb
    exact String.toByteArray_inj.mp (Except.ok.inj hreadb).symm
  · intro hplaces source hmem
    obtain ⟨last, hlast, hread⟩ := h.read_eq hmem
    obtain ⟨hlastmem, hplace⟩ := mem_of_lastAt hlast
    rw [hread, hplaces last hlastmem source hmem hplace]

/-- A unit is tried: directories are added on the way to its file. -/
theorem addDirectories (h : Written root units tried t t')
    (hmade : AddsDirectories (parents (pathFor root source.qualifiedName)) t' made) :
    Written root units (tried ++ [source]) t made where
  home := hmade.home.trans h.home
  directories location hdirectory :=
    hmade.keepsDirectories.directories location (h.directories location hdirectory)
  files location last hlast := hmade.get?_file (h.files location last hlast)
  others location hlast := by
    rcases hmade.entries location with hsame | ⟨hnone, hdirectory, path, hpath, hplace⟩
    · rw [hsame]
      refine (h.others location hlast).imp_right fun ⟨hnone, hdirectory, other, hmem, hway⟩ => ?_
      exact ⟨hnone, hdirectory, other, List.mem_append_left _ hmem, hway⟩
    · rcases h.others location hlast with hsame | ⟨-, hdirectory', -⟩
      · rw [locate_of_home h.home] at hplace
        exact .inr ⟨hsame ▸ hnone, hdirectory, source, List.mem_concat_self, path, hpath, hplace⟩
      · rw [hdirectory'] at hnone
        cases hnone
  ways other hmem := by
    obtain ⟨last, -, hfile⟩ := h.exists_file hmem
    refine (h.ways other hmem).of_keepsDirectories hmade.keepsDirectories
      (exists_components_pathFor root other.qualifiedName).1 ?_
    rw [locate_of_home hmade.home, hmade.get?_file hfile]
    exact nofun

/-- A unit that was tried is written. -/
theorem put (h : Written root units tried t t')
    (hleads : t'.LeadsToFile (pathFor root source.qualifiedName)) :
    Written root (units ++ [source]) tried t
      (t'.put (t'.locate (pathFor root source.qualifiedName))
        (.file source.contents.toUTF8)) := by
  have hplace : t'.locate (pathFor root source.qualifiedName) = place root t source :=
    locate_of_home h.home _
  have hkeeps := hleads.keepsDirectories_put source.contents.toUTF8
  have hne := hleads.locate_ne_nil
  rw [hplace] at hkeeps hne ⊢
  have hfiles : ∀ location last, lastAt root t (units ++ [source]) location = some last →
      (t'.put (place root t source) (.file source.contents.toUTF8)).get? location =
        some (.file last.contents.toUTF8) := by
    intro location last hlast
    rw [lastAt_concat] at hlast
    by_cases hlocation : place root t source = location
    · rw [if_pos hlocation] at hlast
      obtain rfl := Option.some.inj hlast
      rw [← hlocation]
      exact get?_put hne t' _
    · rw [if_neg hlocation] at hlast
      rw [get?_put_ne (Ne.symm hlocation)]
      exact h.files location last hlast
  refine { home := h.home, directories := ?_, files := hfiles, others := ?_, ways := ?_ }
  · intro location hdirectory
    exact hkeeps.directories location (h.directories location hdirectory)
  · intro location hlast
    rw [lastAt_concat] at hlast
    by_cases hlocation : place root t source = location
    · rw [if_pos hlocation] at hlast
      cases hlast
    · rw [if_neg hlocation] at hlast
      rw [get?_put_ne (Ne.symm hlocation)]
      exact h.others location hlast
  · -- every way was there before the file was put, and a file is at its end
    intro other hmem
    have hbefore : t'.LeadsToFile (pathFor root other.qualifiedName) := by
      rcases List.mem_append.mp hmem with hold | hnew
      · exact h.ways other hold
      · obtain rfl := List.mem_singleton.mp hnew
        exact hleads
    refine hbefore.of_keepsDirectories hkeeps (exists_components_pathFor root _).1 ?_
    obtain ⟨last, hlast⟩ := exists_lastAt root t hmem
    have hother : (t'.put (place root t source) (.file source.contents.toUTF8)).locate
        (pathFor root other.qualifiedName) = place root t other := locate_of_home h.home _
    rw [hother, hfiles _ last hlast]
    exact nofun

end Written

/-- Units that all went out to a directory are written. -/
theorem written_of_filed (h : Filed (filer FileTree.access root) t units t') :
    Written root units units t t' := by
  -- for each unit that went out, directories were made first and then the file was put
  induction h with
  | nil => exact .nil root t
  | @concat done source mid after events _ accepted ih =>
    rcases filer_cases root source.qualifiedName source.contents mid with
      ⟨made, hmade, hleads, hfile⟩ | ⟨fault, made, -, hfile⟩
    · rw [hfile] at accepted
      cases accepted
      exact (ih.addDirectories hmade).put hleads
    · rw [hfile] at accepted
      cases accepted

/-- Units that go out record that their files were written, one after another. -/
theorem events_of_handOver {reported : List ReportedUnit} {events : List Event}
    (h : handOver (filer FileTree.access root) sources t = ((.ok reported, events), t')) :
    events = sources.map fun source =>
      .sourceWritten source.qualifiedName (pathFor root source.qualifiedName) := by
  induction sources generalizing t reported events with
  | nil =>
    cases h
    rfl
  | cons source rest ih =>
    obtain ⟨first, next, others, later, hfile, hrest, -, rfl⟩ := handOver_cons_eq_ok_iff.mp h
    obtain ⟨-, -, -, rfl, -⟩ := filer_eq_ok_iff.mp hfile
    rw [ih hrest, List.map_cons, List.singleton_append]

/-- Behind units that went out, one that is refused records nothing, and its cause names the
path of its file. Directories were added for it at most. -/
theorem written_of_refused {cause : GenerationError}
    (h : Filed (filer FileTree.access root) t units t')
    (hrefused : (filer FileTree.access root source.qualifiedName source.contents t').1.1 =
      .error cause) :
    ∃ fault made, cause = .outputWrite (pathFor root source.qualifiedName) fault ∧
      filer FileTree.access root source.qualifiedName source.contents t' =
        ((.error cause, []), made) ∧
      Written root units (units ++ [source]) t made := by
  rcases filer_cases root source.qualifiedName source.contents t' with
    ⟨made, -, -, hfile⟩ | ⟨fault, made, hmade, hfile⟩
  · rw [hfile] at hrefused
    cases hrefused
  · rw [hfile] at hrefused
    obtain rfl := Except.error.inj hrefused
    exact ⟨fault, made, rfl, hfile, (written_of_filed h).addDirectories hmade⟩

/-- A round into a directory is not rendered and changes nothing, or all of its units are
written, or those before one that the file system refuses. -/
theorem round_cases (config : Config) (root : String) (interfaces : List Interface)
    (t : FileTree) :
    (∃ cause events, render config interfaces = .error cause ∧
        process config (filer FileTree.access root) interfaces t = ((.error cause, events), t)) ∨
      (∃ sources t' ids events, render config interfaces = .ok sources ∧
        Written root sources sources t t' ∧
        process config (filer FileTree.access root) interfaces t =
          ((.ok ⟨sources.map Source.reported, ids⟩, events), t')) ∨
      ∃ before refused rest fault t' events,
        render config interfaces = .ok (before ++ refused :: rest) ∧
        Written root before (before ++ [refused]) t t' ∧
        process config (filer FileTree.access root) interfaces t =
          ((.error (.outputWrite (pathFor root refused.qualifiedName) fault), events), t') := by
  rcases MessageBundle.process_cases config (filer FileTree.access root) interfaces t with hfault |
    ⟨sources, t', ids, events, hrender, hfiled, hround⟩ |
    ⟨before, refused, rest, place, cause, events, hrender, hfiled, hrefused, hround⟩
  · exact .inl hfault
  · exact .inr (.inl ⟨sources, t', ids, events, hrender, written_of_filed hfiled, hround⟩)
  · obtain ⟨fault, made, rfl, hfile, hwritten⟩ := written_of_refused hfiled hrefused
    rw [hfile] at hround
    exact .inr (.inr ⟨before, refused, rest, fault, made, events, hrender, hwritten, hround⟩)

/-- Behind a round that ends well, all of its units are written and reported. -/
theorem written_of_report {config : Config} {interfaces : List Interface} {report : Report}
    {events : List Event}
    (h : process config (filer FileTree.access root) interfaces t = ((.ok report, events), t')) :
    ∃ sources, render config interfaces = .ok sources ∧
      report.units = sources.map Source.reported ∧ Written root sources sources t t' := by
  rcases round_cases config root interfaces t with ⟨cause, failing, -, hround⟩ |
    ⟨sources, after, ids, writing, hrender, hwritten, hround⟩ |
    ⟨before, refused, rest, fault, after, writing, -, -, hround⟩
  · rw [h] at hround
    cases hround
  · rw [h] at hround
    cases hround
    exact ⟨sources, hrender, rfl, hwritten⟩
  · rw [h] at hround
    cases hround

end DirectoryFiler

end MessageBundle

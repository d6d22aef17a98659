import MessageBundle.FileAccess
import MessageBundle.Proofs.FileTree.Following

/-!
# What file operations change

Making directories adds directories where nothing was, on the way that was asked for,
and changes nothing else, whether it comes to its end or is refused on the way.
Writing a file changes the one location that the path leads to, and is refused where a
directory stands. So no operation loses a directory, and the ways through a tree stay.

## Main definitions

* `AddsDirectories` — directories were added at the locations of some paths, and nothing
  else was changed

## Main results

* `makeDirectories_addsDirectories` — what making directories changes
* `isDirectory_of_makeEach`, `makeEach_of_isDirectory` — a directory that was made is there,
  and one that is there is not made again
* `write_cases`, `write_eq_ok_iff` — a write is refused and changes nothing, or puts a file in
  its place
-/

namespace MessageBundle

namespace FileTree

/-- The second tree is the first one, with directories added where nothing was, at
locations that the paths lead to. -/
structure AddsDirectories (paths : List String) (t t' : FileTree) : Prop where
  home : t'.home = t.home
  entries : ∀ location, t'.get? location = t.get? location ∨
    t.get? location = none ∧ t'.get? location = some .directory ∧
      ∃ path ∈ paths, t.locate path = location

variable {t t' t'' : FileTree} {location : Location} {paths : List String} {path contents : String}
  {fault : FileFault}

theorem ne_nil_of_get?_eq_none (h : t.get? location = none) : location ≠ [] := by
  rintro rfl
  cases h

/-! ### Directories -/

namespace AddsDirectories

theorem refl (paths : List String) (t : FileTree) : AddsDirectories paths t t :=
  ⟨rfl, fun _ => .inl rfl⟩

theorem trans (h : AddsDirectories paths t t') (h' : AddsDirectories paths t' t'') :
    AddsDirectories paths t t'' where
  home := h'.home.trans h.home
  entries location := by
    rcases h.entries location with hsame | ⟨hnone, hdirectory, path, hmem, hplace⟩
    · rcases h'.entries location with hsame' | ⟨hnone', hdirectory', path, hmem, hplace⟩
      · exact .inl (hsame'.trans hsame)
      · rw [locate_of_home h.home] at hplace
        exact .inr ⟨hsame ▸ hnone', hdirectory', path, hmem, hplace⟩
    · rcases h'.entries location with hsame' | ⟨hnone', -, -⟩
      · exact .inr ⟨hnone, hsame'.trans hdirectory, path, hmem, hplace⟩
      · rw [hdirectory] at hnone'
        cases hnone'

theorem mono {paths' : List String} (h : AddsDirectories paths t t') (hsubset : paths ⊆ paths') :
    AddsDirectories paths' t t' where
  home := h.home
  entries location := (h.entries location).imp_right fun ⟨hnone, hdirectory, path, hmem, hplace⟩ =>
    ⟨hnone, hdirectory, path, hsubset hmem, hplace⟩

theorem keepsDirectories (h : AddsDirectories paths t t') : KeepsDirectories t t' where
  home := h.home
  directories location hdirectory := by
    rcases h.entries location with hsame | ⟨hnone, -, -⟩
    · rw [hsame, hdirectory]
    · rw [hnone] at hdirectory
      cases hdirectory

/-- No file is lost, since a directory is added only where nothing was. -/
theorem get?_file (h : AddsDirectories paths t t') {bytes : ByteArray}
    (hfile : t.get? location = some (.file bytes)) : t'.get? location = some (.file bytes) := by
  rcases h.entries location with hsame | ⟨hnone, -, -⟩
  · rw [hsame, hfile]
  · rw [hnone] at hfile
    cases hfile

end AddsDirectories

theorem makeDirectory_eq_ok_iff :
    t.makeDirectory path = .ok t' ↔
      ∃ location, t.follow path = .ok (location, none) ∧ t' = t.put location .directory := by
  rw [makeDirectory]
  rcases hfollow : t.follow path with fault | ⟨place, found⟩
  · simp
  · cases found with
    | none => simp [eq_comm]
    | some entry => simp

/-- A directory is there already, or it is made. -/
theorem ensureDirectory_cases (h : t.ensureDirectory path = .ok t') :
    (t' = t ∧ t.isDirectory path = true) ∨ t.makeDirectory path = .ok t' := by
  rw [ensureDirectory] at h
  split at h
  · split at h
    next hdirectory => exact .inl ⟨(Except.ok.inj h).symm, hdirectory⟩
    · cases h
  · exact .inr h

theorem ensureDirectory_addsDirectories (h : t.ensureDirectory path = .ok t') :
    AddsDirectories [path] t t' := by
  rcases ensureDirectory_cases h with ⟨rfl, -⟩ | hmade
  · exact .refl [path] t'
  obtain ⟨place, hfollow, rfl⟩ := makeDirectory_eq_ok_iff.mp hmade
  have hnone := get?_of_follow hfollow nofun
  refine ⟨rfl, fun location => ?_⟩
  by_cases hlocation : location = place
  · subst hlocation
    refine .inr ⟨hnone, get?_put (ne_nil_of_get?_eq_none hnone) t .directory, path, ?_⟩
    exact ⟨List.mem_singleton_self path, (eq_locate_of_follow hfollow).symm⟩
  · exact .inl (get?_put_ne hlocation t .directory)

/-- Where a directory is made, there is one. -/
theorem isDirectory_of_ensureDirectory (h : t.ensureDirectory path = .ok t') :
    t'.isDirectory path = true := by
  have hkeeps := (ensureDirectory_addsDirectories h).keepsDirectories
  rcases ensureDirectory_cases h with ⟨rfl, hdirectory⟩ | hmade
  · exact hdirectory
  obtain ⟨place, hfollow, rfl⟩ := makeDirectory_eq_ok_iff.mp hmade
  obtain ⟨husable, hdescend, -⟩ := follow_eq_ok_iff.mp hfollow
  have hway := (descend_of_keepsDirectories hkeeps hdescend nofun).2
  rw [get?_put (ne_nil_of_get?_eq_none (get?_of_follow hfollow nofun))] at hway
  exact isDirectory_iff.mpr ⟨place, follow_eq_ok_iff.mpr ⟨husable, hway, nofun⟩⟩

/-- Making directories, also when it is refused on the way, adds directories only. -/
theorem makeEach_addsDirectories (paths : List String) (t : FileTree) :
    AddsDirectories paths t (makeEach paths t).2 := by
  induction paths generalizing t with
  | nil => exact .refl [] t
  | cons path parents ih =>
    have hhead : [path] ⊆ path :: parents := List.cons_subset_cons path (List.nil_subset parents)
    have hparents : parents ⊆ path :: parents := List.subset_cons_self path parents
    rw [makeEach]
    cases hensure : t.ensureDirectory path with
    | ok made => exact (ensureDirectory_addsDirectories hensure).mono hhead
    | error fault =>
      cases fault with
      | notFound =>
        have hmade := (ih t).mono hparents
        rcases hrest : makeEach parents t with ⟨answer, made⟩
        rw [hrest] at hmade
        cases answer with
        | error fault => exact hmade
        | ok _ =>
          -- the parents are there now, so the path is tried once more
          cases hagain : made.ensureDirectory path with
          | error fault => simpa only [hagain] using hmade
          | ok made' =>
            simp only [hagain]
            exact hmade.trans ((ensureDirectory_addsDirectories hagain).mono hhead)
      | _ => exact .refl (path :: parents) t

theorem makeDirectories_addsDirectories (path : String) (t : FileTree) :
    AddsDirectories (Path.ancestors path) t (t.makeDirectories path).2 :=
  makeEach_addsDirectories (Path.ancestors path) t

/-- Behind directories that were made, the one that was asked for is there. -/
theorem isDirectory_of_makeEach (h : makeEach paths t = (.ok (), t')) :
    ∀ path ∈ paths.head?, t'.isDirectory path = true := by
  cases paths with
  | nil => exact nofun
  | cons path parents =>
    rintro _ ⟨⟩
    rw [makeEach] at h
    split at h
    next hensure =>
      cases h
      exact isDirectory_of_ensureDirectory hensure
    next =>
      split at h
      · cases h
      · split at h
        next hagain =>
          cases h
          exact isDirectory_of_ensureDirectory hagain
        · cases h
    · cases h

/-- A directory that is there is not made again. -/
theorem makeEach_of_isDirectory (h : ∀ path ∈ paths.head?, t.isDirectory path = true) :
    makeEach paths t = (.ok (), t) := by
  cases paths with
  | nil => rfl
  | cons path parents =>
    have hdirectory := h path rfl
    obtain ⟨location, hfollow⟩ := isDirectory_iff.mp hdirectory
    have hensure : t.ensureDirectory path = .ok t := by
      rw [ensureDirectory, makeDirectory, hfollow]
      simp only [hdirectory, if_true]
    rw [makeEach, hensure]

/-! ### Files -/

/-- A write is refused and changes nothing, or the file stands at the location of the path
and nothing else is changed. -/
theorem write_cases (path contents : String) (t : FileTree) :
    (∃ fault, t.write path contents = (.error fault, t)) ∨
      t.LeadsToFile path ∧
        t.write path contents = (.ok (), t.put (t.locate path) (.file contents.toUTF8)) := by
  rw [write]
  cases hfollow : t.follow path with
  | error fault => exact .inl ⟨fault, rfl⟩
  | ok found =>
    obtain ⟨place, entry⟩ := found
    obtain rfl := eq_locate_of_follow hfollow
    match entry with
    | none => exact .inr ⟨⟨none, hfollow, nofun⟩, rfl⟩
    | some .directory => exact .inl ⟨.isDirectory, rfl⟩
    | some (.file bytes) => exact .inr ⟨⟨some (.file bytes), hfollow, nofun⟩, rfl⟩

/-- A file is written where a path leads to one or to a place for one, and only there. -/
theorem write_eq_ok_iff :
    t.write path contents = (.ok (), t') ↔
      t.LeadsToFile path ∧ t' = t.put (t.locate path) (.file contents.toUTF8) := by
  constructor
  · intro h
    rcases write_cases path contents t with ⟨fault, hwrite⟩ | ⟨hleads, hwrite⟩
    · rw [hwrite] at h
      cases h
    · rw [hwrite] at h
      cases h
      exact ⟨hleads, rfl⟩
  · rintro ⟨⟨entry, hfollow, hentry⟩, rfl⟩
    rw [write, hfollow]
    match entry with
    | none => rfl
    | some .directory => exact absurd rfl hentry
    | some (.file bytes) => rfl

theorem LeadsToFile.get?_ne_directory (h : t.LeadsToFile path) :
    t.get? (t.locate path) ≠ some .directory := by
  obtain ⟨entry, hfollow, hentry⟩ := h
  rw [get?_of_follow hfollow hentry]
  exact hentry

theorem LeadsToFile.locate_ne_nil (h : t.LeadsToFile path) : t.locate path ≠ [] := by
  intro hroot
  refine h.get?_ne_directory ?_
  rw [hroot]
  rfl

/-- A file put where there is no directory loses none. -/
theorem LeadsToFile.keepsDirectories_put (h : t.LeadsToFile path) (bytes : ByteArray) :
    KeepsDirectories t (t.put (t.locate path) (.file bytes)) where
  home := rfl
  directories location hdirectory := by
    have hne : location ≠ t.locate path := by
      rintro rfl
      exact h.get?_ne_directory hdirectory
    rw [get?_put_ne hne, hdirectory]

end FileTree

end MessageBundle

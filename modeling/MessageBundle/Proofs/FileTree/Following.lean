import MessageBundle.FileTree

/-!
# Where paths lead

Following a path can be refused, but where it leads when it is not refused is told by
the components alone: a step up takes a name away, any other component adds one. What
the tree decides is whether the way is there. A way that is there stays there as long
as no directory on it is lost, so a path that leads to a file once goes on leading to
its location.

## Main definitions

* `walk`, `locate` — the location that components, or a path, lead to
* `KeepsDirectories` — the home and every directory of a tree are those of another one too
* `LeadsToFile` — a path leads to a place where a file is or can be put

## Main results

* `eq_locate_of_follow` — a path that is followed leads to its location
* `follow_of_keepsDirectories` — a way to a file stays a way
* `LeadsToFile.read_eq` — the file at the location of a path is what is read from the path
* `isDirectory_of_keepsDirectories` — a path to a directory stays one
-/

namespace MessageBundle

namespace FileTree

/-- The location behind a component, seen from a place. -/
def enter (place : Location) (name : String) : Location :=
  if name = ".." then place.dropLast else place ++ [name]

/-- The location that components lead to from a place. -/
def walk (place : Location) (names : List String) : Location := names.foldl enter place

/-- The location that a path leads to, whether anything is there or not. -/
def locate (t : FileTree) (path : String) : Location :=
  walk (if Path.isAbsolute path then [] else t.home) (components path)

/-- The home of a tree and all of its directories are those of another tree too. -/
structure KeepsDirectories (t t' : FileTree) : Prop where
  home : t'.home = t.home
  directories : ∀ location, t.get? location = some .directory → t'.get? location = some .directory

/-- A path leads to a file, or to a place where there is nothing yet. -/
def LeadsToFile (t : FileTree) (path : String) : Prop :=
  ∃ entry, t.follow path = .ok (t.locate path, entry) ∧ entry ≠ some .directory

variable {t t' : FileTree} {place location : Location} {names : List String}
  {entry : Option Entry} {path contents : String}

/-- Components that never step up add their names to a place. -/
theorem walk_eq_append (h : ".." ∉ names) (place : Location) :
    walk place names = place ++ names := by
  -- along the components, while the place grows by each of them
  induction names generalizing place with
  | nil => exact (List.append_nil place).symm
  | cons name rest ih =>
    have hname : name ≠ ".." := fun heq => h (heq ▸ List.mem_cons_self)
    have hrest : ".." ∉ rest := fun hmem => h (List.mem_cons_of_mem name hmem)
    have hstep : walk place (name :: rest) = walk (place ++ [name]) rest := by
      rw [walk, List.foldl_cons, enter, if_neg hname]
      rfl
    rw [hstep, ih hrest, List.append_assoc, List.singleton_append]

theorem walk_append (place : Location) (names names' : List String) :
    walk place (names ++ names') = walk (walk place names) names' := List.foldl_append

theorem locate_of_home (h : t'.home = t.home) (path : String) : t'.locate path = t.locate path := by
  rw [locate, locate, h]

/-- A path that starts at the top and takes no step up leads to where its components say. -/
theorem locate_of_isAbsolute {path : String} (habsolute : Path.isAbsolute path = true)
    (hup : ".." ∉ components path) (t : FileTree) : t.locate path = components path := by
  rw [locate, habsolute, if_pos rfl, walk_eq_append hup, List.nil_append]

/-! ### Following components -/

/-- The ways on which `descend` succeeds: nothing to follow, a step up, a last component,
and a component that is a directory with others behind it. -/
theorem descend_cons_eq_ok {name : String} {rest : List String}
    (h : t.descend place (name :: rest) = .ok (location, entry)) :
    (name = ".." ∧ t.descend place.dropLast rest = .ok (location, entry)) ∨
      (name ≠ ".." ∧ name.utf8ByteSize ≤ maxNameBytes ∧
        (rest = [] ∧ location = place ++ [name] ∧ entry = t.get? location ∨
          rest ≠ [] ∧ t.get? (place ++ [name]) = some .directory ∧
            t.descend (place ++ [name]) rest = .ok (location, entry))) := by
  rw [descend] at h
  by_cases hup : name = ".."
  · rw [if_pos hup] at h
    exact .inl ⟨hup, h⟩
  rw [if_neg hup] at h
  by_cases hlong : maxNameBytes < name.utf8ByteSize
  · rw [if_pos hlong] at h
    cases h
  rw [if_neg hlong] at h
  refine .inr ⟨hup, Nat.le_of_not_lt hlong, ?_⟩
  cases rest with
  | nil =>
    cases h
    exact .inl ⟨rfl, rfl, rfl⟩
  | cons next rest =>
    refine .inr ⟨List.cons_ne_nil next rest, ?_⟩
    cases hhere : t.get? (place ++ [name]) with
    | none =>
      simp only [hhere] at h
      cases h
    | some found =>
      simp only [hhere] at h
      cases found with
      | file _ => cases h
      | directory => exact ⟨rfl, h⟩

theorem eq_walk_of_descend (h : t.descend place names = .ok (location, entry)) :
    location = walk place names := by
  -- every way on which `descend` goes on is the one that `walk` takes
  induction names generalizing place with
  | nil =>
    cases h
    rfl
  | cons name rest ih =>
    rw [walk, List.foldl_cons, enter]
    rcases descend_cons_eq_ok h with ⟨hup, hrest⟩ | ⟨hup, -, ⟨rfl, rfl, -⟩ | ⟨-, -, hrest⟩⟩
    · rw [if_pos hup]
      exact ih hrest
    · rw [if_neg hup]
      rfl
    · rw [if_neg hup]
      exact ih hrest

/-- In a tree with the same directories, components lead to the same location: to a
directory, or to what each of the trees has there. -/
theorem descend_cases_of_keepsDirectories (hkeeps : KeepsDirectories t t')
    (h : t.descend place names = .ok (location, entry)) :
    (entry = some .directory ∧ t'.descend place names = .ok (location, some .directory)) ∨
      (t.get? location = entry ∧ t'.descend place names = .ok (location, t'.get? location)) := by
  -- along the components: those in front are directories, which the other tree has too
  induction names generalizing place with
  | nil =>
    cases h
    exact .inl ⟨rfl, rfl⟩
  | cons name rest ih =>
    rw [descend]
    rcases descend_cons_eq_ok h with
      ⟨hup, hrest⟩ | ⟨hup, hshort, ⟨rfl, rfl, rfl⟩ | ⟨hne, hhere, hrest⟩⟩
    · rw [if_pos hup]
      exact ih hrest
    · rw [if_neg hup, if_neg (Nat.not_lt.mpr hshort)]
      exact .inr ⟨rfl, rfl⟩
    · rw [if_neg hup, if_neg (Nat.not_lt.mpr hshort)]
      obtain ⟨next, others, rfl⟩ := List.exists_cons_of_ne_nil hne
      simp only [hkeeps.directories _ hhere]
      exact ih hrest

/-- Components that lead to anything but a directory lead to what the tree has there. In
a tree with the same directories they lead to the same location. -/
theorem descend_of_keepsDirectories (hkeeps : KeepsDirectories t t')
    (h : t.descend place names = .ok (location, entry)) (hentry : entry ≠ some .directory) :
    t.get? location = entry ∧ t'.descend place names = .ok (location, t'.get? location) :=
  (descend_cases_of_keepsDirectories hkeeps h).resolve_left fun hdirectory => hentry hdirectory.1

/-- Components that lead to a directory lead to it in a tree with the same directories. -/
theorem descend_directory_of_keepsDirectories (hkeeps : KeepsDirectories t t')
    (h : t.descend place names = .ok (location, some .directory)) :
    t'.descend place names = .ok (location, some .directory) := by
  rcases descend_cases_of_keepsDirectories hkeeps h with ⟨-, hway⟩ | ⟨hdirectory, hway⟩
  · exact hway
  · rw [hway, hkeeps.directories location hdirectory]

/-! ### Following paths -/

/-- A path that can be handed to the file system: it is not empty, not too long, and does
not hold the character with code point zero. -/
def IsUsable (path : String) : Prop :=
  path.toList.contains '\x00' = false ∧ path ≠ "" ∧ path.utf8ByteSize ≤ maxPathBytes

theorem isUsable_of_follow (h : t.follow path = .ok (location, entry)) : IsUsable path := by
  rw [follow] at h
  by_cases hnul : path.toList.contains '\x00' = true
  · rw [if_pos hnul] at h
    cases h
  rw [if_neg hnul] at h
  by_cases hempty : path = ""
  · rw [if_pos hempty] at h
    cases h
  rw [if_neg hempty] at h
  by_cases hlong : maxPathBytes < path.utf8ByteSize
  · rw [if_pos hlong] at h
    cases h
  exact ⟨Bool.not_eq_true _ ▸ hnul, hempty, Nat.le_of_not_lt hlong⟩

/-- What a path leads to, told by its components and by its form. -/
theorem follow_eq_ok_iff :
    t.follow path = .ok (location, entry) ↔
      IsUsable path ∧
        t.descend (if Path.isAbsolute path then [] else t.home) (components path) =
          .ok (location, entry) ∧
        ∀ bytes, entry = some (.file bytes) → wantsDirectory path = false := by
  constructor
  · intro h
    obtain ⟨hnul, hempty, hshort⟩ := isUsable_of_follow h
    refine ⟨⟨hnul, hempty, hshort⟩, ?_⟩
    rw [follow, if_neg (Bool.not_eq_true _ ▸ hnul), if_neg hempty,
      if_neg (Nat.not_lt.mpr hshort)] at h
    -- only a file at the end makes a difference to what the components lead to
    split at h
    next place bytes hdescend =>
      split at h
      · cases h
      next hwants =>
        cases h
        exact ⟨hdescend, fun _ _ => Bool.not_eq_true _ ▸ hwants⟩
    next hother =>
      refine ⟨h, fun bytes hfile => ?_⟩
      subst hfile
      exact absurd h (hother location bytes)
  · rintro ⟨⟨hnul, hempty, hshort⟩, hdescend, hfile⟩
    rw [follow, if_neg (Bool.not_eq_true _ ▸ hnul), if_neg hempty,
      if_neg (Nat.not_lt.mpr hshort), hdescend]
    match entry with
    | none => rfl
    | some .directory => rfl
    | some (.file bytes) =>
      simp only
      rw [hfile bytes rfl]
      rfl

theorem eq_locate_of_follow (h : t.follow path = .ok (location, entry)) :
    location = t.locate path :=
  eq_walk_of_descend (follow_eq_ok_iff.mp h).2.1

/-- What a path leads to, unless it is a directory, is what the tree has at its location. -/
theorem get?_of_follow (h : t.follow path = .ok (location, entry))
    (hentry : entry ≠ some .directory) : t.get? location = entry :=
  (descend_of_keepsDirectories ⟨rfl, fun _ => id⟩ (follow_eq_ok_iff.mp h).2.1 hentry).1

/-- A way to a file, or to a place for one, stays a way where no directory is lost. -/
theorem follow_of_keepsDirectories (hkeeps : KeepsDirectories t t') (h : t.LeadsToFile path)
    (hfile : wantsDirectory path = false) :
    t'.follow path = .ok (t'.locate path, t'.get? (t'.locate path)) := by
  obtain ⟨entry, hfollow, hentry⟩ := h
  obtain ⟨husable, hdescend, -⟩ := follow_eq_ok_iff.mp hfollow
  have hway := (descend_of_keepsDirectories hkeeps hdescend hentry).2
  rw [locate_of_home hkeeps.home]
  refine follow_eq_ok_iff.mpr ⟨husable, ?_, fun _ _ => hfile⟩
  rw [hkeeps.home]
  exact hway

theorem LeadsToFile.of_keepsDirectories (h : t.LeadsToFile path) (hkeeps : KeepsDirectories t t')
    (hfile : wantsDirectory path = false)
    (hentry : t'.get? (t'.locate path) ≠ some .directory) : t'.LeadsToFile path :=
  ⟨t'.get? (t'.locate path), follow_of_keepsDirectories hkeeps h hfile, hentry⟩

/-- What stands at the location of a path is read from the path, where the path leads. -/
theorem LeadsToFile.read_eq {bytes : ByteArray} (h : t.LeadsToFile path)
    (hfile : t.get? (t.locate path) = some (.file bytes)) : t.read path = .ok bytes := by
  obtain ⟨entry, hfollow, hentry⟩ := h
  rw [get?_of_follow hfollow hentry] at hfile
  rw [read, hfollow, hfile]

/-! ### Paths to directories -/

theorem isDirectory_iff :
    t.isDirectory path = true ↔ ∃ location, t.follow path = .ok (location, some .directory) := by
  rw [isDirectory]
  split
  next location hfollow => simp [hfollow]
  next hother =>
    simp only [Bool.false_eq_true, false_iff, not_exists]
    exact hother

/-- A path that leads to a directory goes on leading to one where no directory is lost. -/
theorem isDirectory_of_keepsDirectories (hkeeps : KeepsDirectories t t')
    (h : t.isDirectory path = true) : t'.isDirectory path = true := by
  obtain ⟨location, hfollow⟩ := isDirectory_iff.mp h
  obtain ⟨husable, hdescend, -⟩ := follow_eq_ok_iff.mp hfollow
  have hway := descend_directory_of_keepsDirectories hkeeps hdescend
  rw [← hkeeps.home] at hway
  exact isDirectory_iff.mpr ⟨location, follow_eq_ok_iff.mpr ⟨husable, hway, nofun⟩⟩

end FileTree

end MessageBundle

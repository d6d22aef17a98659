import MessageBundle.FileFault
import MessageBundle.Path

/-!
# Trees of files and directories

A tree has files and directories at locations, which are the names on the way
from the root, and a home directory at which relative paths start. There are no
links and no permissions. A path is followed component by component; every
component but the last has to be a directory.

## Main definitions

* `FileTree`, `FileTree.get?` — a tree, and what is at a location
* `follow` — where a path leads
* `read`, `makeDirectory`, `makeDirectories`, `write` — the file operations

## Main results

* `get?_put`, `get?_put_ne` — what putting an entry changes
-/

namespace MessageBundle

/-- The names on the way from the root. -/
abbrev Location := List String

/-- What stands at a location. -/
inductive Entry
  | file (contents : ByteArray)
  | directory

/-- Entries at locations other than the root, and where relative paths start. -/
structure FileTree where
  entries : List (Location × Entry)
  home : Location

namespace FileTree

open Text

/-- The most bytes a component can have. -/
def maxNameBytes : Nat := 255

/-- The most bytes a path can have. -/
def maxPathBytes : Nat := 4095

/-- What is at a location; the root is always a directory. -/
def get? (t : FileTree) (location : Location) : Option Entry :=
  if location = [] then some .directory else t.entries.lookup location

/-- An entry put in the place of the one at its location, or at the end. -/
def putEntry (location : Location) (entry : Entry) :
    List (Location × Entry) → List (Location × Entry)
  | [] => [(location, entry)]
  | (other, old) :: rest =>
    if location = other then (location, entry) :: rest
    else (other, old) :: putEntry location entry rest

/-- The tree with an entry at a location. -/
def put (t : FileTree) (location : Location) (entry : Entry) : FileTree :=
  { t with entries := putEntry location entry t.entries }

theorem lookup_putEntry (location : Location) (entry : Entry) (entries : List (Location × Entry)) :
    (putEntry location entry entries).lookup location = some entry := by
  induction entries with
  | nil => simp [putEntry]
  | cons head rest ih =>
    obtain ⟨other, old⟩ := head
    by_cases h : location = other
    · simp [putEntry, h]
    · simp [putEntry, h, List.lookup_cons, beq_false_of_ne h, ih]

theorem lookup_putEntry_ne {location other : Location} (h : other ≠ location) (entry : Entry)
    (entries : List (Location × Entry)) :
    (putEntry location entry entries).lookup other = entries.lookup other := by
  induction entries with
  | nil => simp [putEntry, List.lookup_cons, beq_false_of_ne h]
  | cons head rest ih =>
    obtain ⟨place, old⟩ := head
    by_cases hp : location = place
    · subst hp
      simp [putEntry, List.lookup_cons, beq_false_of_ne h]
    · simp [putEntry, hp, List.lookup_cons, ih]

theorem get?_put {location : Location} (h : location ≠ []) (t : FileTree) (entry : Entry) :
    (t.put location entry).get? location = some entry := by
  simp [get?, put, h, lookup_putEntry]

theorem get?_put_ne {location other : Location} (h : other ≠ location) (t : FileTree)
    (entry : Entry) : (t.put location entry).get? other = t.get? other := by
  simp [get?, put, lookup_putEntry_ne h]

/-- The components of a path that name something. -/
def components (path : String) : List String :=
  (pieces '/' path).filter fun part => !Path.isVoidPart part

/-- A path that ends in a slash, or in a slash and a dot, leads to a directory. -/
def wantsDirectory (path : String) : Bool :=
  match (pieces '/' path).getLast? with
  | some last => Path.isVoidPart last
  | none => false

/-- Components followed from a directory: the location they lead to and what is
there. -/
def descend (t : FileTree) (place : Location) :
    List String → Except FileFault (Location × Option Entry)
  | [] => .ok (place, some .directory)
  | name :: rest =>
    if name = ".." then t.descend place.dropLast rest
    else if maxNameBytes < name.utf8ByteSize then .error .nameTooLong
    else
      let here := place ++ [name]
      match rest, t.get? here with
      | [], entry => .ok (here, entry)
      | _ :: _, none => .error .notFound
      | _ :: _, some (.file _) => .error .notDirectory
      | _ :: _, some .directory => t.descend here rest

/-- Where a path leads: the location, and what is there if it exists. -/
def follow (t : FileTree) (path : String) : Except FileFault (Location × Option Entry) :=
  if path.toList.contains '\x00' then .error .nulInName
  else if path = "" then .error .notFound
  else if maxPathBytes < path.utf8ByteSize then .error .nameTooLong
  else
    match t.descend (if Path.isAbsolute path then [] else t.home) (components path) with
    | .ok (location, some (.file contents)) =>
      if wantsDirectory path then .error .notDirectory
      else .ok (location, some (.file contents))
    | answer => answer

/-- The contents of the file that a path leads to. -/
def read (t : FileTree) (path : String) : Except FileFault ByteArray :=
  match t.follow path with
  | .error fault => .error fault
  | .ok (_, none) => .error .notFound
  | .ok (_, some .directory) => .error .isDirectory
  | .ok (_, some (.file contents)) => .ok contents

/-- A path leads to a directory that exists. -/
def isDirectory (t : FileTree) (path : String) : Bool :=
  match t.follow path with
  | .ok (_, some .directory) => true
  | _ => false

/-- The tree with a new directory; nothing may be in its place. -/
def makeDirectory (t : FileTree) (path : String) : Except FileFault FileTree :=
  match t.follow path with
  | .error fault => .error fault
  | .ok (_, some _) => .error .alreadyExists
  | .ok (location, none) => .ok (t.put location .directory)

/-- A new directory, or the one that is there already. -/
def ensureDirectory (t : FileTree) (path : String) : Except FileFault FileTree :=
  match t.makeDirectory path with
  | .error .alreadyExists => if t.isDirectory path then .ok t else .error .alreadyExists
  | answer => answer

/-- The first of the paths made a directory. Where the way to it is missing, the
others are made first. What was made stays when a later step is refused. -/
def makeEach : List String → FileTree → Except FileFault Unit × FileTree
  | [], t => (.ok (), t)
  | path :: parents, t =>
    match t.ensureDirectory path with
    | .ok t' => (.ok (), t')
    | .error .notFound =>
      match makeEach parents t with
      | (.error fault, t') => (.error fault, t')
      | (.ok (), t') =>
        match t'.ensureDirectory path with
        | .ok t'' => (.ok (), t'')
        | .error fault => (.error fault, t')
    | .error fault => (.error fault, t)

/-- A directory made with all directories on the way to it. -/
def makeDirectories (path : String) (t : FileTree) : Except FileFault Unit × FileTree :=
  makeEach (Path.ancestors path) t

/-- A file written, in the place of an older one if there is one. -/
def write (path contents : String) (t : FileTree) : Except FileFault Unit × FileTree :=
  match t.follow path with
  | .error fault => (.error fault, t)
  | .ok (_, some .directory) => (.error .isDirectory, t)
  | .ok (location, _) => (.ok (), t.put location (.file contents.toUTF8))

end FileTree

end MessageBundle

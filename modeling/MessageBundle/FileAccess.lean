import MessageBundle.FileTree

/-!
# Access to files

What a command needs of a file system is three operations. They are given as a
record, so that a command runs alike over a tree in memory and over real files.
-/

namespace MessageBundle

/-- The file operations that commands use. -/
structure FileAccess (m : Type → Type) where
  /-- The bytes of a file. -/
  read : String → m (Except FileFault ByteArray)
  /-- A directory made with all directories on the way to it. -/
  makeDirectories : String → m (Except FileFault Unit)
  /-- A file written with a text. -/
  write : String → String → m (Except FileFault Unit)

namespace FileAccess

/-- The text of a file, whose bytes have to be UTF-8. -/
def readText {m : Type → Type} [Monad m] (access : FileAccess m) (path : String) :
    m (Except FileFault String) := do
  match ← access.read path with
  | .error fault => pure (.error fault)
  | .ok bytes =>
    match String.fromUTF8? bytes with
    | some text => pure (.ok text)
    | none => pure (.error .notText)

end FileAccess

/-- The file operations on a tree in memory. -/
def FileTree.access : FileAccess (StateM FileTree) where
  read path := fun t => (t.read path, t)
  makeDirectories path := FileTree.makeDirectories path
  write path contents := FileTree.write path contents

end MessageBundle

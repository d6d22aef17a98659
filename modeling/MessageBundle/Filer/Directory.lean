import MessageBundle.FileAccess
import MessageBundle.Round

/-!
# Units written under a directory

A unit is written to the source file of its class under a root directory. The
directories on the way are made as needed, and an older file is replaced.
-/

namespace MessageBundle

namespace DirectoryFiler

/-- The file of a class under a root directory. -/
def pathFor (root name : String) : String := Path.push root (Name.sourcePath name)

/-- The directory of a file made ready. -/
def makeParent {m : Type → Type} [Monad m] (access : FileAccess m) (path : String) :
    m (Except FileFault Unit) :=
  match Path.parent? path with
  | some parent => access.makeDirectories parent
  | none => pure (.ok ())

/-- Units are handed over to the files under a root directory, and each one
written is recorded. -/
def filer {m : Type → Type} [Monad m] (access : FileAccess m) (root : String) : Filer m :=
  fun name contents => do
    let path := pathFor root name
    match ← makeParent access path with
    | .error fault => pure (.error (.outputWrite path fault), [])
    | .ok () =>
      match ← access.write path contents with
      | .error fault => pure (.error (.outputWrite path fault), [])
      | .ok () => pure (.ok (), [.sourceWritten name path])

end DirectoryFiler

end MessageBundle

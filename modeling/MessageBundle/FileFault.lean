/-!
# Faults of file operations

Each fault is worded as the operating system words it, with its number where it
has one.
-/

namespace MessageBundle

/-- Why a file operation was refused. -/
inductive FileFault
  | notFound
  | alreadyExists
  | notDirectory
  | isDirectory
  | nameTooLong
  /-- A path holds the character with code point zero. -/
  | nulInName
  /-- The bytes of a file are not UTF-8. -/
  | notText
  /-- Any other fault, in the words of the system. -/
  | other (description : String)
  deriving DecidableEq, Repr

/-- The wording of a fault. -/
def FileFault.message : FileFault → String
  | notFound => "No such file or directory (os error 2)"
  | alreadyExists => "File exists (os error 17)"
  | notDirectory => "Not a directory (os error 20)"
  | isDirectory => "Is a directory (os error 21)"
  | nameTooLong => "File name too long (os error 36)"
  | nulInName => "file name contained an unexpected NUL byte"
  | notText => "stream did not contain valid UTF-8"
  | other description => description

end MessageBundle

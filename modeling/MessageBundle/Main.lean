import MessageBundle.CommandLine

/-!
# The program

The arguments are carried out on real files. What was recorded is printed on the
error channel, as far as the verbosity asks for it.
-/

namespace MessageBundle

/-- A fault of the operating system. -/
def FileFault.ofError : IO.Error → FileFault
  | .noFileOrDirectory .. => .notFound
  | .alreadyExists .. => .alreadyExists
  | .inappropriateType _ code details | .resourceExhausted _ code details =>
    if code = 20 then .notDirectory
    else if code = 21 then .isDirectory
    else if code = 36 then .nameTooLong
    else .other details
  | error => .other (toString error)

/-- A file operation with its fault. -/
def attempt {α : Type} (path : String) (action : IO α) : IO (Except FileFault α) :=
  if path.toList.contains '\x00' then pure (.error .nulInName)
  else do
    try
      let value ← action
      pure (.ok value)
    catch error => pure (.error (.ofError error))

/-- The file operations on real files. -/
def realFiles : FileAccess IO where
  read path := attempt path (IO.FS.readBinFile path)
  makeDirectories path :=
    if path = "" then pure (.ok ()) else attempt path (IO.FS.createDirAll path)
  write path contents := attempt path (IO.FS.writeFile path contents)

/-- A severity is printed at a verbosity. -/
def Severity.isShown (verbosity : Nat) : Severity → Bool
  | .error | .warn => true
  | .info => 1 ≤ verbosity
  | .debug => 2 ≤ verbosity

/-- The word for a severity. -/
def Severity.display : Severity → String
  | .debug => "DEBUG"
  | .info => "INFO"
  | .warn => "WARN"
  | .error => "ERROR"

/-- A recorded event as a line. -/
def Event.line (e : Event) : String :=
  let value : FieldValue → String
    | .text s => s
    | .count n => toString n
  let fields := String.join (e.fields.map fun field => s!" {field.1}={value field.2}")
  s!"{e.severity.display} {e.message}{fields}"

/-- The verbosity that arguments ask for. -/
def verbosityOf (arguments : List String) : Nat :=
  match CommandLine.parse arguments with
  | .request verbosity _ => verbosity
  | _ => 0

end MessageBundle

open MessageBundle in
/-- Carries out the arguments and gives their exit status. -/
def main (arguments : List String) : IO UInt32 := do
  let outcome ← CommandLine.run realFiles arguments
  IO.print outcome.stdout
  for event in outcome.events do
    if event.severity.isShown (verbosityOf arguments) then IO.eprintln event.line
  IO.eprint outcome.stderr
  return outcome.exitCode.toUInt32

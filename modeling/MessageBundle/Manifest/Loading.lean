import MessageBundle.FileAccess
import MessageBundle.Json.Document
import MessageBundle.Manifest.Encoding
import MessageBundle.Toml.Document

/-!
# Loading manifests

A manifest is kept in a file, in one of two formats. The extension of the file
tells which: `json` in any case for JSON, anything else for TOML. What can go
wrong from there to the end of a round is a failure, which has a wording and an
exit status.

## Main definitions

* `Format`, `Manifest.ofText` — a manifest from a text in a format
* `Failure` — what can go wrong
* `Manifest.load` — a manifest from a file
-/

namespace MessageBundle

/-- The formats of a manifest. -/
inductive Format
  | toml
  | json
  deriving DecidableEq, Repr

namespace Format

/-- The name of a format. -/
def display : Format → String
  | toml => "TOML"
  | json => "JSON"

/-- The format of a file, by its extension. -/
def ofPath (path : String) : Format :=
  if (Path.extension? path).any fun extension => Text.sameIgnoringCase extension "json" then .json
  else .toml

end Format

/-- A manifest from a text in a format. -/
def Manifest.ofText (format : Format) (text : String) : Reading TextFault Manifest :=
  match format with
  | .json =>
    (Json.Document.ofBytes text.toUTF8.data.toList).read (Manifest.read Json.Document.medium)
  | .toml =>
    match Toml.Document.ofText? text with
    | none => .error (.damage .malformed)
    | some document => document.read (Manifest.read Toml.Document.medium)

/-- A configuration from a JSON text; the empty text gives the defaults. -/
def Config.ofJson (bytes : List UInt8) : Reading TextFault Config :=
  if bytes.isEmpty then .ok {}
  else (Json.Document.ofBytes bytes).read (Config.read Json.Document.medium)

/-- The wording of what is wrong with a text. -/
def Misread.message : Misread TextFault → String
  | damage .malformed => "the text is malformed"
  | damage .truncated => "the text ends too early"
  | misfit why => why.message

/-- What can go wrong with a manifest. -/
inductive Failure
  /-- The file cannot be read. -/
  | unreadable (path : String) (fault : FileFault)
  /-- The file does not hold a manifest. -/
  | undecodable (path : String) (format : Format) (why : Misread TextFault)
  /-- The structure of the manifest is at fault. -/
  | structural (fault : StructureFault)
  /-- The configuration is not one to start a round with. -/
  | unusableConfig (fault : ConfigFault)
  /-- The configuration was refused with the structure, or the round failed; when
  units are written, the path of their manifest is told. -/
  | generation (path : Option String) (cause : GenerationError)
  deriving DecidableEq, Repr

/-- A cause with what lies behind it, the outermost first. -/
def GenerationError.chain (cause : GenerationError) : List String :=
  cause.message ::
    match cause with
    | .outputWrite _ fault => [fault.message]
    | _ => []

namespace Failure

/-- The parts of the wording, from the outermost to the innermost. -/
def chain : Failure → List String
  | unreadable path fault =>
    [s!"Failed to read manifest: {Text.quote path}", fault.message]
  | undecodable path format why =>
    [s!"Invalid manifest: {Text.quote path}",
      s!"Failed to parse {format.display} manifest", why.message]
  | structural fault => [fault.message]
  | unusableConfig fault =>
    "Invalid generator configuration" :: (GenerationError.config fault).chain
  | generation none cause => cause.chain
  | generation (some path) cause => s!"Generation failed for {path}" :: cause.chain

/-- The wording of a failure. -/
def message (f : Failure) : String := ": ".intercalate f.chain

/-- The error of generation behind a failure, if there is one. -/
def cause? : Failure → Option GenerationError
  | unusableConfig fault => some (.config fault)
  | generation _ cause => some cause
  | unreadable .. | undecodable .. | structural _ => none

/-- The exit status for a failure. -/
def code (f : Failure) : Nat := (f.cause?.map GenerationError.code).getD 1

end Failure

namespace Manifest

/-- The manifest in a file. -/
def load {m : Type → Type} [Monad m] (access : FileAccess m) (path : String) :
    m (Except Failure Manifest) := do
  match ← access.readText path with
  | .error fault => pure (.error (.unreadable path fault))
  | .ok text =>
    let format := Format.ofPath path
    pure ((Manifest.ofText format text).mapError (.undecodable path format))

/-- A manifest without faults in its configuration and its structure. -/
def validate (m : Manifest) : Except Failure Unit :=
  match m.fault? with
  | none => .ok ()
  | some (.config fault) => .error (.generation none (.config fault))
  | some (.structural fault) => .error (.structural fault)

/-- The configuration that a round of a manifest is started with; one with a fault
is refused. -/
def roundConfig (m : Manifest) : Except Failure Config :=
  match m.config.fault? with
  | none => .ok m.config
  | some fault => .error (.unusableConfig fault)

/-- The units of a manifest whose configuration is usable. -/
def render (m : Manifest) : Except Failure (List Source) := do
  let config ← m.roundConfig
  (MessageBundle.render config m.interfaces).mapError (.generation none)

end Manifest

end MessageBundle

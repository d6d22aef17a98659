import MessageBundle.Filer.Directory
import MessageBundle.Manifest.Loading

/-!
# The two commands

`check` loads a manifest and renders it without writing anything. `generate` loads
a manifest, puts the overrides in, and writes the rendered units under a
directory. Both refuse a manifest with faults before their round starts.

## Main definitions

* `Manifest.prepare`, `Manifest.inspect` — the configuration to start a round with
  and the units, of a manifest without faults
* `check`, `generate` — the commands, with their results
* `runCheck`, `runGenerate` — the commands, with what they print
-/

namespace MessageBundle

/-- The manifest that is loaded when none is named. -/
def defaultManifest : String := "logbundle.toml"

/-- The configuration that a round is started with, for a manifest without faults. -/
def Manifest.prepare (manifest : Manifest) : Except Failure Config := do
  manifest.validate
  manifest.roundConfig

/-- The units of a manifest without faults. -/
def Manifest.inspect (manifest : Manifest) : Except Failure (List Source) := do
  manifest.validate
  manifest.render

/-- What `check` finds in a manifest: the manifest and its units. -/
def check {m : Type → Type} [Monad m] (access : FileAccess m) (path : String) :
    m (Except Failure (Manifest × List Source)) := do
  match ← Manifest.load access path with
  | .error failure => pure (.error failure)
  | .ok manifest => pure (manifest.inspect.map (manifest, ·))

/-- A manifest with overrides put into its configuration. -/
def Manifest.override (overrides : Overrides) (manifest : Manifest) : Manifest :=
  { manifest with config := overrides.apply manifest.config }

/-- What `generate` is told: where the manifest is, where units go, and what
takes precedence over the configuration of the manifest. -/
structure GenerateOptions where
  path : String := defaultManifest
  output : String
  overrides : Overrides := {}
  deriving DecidableEq, Repr

/-- The round of `generate`, with what was recorded in it. -/
def generate {m : Type → Type} [Monad m] (access : FileAccess m) (options : GenerateOptions) :
    m (Except Failure Report × List Event) := do
  match ← Manifest.load access options.path with
  | .error failure => pure (.error failure, [])
  | .ok loaded =>
    let manifest := loaded.override options.overrides
    match manifest.prepare with
    | .error failure => pure (.error failure, [])
    | .ok config =>
      let (result, events) ←
        process config (DirectoryFiler.filer access options.output) manifest.interfaces
      pure (result.mapError (.generation (some options.path)), events)

/-- What a command leaves: its exit status, what it printed on either channel,
and what was recorded. -/
structure Outcome where
  exitCode : Nat
  stdout : String
  stderr : String := ""
  events : List Event := []
  deriving DecidableEq, Repr

/-- The outcome of a command that failed after it had announced itself. -/
def Failure.outcome (announcement : String) (failure : Failure) (events : List Event := []) :
    Outcome :=
  { exitCode := failure.code
    stdout := announcement
    stderr := s!"error: {failure.message}\n"
    events }

/-- The text that `check` prints for a sound manifest. -/
def checkSummary (manifest : Manifest) (sources : List Source) : String :=
  let methods := total (sources.map Source.methodCount)
  s!"✓ Interfaces: {manifest.interfaces.length}\n" ++ s!"✓ Bundles: {sources.length}\n" ++
    s!"✓ Methods: {methods}\n" ++ "\nManifest is valid!\n"

/-- The command `check`. -/
def runCheck {m : Type → Type} [Monad m] (access : FileAccess m) (path : String) : m Outcome := do
  let announcement := s!"Checking manifest: {path}\n"
  match ← check access path with
  | .error failure => pure (failure.outcome announcement)
  | .ok (manifest, sources) =>
    pure { exitCode := 0, stdout := announcement ++ checkSummary manifest sources }

/-- The text that `generate` prints for a round that succeeded. -/
def generateSummary (output : String) (report : Report) : String :=
  String.join
      (report.units.map fun unit =>
        let path := DirectoryFiler.pathFor output unit.qualifiedName
        s!"✓ {unit.qualifiedName} ({unit.methodCount} methods) -> {path}\n") ++
    s!"\nGenerated {report.units.length} classes, {report.totalMethods} methods, " ++
      s!"{report.messageIds} message ids into {output}\n"

/-- The command `generate`. -/
def runGenerate {m : Type → Type} [Monad m] (access : FileAccess m) (options : GenerateOptions) :
    m Outcome := do
  let announcement := s!"Generating from manifest: {options.path}\n"
  let (result, events) ← generate access options
  match result with
  | .error failure => pure (failure.outcome announcement events)
  | .ok report =>
    pure { exitCode := 0, stdout := announcement ++ generateSummary options.output report, events }

end MessageBundle

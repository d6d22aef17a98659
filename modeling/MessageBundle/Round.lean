import MessageBundle.Collection
import MessageBundle.JavaClass

/-!
# Generation rounds

A round takes the interfaces in the order in which they were declared. It
collects the bundles, resolves and renders all of them in memory, and only then
hands the rendered units over, one after another. A round that fails before the
last bundle is rendered therefore hands nothing over.

## Main definitions

* `renderBundles` — the units of bundles, up to the first failure
* `Rendering`, `renderRound` — the units of a round with the count of numbers
* `Report`, `process` — what a round that hands its units over reports
-/

namespace MessageBundle

/-- The unit for a bundle, if no earlier bundle of the round has its name; the
numbers of its messages are registered on the way. -/
def renderBundle (config : Config) (taken : List String) (b : Bundle) (registry : Registry) :
    Pass Source :=
  let target := b.outputName config
  if taken.contains target then
    ⟨.error (.duplicateOutput target), registry, [.bundleStarted b.qualifiedName]⟩
  else
    let admitted := admitAll config.strictAnnotations b.methods registry
    match admitted.result with
    | .error cause =>
      ⟨.error cause, admitted.registry, .bundleStarted b.qualifiedName :: admitted.events⟩
    | .ok methods =>
      let source := b.render config methods
      ⟨.ok source, admitted.registry,
        .bundleStarted b.qualifiedName :: admitted.events ++
          [.classRendered source.qualifiedName source.methodCount]⟩

/-- The units for bundles one after another, up to the first that fails. -/
def renderBundles (config : Config) : List String → List Bundle → Registry → Pass (List Source)
  | _, [], registry => ⟨.ok [], registry, []⟩
  | taken, b :: rest, registry =>
    (renderBundle config taken b registry).andThen
      (renderBundles config (b.outputName config :: taken) rest) fun source sources =>
        source :: sources

/-- The units of a round and how many numbers they use. -/
structure Rendering where
  sources : List Source
  messageIds : Nat
  deriving DecidableEq, Repr

/-- All bundles of a list of interfaces rendered, with what was recorded. -/
def renderRound (config : Config) (interfaces : List Interface) :
    Except GenerationError Rendering × List Event :=
  let pass := renderBundles config [] (collect interfaces) .empty
  (pass.result.map fun sources => ⟨sources, pass.registry.size⟩,
    collectionEvents interfaces ++ pass.events)

/-- The units of a round, or its failure. -/
def render (config : Config) (interfaces : List Interface) : Except GenerationError (List Source) :=
  (renderRound config interfaces).1.map Rendering.sources

/-- Counts added up. -/
def total (counts : List Nat) : Nat := counts.foldr (fun count sum => count + sum) 0

/-- A unit that was handed over. -/
structure ReportedUnit where
  qualifiedName : String
  methodCount : Nat
  deriving DecidableEq, Repr

/-- What a successful round reports. -/
structure Report where
  units : List ReportedUnit
  messageIds : Nat
  deriving DecidableEq, Repr

namespace Report

/-- The methods of all units together. -/
def totalMethods (r : Report) : Nat := total (r.units.map ReportedUnit.methodCount)

end Report

/-- Where units are handed over: a name and a text are taken, or refused with a
cause; what was recorded comes with the answer. -/
abbrev Filer (m : Type → Type) := String → String → m (Except GenerationError Unit × List Event)

/-- Units handed over one after another, up to the first that is refused. -/
def handOver {m : Type → Type} [Monad m] (file : Filer m) :
    List Source → m (Except GenerationError (List ReportedUnit) × List Event)
  | [] => pure (.ok [], [])
  | source :: rest => do
    let (answer, events) ← file source.qualifiedName source.contents
    match answer with
    | .error cause => pure (.error cause, events)
    | .ok () =>
      let (others, later) ← handOver file rest
      pure (others.map (⟨source.qualifiedName, source.methodCount⟩ :: ·), events ++ later)

/-- The event that closes a round. -/
def closingEvent : Except GenerationError Report → Event
  | .ok report => .roundCompleted report.units.length report.totalMethods
  | .error cause => .roundFailed cause

/-- A whole round: all bundles rendered, then all units handed over. -/
def process {m : Type → Type} [Monad m] (config : Config) (file : Filer m)
    (interfaces : List Interface) : m (Except GenerationError Report × List Event) := do
  let (rendered, events) := renderRound config interfaces
  match rendered with
  | .error cause => pure (.error cause, events ++ [closingEvent (.error cause)])
  | .ok rendering =>
    let (units, later) ← handOver file rendering.sources
    let result := units.map fun units => (⟨units, rendering.messageIds⟩ : Report)
    pure (result, events ++ later ++ [closingEvent result])

end MessageBundle

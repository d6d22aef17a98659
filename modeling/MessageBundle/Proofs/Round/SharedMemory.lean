import MessageBundle.Proofs.Filer.Memory
import MessageBundle.Proofs.Text.KeyOrder

/-!
# Rounds that share one memory

Rounds can be run one after another into one memory, each with a configuration and with
interfaces of its own, and a round that fails does not keep later ones from being run. What
a round does is told by what it renders and by which names are taken when it begins. A name
that is taken stays so, with its text, and memory always lists its names once each, in the
order of their bytes. Both are kept by a single unit that is taken, hence by a round, and
hence by all rounds together.

## Main definitions

* `RoundInput` — what a round is run over
* `MemoryFiler.afterRound`, `MemoryFiler.afterRounds` — the answer of a round and memory
  behind it, and memory behind rounds one after another
* `MemoryFiler.Settles` — what a round answers and what it does to memory

## Main results

* `MemoryFiler.settles_afterRound` — every round into memory settles its input
* `MemoryFiler.get?_afterRounds`, `MemoryFiler.ascending_afterRounds` — what all rounds keep
* `MemoryFiler.rounds_share_memory` — every round of a sequence that begins with no unit
-/

namespace MessageBundle

/-- What a round is run over. -/
structure RoundInput where
  config : Config
  interfaces : List Interface

namespace MemoryFiler

/-- The answer of a round into memory, and memory behind it. -/
def afterRound (input : RoundInput) (kept : MemoryFiler) :
    Except GenerationError Report × MemoryFiler :=
  let outcome := process input.config filer input.interfaces kept
  (outcome.1.1, outcome.2)

/-- Memory behind rounds one after another, each of which is run whatever became of the
ones before it. -/
def afterRounds (inputs : List RoundInput) (kept : MemoryFiler) : MemoryFiler :=
  inputs.foldl (fun kept input => (afterRound input kept).2) kept

/-- The name of the unit is not taken. -/
def IsFree (kept : MemoryFiler) (source : Source) : Prop := kept.get? source.qualifiedName = none

/-- What a round answers and what it does to memory, by what it renders and by the names
that are taken when it begins. -/
structure Settles (input : RoundInput) (kept : MemoryFiler)
    (answer : Except GenerationError Report) (kept' : MemoryFiler) : Prop where
  /-- The round succeeds when it is rendered and no name of a unit is taken. -/
  ok_iff : (∃ report, answer = .ok report) ↔
    ∃ sources, render input.config input.interfaces = .ok sources ∧
      ∀ source ∈ sources, kept.IsFree source
  /-- Then memory gains all units, and they are reported. -/
  accepted : ∀ sources, render input.config input.interfaces = .ok sources →
    (∀ source ∈ sources, kept.IsFree source) →
      Gains sources kept kept' ∧
        ∃ messageIds, answer = .ok ⟨sources.map Source.reported, messageIds⟩
  /-- A round that is not rendered fails with that cause and changes nothing. -/
  unrendered : ∀ cause, render input.config input.interfaces = .error cause →
    answer = .error cause ∧ kept' = kept
  /-- Where a name is taken, the first unit with such a name is refused, and memory gains
  the units before it. -/
  refused : ∀ sources, render input.config input.interfaces = .ok sources →
    (∃ source ∈ sources, ¬ kept.IsFree source) →
      ∃ before first rest, sources = before ++ first :: rest ∧
        (∀ source ∈ before, kept.IsFree source) ∧ ¬ kept.IsFree first ∧
          answer = .error (.duplicateOutput first.qualifiedName) ∧ Gains before kept kept'

variable {kept kept' : MemoryFiler} {units : List Source} {name contents : String}

/-! ### A single round -/

/-- Every round into memory settles its input. -/
theorem settles_afterRound (input : RoundInput) (kept : MemoryFiler) :
    Settles input kept (afterRound input kept).1 (afterRound input kept).2 := by
  rw [afterRound]
  rcases round_cases input.config input.interfaces kept with
    ⟨cause, events, hrender, hround⟩ | ⟨sources, kept', ids, events, hrender, hgains, hround⟩ |
    ⟨before, first, rest, kept', events, hrender, hgains, htaken, hround⟩
  · rw [hround]
    refine { ok_iff := ?_, accepted := ?_, unrendered := ?_, refused := ?_ }
    · simp [hrender]
    · intro sources hsources
      rw [hrender] at hsources
      cases hsources
    · intro other hcause
      rw [hrender] at hcause
      cases hcause
      exact ⟨rfl, rfl⟩
    · intro sources hsources
      rw [hrender] at hsources
      cases hsources
  · rw [hround]
    refine { ok_iff := ?_, accepted := ?_, unrendered := ?_, refused := ?_ }
    · exact ⟨fun _ => ⟨sources, hrender, hgains.fresh⟩, fun _ => ⟨_, rfl⟩⟩
    · intro other hother _
      rw [hrender] at hother
      cases hother
      exact ⟨hgains, ids, rfl⟩
    · intro cause hcause
      rw [hrender] at hcause
      cases hcause
    · rintro other hother ⟨source, hsource, htaken⟩
      rw [hrender] at hother
      cases hother
      exact absurd (hgains.fresh source hsource) htaken
  · rw [hround]
    have hmem : first ∈ before ++ first :: rest := List.mem_append_right before List.mem_cons_self
    refine { ok_iff := ?_, accepted := ?_, unrendered := ?_, refused := ?_ }
    · constructor
      · rintro ⟨report, hreport⟩
        cases hreport
      · rintro ⟨sources, hsources, hfree⟩
        rw [hrender] at hsources
        cases hsources
        exact absurd (hfree first hmem) htaken
    · intro sources hsources hfree
      rw [hrender] at hsources
      cases hsources
      exact absurd (hfree first hmem) htaken
    · intro cause hcause
      rw [hrender] at hcause
      cases hcause
    · rintro sources hsources -
      rw [hrender] at hsources
      cases hsources
      exact ⟨before, first, rest, rfl, hgains.fresh, htaken, rfl, hgains⟩

/-- What is kept under a name before a round is kept under it behind the round. -/
theorem get?_afterRound (input : RoundInput) (h : kept.get? name = some contents) :
    (afterRound input kept).2.get? name = some contents := by
  rw [afterRound]
  rcases round_cases input.config input.interfaces kept with ⟨_, _, -, hround⟩ |
    ⟨_, _, _, _, -, hgains, hround⟩ | ⟨_, _, _, _, _, -, hgains, -, hround⟩
  · rw [hround]
    exact h
  · rw [hround]
    exact hgains.get?_eq h
  · rw [hround]
    exact hgains.get?_eq h

theorem ascending_of_add (h : kept.add name contents = .ok kept')
    (hkept : Text.Ascending kept.entries) : Text.Ascending kept'.entries := by
  obtain ⟨hfree, rfl⟩ := add_eq_ok_iff.mp h
  exact hkept.insertByKey hfree contents

/-- Units that go out to memory leave its names ascending. -/
theorem ascending_of_filed (h : Filed filer kept units kept')
    (hkept : Text.Ascending kept.entries) : Text.Ascending kept'.entries := by
  induction h with
  | nil => exact hkept
  | concat _ accepted ih => exact ascending_of_add (add_of_accepted accepted) ih

/-- A round leaves the names ascending: a unit that is refused changes nothing. -/
theorem ascending_afterRound (input : RoundInput) (hkept : Text.Ascending kept.entries) :
    Text.Ascending (afterRound input kept).2.entries := by
  rw [afterRound]
  rcases MessageBundle.process_cases input.config filer input.interfaces kept with
    ⟨_, _, -, hround⟩ | ⟨_, _, _, _, -, hfiled, hround⟩ |
    ⟨_, refused, _, place, _, _, -, hfiled, hrefused, hround⟩
  · rw [hround]
    exact hkept
  · rw [hround]
    exact ascending_of_filed hfiled hkept
  · rw [hround]
    rcases filer_cases refused.qualifiedName refused.contents place with
      ⟨_, -, hfile⟩ | ⟨-, hfile⟩
    · rw [hfile] at hrefused
      cases hrefused
    · rw [hfile]
      exact ascending_of_filed hfiled hkept

/-! ### Rounds one after another -/

/-- What is kept under a name is kept under it behind all later rounds. -/
theorem get?_afterRounds (inputs : List RoundInput) (h : kept.get? name = some contents) :
    (afterRounds inputs kept).get? name = some contents := by
  induction inputs generalizing kept with
  | nil => exact h
  | cons input rest ih => exact ih (get?_afterRound input h)

/-- Rounds one after another leave the names ascending. -/
theorem ascending_afterRounds (inputs : List RoundInput) (hkept : Text.Ascending kept.entries) :
    Text.Ascending (afterRounds inputs kept).entries := by
  induction inputs generalizing kept with
  | nil => exact hkept
  | cons input rest ih => exact ih (ascending_afterRound input hkept)

theorem afterRounds_append_cons (earlier : List RoundInput) (input : RoundInput)
    (later : List RoundInput) (kept : MemoryFiler) :
    afterRounds (earlier ++ input :: later) kept =
      afterRounds later (afterRound input (afterRounds earlier kept)).2 := by
  rw [afterRounds, List.foldl_append, List.foldl_cons]
  rfl

/-- Each round of a sequence that begins with no unit in memory answers, and changes memory,
as its units and the names taken by then tell. What memory holds behind it is kept under its
name by all later rounds, and is listed once under each name, the names in the strictly
ascending order of their bytes. -/
theorem rounds_share_memory (earlier : List RoundInput) (input : RoundInput)
    (later : List RoundInput) :
    let kept := afterRounds earlier .empty
    let outcome := afterRound input kept
    Settles input kept outcome.1 outcome.2 ∧
      (∀ name contents, outcome.2.get? name = some contents →
        (afterRounds (earlier ++ input :: later) .empty).get? name = some contents) ∧
      (outcome.2.entries.Pairwise fun a b => Text.bytes a.1 < Text.bytes b.1) ∧
      ∀ name contents,
        (name, contents) ∈ outcome.2.entries ↔ outcome.2.get? name = some contents := by
  intro kept outcome
  have hkept : Text.Ascending outcome.2.entries :=
    ascending_afterRound input (ascending_afterRounds earlier List.Pairwise.nil)
  refine ⟨settles_afterRound input kept, fun name contents hname => ?_, ?_, fun name contents => ?_⟩
  · rw [afterRounds_append_cons]
    exact get?_afterRounds later hname
  · exact hkept.imp Text.bytes_lt_of_lt
  · exact hkept.mem_iff

/-- A round over the second of the two bundles takes a name, so that a round over both is
refused it and gains the first unit alone, which a third round leaves as it is. -/
theorem rounds_share_memory_three_rounds :
    ∃ first second, render {} twoBundles = .ok [first, second] ∧
      (afterRound ⟨{}, twoBundles⟩ (afterRounds [⟨{}, twoBundles.drop 1⟩] .empty)).1 =
        .error (.duplicateOutput second.qualifiedName) ∧
      (afterRounds [⟨{}, twoBundles.drop 1⟩, ⟨{}, twoBundles⟩, ⟨{}, twoBundles⟩] .empty).get?
        first.qualifiedName = some first.contents := by
  obtain ⟨hsettles, hlater, -⟩ :=
    rounds_share_memory [⟨{}, twoBundles.drop 1⟩] ⟨{}, twoBundles⟩ [⟨{}, twoBundles⟩]
  have hrender : ∃ first second, render {} twoBundles = .ok [first, second] ∧
      (afterRounds [⟨{}, twoBundles.drop 1⟩] .empty).IsFree first ∧
      ¬ (afterRounds [⟨{}, twoBundles.drop 1⟩] .empty).IsFree second :=
    ⟨_, _, rfl, by unfold IsFree; decide +kernel, by unfold IsFree; decide +kernel⟩
  obtain ⟨first, second, hrender, hfree, htaken⟩ := hrender
  obtain ⟨before, refused, rest, hsplit, hbefore, hrefused, hanswer, hgains⟩ :=
    hsettles.refused _ hrender ⟨second, by simp, htaken⟩
  -- the first unit is free, so it is the second one that is refused
  match before with
  | [] =>
    cases hsplit
    exact absurd hfree hrefused
  | [_] =>
    cases hsplit
    exact ⟨first, second, hrender, hanswer, hlater _ _ (hgains.filed first List.mem_cons_self)⟩
  | _ :: _ :: _ => simp at hsplit

end MemoryFiler

end MessageBundle

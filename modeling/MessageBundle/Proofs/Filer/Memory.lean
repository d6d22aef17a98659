import MessageBundle.Filer.Memory
import MessageBundle.Proofs.Round.Acceptance
import MessageBundle.Proofs.Round.Process

/-!
# Units that memory gains

Each unit that goes out to memory is put under its name, which has to be free. Over a
run of units that are all taken, exactly these are gained, and everything that was kept
before is kept on.

## Main definitions

* `MemoryFiler.Gains` — units are gained and nothing else is changed

## Main results

* `MemoryFiler.filer_cases` — a unit is taken, or refused because its name is taken
* `MemoryFiler.gains_of_filed` — units that all went out are gained
* `MemoryFiler.round_cases`, `MemoryFiler.round_into_empty` — the ways in which a round into
  memory ends, and the one way when nothing is kept before
-/

namespace MessageBundle

namespace MemoryFiler

/-- The units are kept beside what was kept before, and nothing else is changed. -/
structure Gains (units : List Source) (kept kept' : MemoryFiler) : Prop where
  /-- The names of the units were free. -/
  fresh : ∀ source ∈ units, kept.get? source.qualifiedName = none
  /-- Each unit is kept under its name. -/
  filed : ∀ source ∈ units, kept'.get? source.qualifiedName = some source.contents
  /-- Under other names everything is as it was. -/
  others : ∀ name, (∀ source ∈ units, source.qualifiedName ≠ name) →
    kept'.get? name = kept.get? name
  /-- The entries are the ones before and one for each unit. -/
  entries : kept'.entries.Perm
    (kept.entries ++ units.map fun source => (source.qualifiedName, source.contents))

variable {kept kept' : MemoryFiler} {units : List Source} {source : Source}

/-- A unit is taken without a word, or refused because its name is taken. -/
theorem filer_cases (name contents : String) (kept : MemoryFiler) :
    (∃ kept', kept.add name contents = .ok kept' ∧
        filer name contents kept = ((.ok (), []), kept')) ∨
      kept.get? name ≠ none ∧
        filer name contents kept = ((.error (.duplicateOutput name), []), kept) := by
  rw [filer]
  cases hadd : kept.add name contents with
  | error cause =>
    obtain ⟨htaken, rfl⟩ := add_eq_error_iff.mp hadd
    exact .inr ⟨htaken, rfl⟩
  | ok kept' => exact .inl ⟨kept', rfl, rfl⟩

/-- A unit that went out was added, since a refusal is an error. -/
theorem add_of_accepted {name contents : String} {events : List Event}
    (h : filer name contents kept = ((.ok (), events), kept')) :
    kept.add name contents = .ok kept' := by
  rcases filer_cases name contents kept with ⟨taken, hadd, hfile⟩ | ⟨-, hfile⟩
  · rw [hfile] at h
    cases h
    exact hadd
  · rw [hfile] at h
    cases h

theorem Gains.nil (kept : MemoryFiler) : Gains [] kept kept where
  fresh := nofun
  filed := nofun
  others _ _ := rfl
  entries := by simp

/-- One unit more is gained when its name is free. -/
theorem Gains.concat {after : MemoryFiler} (h : Gains units kept kept')
    (hadd : kept'.add source.qualifiedName source.contents = .ok after) :
    Gains (units ++ [source]) kept after := by
  have hfree := (add_eq_ok_iff.mp hadd).1
  -- none of the units before has the name, since it would not be free then
  have hname : ∀ other ∈ units, other.qualifiedName ≠ source.qualifiedName := by
    intro other hother hsame
    rw [← hsame, h.filed other hother] at hfree
    cases hfree
  refine { fresh := ?_, filed := ?_, others := ?_, entries := ?_ }
  · rw [List.forall_mem_append, List.forall_mem_singleton]
    exact ⟨h.fresh, (h.others _ hname).symm.trans hfree⟩
  · rw [List.forall_mem_append, List.forall_mem_singleton]
    refine ⟨fun other hother => ?_, get?_of_add hadd⟩
    rw [get?_of_add_ne hadd (hname other hother)]
    exact h.filed other hother
  · intro name hothers
    rw [List.forall_mem_append, List.forall_mem_singleton] at hothers
    rw [get?_of_add_ne hadd hothers.2.symm]
    exact h.others name hothers.1
  · obtain ⟨-, rfl⟩ := add_eq_ok_iff.mp hadd
    rw [List.map_append, List.map_singleton, ← List.append_assoc]
    have hinsert := Text.insertByKey_perm (source.qualifiedName, source.contents) kept'.entries
    exact (hinsert.trans (h.entries.cons _)).trans (List.perm_append_singleton _ _).symm

/-- What was kept before units were gained is kept on. -/
theorem Gains.get?_eq {name contents : String} (h : Gains units kept kept')
    (hname : kept.get? name = some contents) : kept'.get? name = some contents := by
  rw [h.others name, hname]
  -- the names of the units were free, and this one was not
  rintro source hsource rfl
  rw [h.fresh source hsource] at hname
  cases hname

/-- Units that all went out to memory are gained. -/
theorem gains_of_filed (h : Filed filer kept units kept') : Gains units kept kept' := by
  induction h with
  | nil => exact .nil kept
  | concat _ accepted ih => exact ih.concat (add_of_accepted accepted)

/-- A round into memory is not rendered and changes nothing, or it gains all of its units,
or those before one whose name was taken before the round. -/
theorem round_cases (config : Config) (interfaces : List Interface) (kept : MemoryFiler) :
    (∃ cause events, render config interfaces = .error cause ∧
        process config filer interfaces kept = ((.error cause, events), kept)) ∨
      (∃ sources kept' ids events, render config interfaces = .ok sources ∧
        Gains sources kept kept' ∧
        process config filer interfaces kept =
          ((.ok ⟨sources.map Source.reported, ids⟩, events), kept')) ∨
      ∃ before refused rest kept' events,
        render config interfaces = .ok (before ++ refused :: rest) ∧
        Gains before kept kept' ∧ kept.get? refused.qualifiedName ≠ none ∧
        process config filer interfaces kept =
          ((.error (.duplicateOutput refused.qualifiedName), events), kept') := by
  rcases MessageBundle.process_cases config filer interfaces kept with hfault |
    ⟨sources, kept', ids, events, hrender, hfiled, hround⟩ |
    ⟨before, refused, rest, kept', cause, events, hrender, hfiled, hrefused, hround⟩
  · exact .inl hfault
  · exact .inr (.inl ⟨sources, kept', ids, events, hrender, gains_of_filed hfiled, hround⟩)
  · refine .inr (.inr ⟨before, refused, rest, kept', events, hrender, gains_of_filed hfiled, ?_⟩)
    rcases filer_cases refused.qualifiedName refused.contents kept' with
      ⟨taken, -, hfile⟩ | ⟨htaken, hfile⟩
    · rw [hfile] at hrefused
      cases hrefused
    · rw [hfile] at hrefused hround
      obtain rfl := Except.error.inj hrefused
      refine ⟨?_, hround⟩
      -- no unit of the round before it has the name, so that it was taken by another round
      have hnames := nodup_qualifiedNames_of_render hrender
      rw [List.map_append, List.map_cons] at hnames
      have hother : ∀ source ∈ before, source.qualifiedName ≠ refused.qualifiedName := by
        intro source hsource hsame
        exact (List.nodup_append'.mp hnames).2.2 (List.mem_map_of_mem hsource)
          (hsame ▸ List.mem_cons_self)
      rw [(gains_of_filed hfiled).others _ hother] at htaken
      exact htaken

/-- A round that is rendered ends well in a memory that keeps nothing yet. -/
theorem round_into_empty {config : Config} {interfaces : List Interface}
    (h : render config interfaces = .ok units) :
    ∃ report events kept, Gains units .empty kept ∧
      process config filer interfaces .empty = ((.ok report, events), kept) := by
  rcases round_cases config interfaces .empty with ⟨cause, events, hrender, -⟩ |
    ⟨sources, kept, ids, events, hrender, hgains, hround⟩ |
    ⟨before, refused, rest, kept, events, -, -, htaken, -⟩
  · rw [h] at hrender
    cases hrender
  · rw [h] at hrender
    obtain rfl := Except.ok.inj hrender
    exact ⟨_, events, kept, hgains, hround⟩
  · exact absurd rfl htaken

end MemoryFiler

end MessageBundle

import MessageBundle.Proofs.Filer.Directory
import MessageBundle.Proofs.Filer.Memory

/-!
# What a failed round leaves behind

A round that is not rendered leaves the place where units go as it was. A round that is
rendered can still fail, since one of its units can be refused, and nothing is taken back
then: the units before the refused one stay, and no other unit was put there. Memory
refuses a unit for one reason, a name that was taken before the round. A directory
refuses one when the file system does, and keeps the directories that were made on the
way to it.

## Main results

* `failed_round_leaves` — what a failed round leaves in memory and in a directory
* `failed_round_keeps_first_unit` — a unit that went out before the failure is not taken
  back
-/

namespace MessageBundle

variable {config : Config} {interfaces : List Interface} {cause : GenerationError}
  {events : List Event}

/-- A failed round leaves memory as it was, or with the units before one whose name was
taken before the round. -/
theorem MemoryFiler.left_by_failure {kept kept' : MemoryFiler}
    (h : process config filer interfaces kept = ((.error cause, events), kept')) :
    render config interfaces = .error cause ∧ kept' = kept ∨
      ∃ before refused rest, render config interfaces = .ok (before ++ refused :: rest) ∧
        cause = .duplicateOutput refused.qualifiedName ∧
        kept.get? refused.qualifiedName ≠ none ∧ Gains before kept kept' := by
  rcases round_cases config interfaces kept with ⟨fault, failing, hrender, hround⟩ |
    ⟨sources, after, ids, filing, -, -, hround⟩ |
    ⟨before, refused, rest, after, filing, hrender, hgains, htaken, hround⟩
  · rw [h] at hround
    cases hround
    exact .inl ⟨hrender, rfl⟩
  · rw [h] at hround
    cases hround
  · rw [h] at hround
    cases hround
    exact .inr ⟨before, refused, rest, hrender, rfl, htaken, hgains⟩

/-- A failed round leaves a tree as it was, or with the units before one that the file
system refused, and with directories on the way to these and to that one. -/
theorem DirectoryFiler.left_by_failure {root : String} {t t' : FileTree}
    (h : process config (filer FileTree.access root) interfaces t =
      ((.error cause, events), t')) :
    render config interfaces = .error cause ∧ t' = t ∨
      ∃ before refused rest fault, render config interfaces = .ok (before ++ refused :: rest) ∧
        cause = .outputWrite (pathFor root refused.qualifiedName) fault ∧
        Written root before (before ++ [refused]) t t' := by
  rcases round_cases config root interfaces t with ⟨failed, failing, hrender, hround⟩ |
    ⟨sources, after, ids, writing, -, -, hround⟩ |
    ⟨before, refused, rest, fault, after, writing, hrender, hwritten, hround⟩
  · rw [h] at hround
    cases hround
    exact .inl ⟨hrender, rfl⟩
  · rw [h] at hround
    cases hround
  · rw [h] at hround
    cases hround
    exact .inr ⟨before, refused, rest, fault, hrender, rfl, hwritten⟩

/-- A round that fails has changed nothing unless it was rendered. If it was, its cause
names the first unit that was refused, and exactly the units before it have been put to
memory or written; memory refuses a unit because its name was taken before the round. -/
theorem failed_round_leaves (config : Config) (interfaces : List Interface) :
    (∀ kept cause events kept',
        process config MemoryFiler.filer interfaces kept = ((.error cause, events), kept') →
        render config interfaces = .error cause ∧ kept' = kept ∨
          ∃ before refused rest, render config interfaces = .ok (before ++ refused :: rest) ∧
            cause = .duplicateOutput refused.qualifiedName ∧
            kept.get? refused.qualifiedName ≠ none ∧
            MemoryFiler.Gains before kept kept') ∧
      ∀ root t cause events t',
        process config (DirectoryFiler.filer FileTree.access root) interfaces t =
          ((.error cause, events), t') →
        render config interfaces = .error cause ∧ t' = t ∨
          ∃ before refused rest fault, render config interfaces = .ok (before ++ refused :: rest) ∧
            cause = .outputWrite (DirectoryFiler.pathFor root refused.qualifiedName) fault ∧
            DirectoryFiler.Written root before (before ++ [refused]) t t' := by
  constructor
  · intro kept cause events kept' hround
    exact MemoryFiler.left_by_failure hround
  · intro root t cause events t' hround
    exact DirectoryFiler.left_by_failure hround

/-- Memory behind a round over the second one of the two bundles. -/
def secondKept : MemoryFiler := (process {} MemoryFiler.filer (twoBundles.drop 1) .empty).2

/-- A tree with a directory where the class of the second bundle belongs. -/
def blockedTree : FileTree where
  entries := [(["out"], .directory), (["out", "a"], .directory),
    (["out", "a", "B_impl.java"], .directory)]
  home := []

/-- With the second of the two bundles refused, the unit of the first one is what memory
gains and what is written to the tree. -/
theorem failed_round_leaves_first_of_two :
    (∃ first, first.qualifiedName = "a.A_impl" ∧ MemoryFiler.Gains [first] secondKept
      (process {} MemoryFiler.filer twoBundles secondKept).2) ∧
    ∃ first second, first.qualifiedName = "a.A_impl" ∧
      DirectoryFiler.Written "out" [first] [first, second] blockedTree
        (process {} (DirectoryFiler.filer FileTree.access "out") twoBundles blockedTree).2 := by
  have hrender : ∃ first second, render {} twoBundles = .ok [first, second] ∧
      first.qualifiedName = "a.A_impl" := ⟨_, _, rfl, rfl⟩
  obtain ⟨first, second, hrender, hfirst⟩ := hrender
  -- where the refused unit has another name than the first one, it is the second one
  have hsplit : ∀ {before refused rest},
      render {} twoBundles = .ok (before ++ refused :: rest) →
      refused.qualifiedName ≠ "a.A_impl" → before = [first] ∧ refused = second := by
    intro before refused rest hsources hname
    rw [hrender] at hsources
    match before with
    | [] =>
      cases hsources
      exact absurd hfirst hname
    | [_] =>
      cases hsources
      exact ⟨rfl, rfl⟩
    | _ :: _ :: _ => simp at hsources
  obtain ⟨hmemory, hdirectory⟩ := failed_round_leaves {} twoBundles
  constructor
  · have hcause : (process {} MemoryFiler.filer twoBundles secondKept).1.1 =
        .error (.duplicateOutput "a.B_impl") := by decide +kernel
    rcases hround : process {} MemoryFiler.filer twoBundles secondKept with
      ⟨⟨answer, events⟩, kept'⟩
    rw [hround] at hcause
    obtain rfl : answer = .error (.duplicateOutput "a.B_impl") := hcause
    rcases hmemory _ _ _ _ hround with
      ⟨hfault, -⟩ | ⟨before, refused, rest, hsources, hname, -, hgains⟩
    · rw [hrender] at hfault
      cases hfault
    · have hother : refused.qualifiedName ≠ "a.A_impl" := by
        rw [← GenerationError.duplicateOutput.inj hname]
        decide
      obtain ⟨rfl, -⟩ := hsplit hsources hother
      exact ⟨first, hfirst, hgains⟩
  · have hcause : (process {} (DirectoryFiler.filer FileTree.access "out") twoBundles
        blockedTree).1.1 = .error (.outputWrite "out/a/B_impl.java" .isDirectory) := by
      decide +kernel
    rcases hround : process {} (DirectoryFiler.filer FileTree.access "out") twoBundles
      blockedTree with ⟨⟨answer, events⟩, t'⟩
    rw [hround] at hcause
    obtain rfl : answer = .error (.outputWrite "out/a/B_impl.java" .isDirectory) := hcause
    rcases hdirectory _ _ _ _ _ hround with
      ⟨hfault, -⟩ | ⟨before, refused, rest, fault, hsources, hname, hwritten⟩
    · rw [hrender] at hfault
      cases hfault
    · have hother : refused.qualifiedName ≠ "a.A_impl" := by
        intro hsame
        rw [hsame] at hname
        exact absurd (GenerationError.outputWrite.inj hname).1 (by decide)
      obtain ⟨rfl, rfl⟩ := hsplit hsources hother
      exact ⟨first, refused, hfirst, hwritten⟩

/-- A round can fail in memory and in a directory after the unit of its first bundle went
out, and the unit is not taken back. -/
theorem failed_round_keeps_first_unit :
    Config.fault? {} = none ∧
      ((process {} MemoryFiler.filer twoBundles secondKept).1.1 =
          .error (.duplicateOutput "a.B_impl") ∧
        secondKept.get? "a.A_impl" = none ∧
        ((process {} MemoryFiler.filer twoBundles secondKept).2.get? "a.A_impl").isSome = true) ∧
      ((process {} (DirectoryFiler.filer FileTree.access "out") twoBundles blockedTree).1.1 =
          .error (.outputWrite "out/a/B_impl.java" .isDirectory) ∧
        blockedTree.get? ["out", "a", "A_impl.java"] = none ∧
        ((process {} (DirectoryFiler.filer FileTree.access "out") twoBundles blockedTree).2.get?
          ["out", "a", "A_impl.java"]).isSome = true) := by
  refine ⟨by decide, ⟨?_, ?_, ?_⟩, ?_, ?_, ?_⟩
  all_goals decide +kernel

end MessageBundle

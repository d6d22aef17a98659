import MessageBundle.Proofs.Round.Acceptance

/-!
# Declarations that take no part

An interface without a project code is no bundle, and a method without annotations is left
out of its bundle. A round looks at neither again once the bundles are collected, so that
their names, numbers and templates clash with nothing: pruning both from the declarations
changes nothing but what is recorded of passing them over.

## Main definitions

* `Interface.pruned`, `pruned` — declarations without those that take no part
* `Event.isSkipping` — a declaration was passed over

## Main results

* `collect_pruned` — the bundles are the same
* `collectionEvents_pruned` — the events of passing declarations over are gone, and no others
* `process_pruned` — a round goes the same way, wherever its units go
* `render_pruned` — a round is rendered the same, or fails with the same cause
-/

namespace MessageBundle

/-- The interface with its annotated methods only. -/
def Interface.pruned (i : Interface) : Interface :=
  { i with methods := i.methods.filter Method.isAnnotated }

/-- The interfaces with a project code, each with its annotated methods only. -/
def pruned (interfaces : List Interface) : List Interface :=
  (bundled interfaces).map Interface.pruned

/-- The event tells that a declaration was passed over. -/
def Event.isSkipping : Event → Bool
  | interfaceSkipped .. | methodSkipped .. => true
  | _ => false

/-! ### Interfaces one by one -/

namespace Interface

/-- The bundle of an interface has no other methods anyway. -/
theorem toBundle?_pruned (i : Interface) : i.pruned.toBundle? = i.toBundle? := by
  simp only [toBundle?, pruned, effectiveNamespace, List.filter_filter, Bool.and_self]

/-- An interface without a project code is passed over. -/
theorem collectionEvents_of_unmarked {i : Interface} (h : i.projectCode = none) :
    i.collectionEvents.filter (fun e => !e.isSkipping) = [] := by
  rw [collectionEvents, toBundle?, h]
  rfl

/-- Of an interface with a project code, it is recorded that it was collected, behind its
methods that were passed over. -/
theorem collectionEvents_of_marked {i : Interface} (h : i.projectCode ≠ none) :
    i.collectionEvents.filter (fun e => !e.isSkipping) = i.pruned.collectionEvents := by
  obtain ⟨code, hcode⟩ := Option.ne_none_iff_exists'.mp h
  have hskipped : ((i.methods.filter fun m => !m.isAnnotated).map fun m =>
      Event.methodSkipped i.name m.name).filter (fun e => !e.isSkipping) = [] := by
    rw [List.filter_eq_nil_iff, List.forall_mem_map]
    exact fun m _ => Bool.false_ne_true
  have hplain : (i.methods.filter Method.isAnnotated).filter (fun m => !m.isAnnotated) = [] := by
    rw [List.filter_filter, List.filter_eq_nil_iff]
    intro m _
    simp
  rw [collectionEvents, collectionEvents, toBundle?_pruned, toBundle?, hcode, Option.map_some]
  simp only [List.filter_append, hskipped, pruned, hplain]
  rfl

end Interface

/-! ### Rounds -/

variable {config : Config} {interfaces : List Interface}

theorem pruned_cons_of_unmarked {i : Interface} (h : i.projectCode = none)
    (rest : List Interface) : pruned (i :: rest) = pruned rest := by
  rw [pruned, bundled, List.filter_cons_of_neg (by simp [h]), ← bundled, ← pruned]

theorem pruned_cons_of_marked {i : Interface} (h : i.projectCode ≠ none)
    (rest : List Interface) : pruned (i :: rest) = i.pruned :: pruned rest := by
  have hmarked : i.projectCode.isSome = true := Option.isSome_iff_ne_none.mpr h
  rw [pruned, bundled, List.filter_cons_of_pos (by exact hmarked), ← bundled, List.map_cons,
    ← pruned]

theorem collectionEvents_cons (i : Interface) (rest : List Interface) :
    collectionEvents (i :: rest) = i.collectionEvents ++ collectionEvents rest := List.flatMap_cons

/-- What takes no part is in no bundle. -/
theorem collect_pruned (interfaces : List Interface) :
    collect (pruned interfaces) = collect interfaces := by
  rw [collect, collect, pruned, List.filterMap_map, bundled, List.filterMap_filter]
  refine List.filterMap_congr fun i _ => ?_
  rw [Function.comp_apply, i.toBundle?_pruned, Interface.toBundle?]
  cases i.projectCode <;> rfl

/-- Pruning takes away what is recorded of passing declarations over. -/
theorem collectionEvents_pruned (interfaces : List Interface) :
    collectionEvents (pruned interfaces) =
      (collectionEvents interfaces).filter fun e => !e.isSkipping := by
  induction interfaces with
  | nil => rfl
  | cons i rest ih =>
    rw [collectionEvents_cons, List.filter_append, ← ih]
    by_cases hcode : i.projectCode = none
    · rw [Interface.collectionEvents_of_unmarked hcode, pruned_cons_of_unmarked hcode,
        List.nil_append]
    · rw [Interface.collectionEvents_of_marked hcode, pruned_cons_of_marked hcode,
        collectionEvents_cons]

/-- A round is rendered the same without the declarations that take no part, and behind their
collection it records the same. -/
theorem renderRound_pruned (config : Config) (interfaces : List Interface) :
    ∃ rendered later,
      renderRound config interfaces = (rendered, collectionEvents interfaces ++ later) ∧
      renderRound config (pruned interfaces) =
        (rendered, collectionEvents (pruned interfaces) ++ later) := by
  refine ⟨_, _, rfl, ?_⟩
  rw [renderRound, collect_pruned]

/-- A round goes the same way without the declarations that take no part, wherever its units
go. -/
theorem process_pruned {σ : Type} (config : Config) (file : Filer (StateM σ))
    (interfaces : List Interface) (state : σ) :
    ∃ answer later after,
      process config file interfaces state =
        ((answer, collectionEvents interfaces ++ later), after) ∧
      process config file (pruned interfaces) state =
        ((answer, collectionEvents (pruned interfaces) ++ later), after) := by
  obtain ⟨rendered, later, hround, hpruned⟩ := renderRound_pruned config interfaces
  rw [process, process, hround, hpruned]
  cases rendered with
  | error cause =>
    simp only [List.append_assoc]
    exact ⟨_, _, _, rfl, rfl⟩
  | ok rendering =>
    simp only [bind, StateT.bind, List.append_assoc]
    exact ⟨_, _, _, rfl, rfl⟩

/-- Declarations that take no part are invisible to a round. Without the interfaces that have
no project code and the methods that have no annotation, in whatever they would clash with
the others, the round asks the same of its declarations and is rendered the same: with the
same units and as many numbers, or failing with the same cause. Wherever its units go, it
answers the same and leaves the same behind, and what it no longer records is that the
declarations were passed over. -/
theorem render_pruned (config : Config) (interfaces : List Interface) :
    render config (pruned interfaces) = render config interfaces ∧
      (renderRound config (pruned interfaces)).1 = (renderRound config interfaces).1 ∧
      checks config (pruned interfaces) = checks config interfaces ∧
      (∀ (σ : Type) (file : Filer (StateM σ)) (state : σ), ∃ answer later after,
        process config file interfaces state =
          ((answer, collectionEvents interfaces ++ later), after) ∧
        process config file (pruned interfaces) state =
          ((answer, (collectionEvents interfaces).filter (fun e => !e.isSkipping) ++ later),
            after)) := by
  obtain ⟨rendered, later, hround, hpruned⟩ := renderRound_pruned config interfaces
  refine ⟨?_, ?_, ?_, fun σ file state => ?_⟩
  · rw [render, render, hround, hpruned]
  · rw [hround, hpruned]
  · rw [checks, checks, collect_pruned]
  · rw [← collectionEvents_pruned]
    exact process_pruned config file interfaces state

/-- An interface without a project code can have the name of a bundle and the number of a
message. -/
example : pruned (⟨"a.A", none, none, [{ name := "first", message := some ⟨1, "x"⟩ }]⟩ ::
    twoBundles) = twoBundles := by decide

end MessageBundle

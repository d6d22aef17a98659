import MessageBundle.Command
import MessageBundle.Proofs.Filer.Directory

/-!
# The two commands agree

`check` and `generate` are written apart, but both load a manifest, refuse one with
faults and render its round; `generate` puts its overrides in before and writes the
units after. This file compares `generate` with a check of the manifest that has the
overrides put in. Whatever the check finds at fault, `generate` refuses with the same
exit status before its first write; where the check finds nothing, only a write can
make `generate` fail.

## Main definitions

* `checkWith` — what `check` finds in a manifest with overrides put in

## Main results

* `check_eq_checkWith` — `check` is the check without overrides
* `Manifest.roundConfig_of_validate` — a validated manifest has a usable configuration
* `generate_of_load_ok` — `generate` on a tree, after its manifest is loaded
* `generate_agrees_with_check` — how `generate` ends, told by the check
-/

namespace MessageBundle

/-- What `check` finds in a manifest with overrides put in. -/
def checkWith {m : Type → Type} [Monad m] (access : FileAccess m) (path : String)
    (overrides : Overrides) : m (Except Failure (Manifest × List Source)) := do
  match ← Manifest.load access path with
  | .error failure => pure (.error failure)
  | .ok loaded =>
    let manifest := loaded.override overrides
    pure (manifest.inspect.map (manifest, ·))

/-- The exit status of a command with a result. -/
def exitCodeOf {α : Type} : Except Failure α → Nat
  | .error failure => failure.code
  | .ok _ => 0

theorem override_none (manifest : Manifest) : manifest.override {} = manifest := by
  rw [Manifest.override, Overrides.apply]
  simp

theorem check_eq_checkWith {m : Type → Type} [Monad m] (access : FileAccess m) (path : String) :
    check access path = checkWith access path {} := by
  refine congrArg (Manifest.load access path >>= ·) (funext fun loaded => ?_)
  cases loaded with
  | error failure => rfl
  | ok manifest => simp only [override_none]

/-! ### One manifest -/

section Manifest

variable {manifest : Manifest} {failure : Failure} {sources : List Source}

/-- A manifest that was validated has a configuration without faults. -/
theorem Manifest.roundConfig_of_validate (h : manifest.validate = .ok ()) :
    manifest.roundConfig = .ok manifest.config := by
  have hconfig : manifest.config.fault? = none := by
    cases hfault : manifest.config.fault? with
    | none => rfl
    | some fault =>
      rw [validate, fault?, hfault] at h
      cases h
  rw [roundConfig, hconfig]

/-- What validation refuses, neither command starts a round with. -/
theorem Manifest.prepare_of_validate_error (h : manifest.validate = .error failure) :
    manifest.prepare = .error failure ∧ manifest.inspect = .error failure := by
  rw [prepare, inspect, h]
  exact ⟨rfl, rfl⟩

/-- Behind validation, both commands start the same round. -/
theorem Manifest.prepare_of_validate_ok (h : manifest.validate = .ok ()) :
    manifest.prepare = .ok manifest.config ∧
      manifest.inspect =
        (MessageBundle.render manifest.config manifest.interfaces).mapError (.generation none) := by
  have hconfig := roundConfig_of_validate h
  rw [prepare, inspect, h, render, hconfig]
  exact ⟨rfl, rfl⟩

end Manifest

/-! ### On a tree -/

section Tree

variable {options : GenerateOptions} {t : FileTree}

/-- Loading a manifest leaves the tree alone. -/
theorem load_tree (path : String) (t : FileTree) :
    ∃ loaded, Manifest.load FileTree.access path t = (loaded, t) := by
  simp only [Manifest.load, FileAccess.readText, FileTree.access, bind, StateT.bind]
  cases t.read path with
  | error fault => exact ⟨_, rfl⟩
  | ok bytes =>
    cases htext : String.fromUTF8? bytes with
    | none => exact ⟨_, by simp only [htext]; rfl⟩
    | some text => exact ⟨_, by simp only [htext]; rfl⟩

/-- A manifest that cannot be loaded ends both commands. -/
theorem commands_of_load_error {failure : Failure}
    (h : Manifest.load FileTree.access options.path t = (.error failure, t)) :
    checkWith FileTree.access options.path options.overrides t = (.error failure, t) ∧
      generate FileTree.access options t = ((.error failure, []), t) := by
  simp only [checkWith, generate, bind, StateT.bind, h]
  exact ⟨rfl, rfl⟩

/-- A check behind a manifest that is loaded. -/
theorem checkWith_of_load_ok {loaded : Manifest}
    (h : Manifest.load FileTree.access options.path t = (.ok loaded, t)) :
    checkWith FileTree.access options.path options.overrides t =
      ((loaded.override options.overrides).inspect.map (loaded.override options.overrides, ·),
        t) := by
  simp only [checkWith, bind, StateT.bind, h]
  rfl

/-- `generate` behind a manifest that is loaded. -/
theorem generate_of_load_ok {loaded : Manifest}
    (h : Manifest.load FileTree.access options.path t = (.ok loaded, t)) :
    generate FileTree.access options t =
      match (loaded.override options.overrides).prepare with
      | .error failure => ((.error failure, []), t)
      | .ok config =>
        let round := process config (DirectoryFiler.filer FileTree.access options.output)
          (loaded.override options.overrides).interfaces t
        ((round.1.1.mapError (.generation (some options.path)), round.1.2), round.2) := by
  simp only [generate, bind, StateT.bind, h]
  cases (loaded.override options.overrides).prepare <;> rfl

/-- The exit status of `check`. -/
theorem runCheck_exitCode (path : String) (t : FileTree) :
    (runCheck FileTree.access path t).1.exitCode =
      exitCodeOf (checkWith FileTree.access path {} t).1 := by
  rw [← check_eq_checkWith]
  simp only [runCheck, bind, StateT.bind]
  rcases check FileTree.access path t with ⟨result, after⟩
  cases result <;> rfl

/-- The exit status of `generate` and the tree behind it. -/
theorem runGenerate_eq (options : GenerateOptions) (t : FileTree) :
    (runGenerate FileTree.access options t).1.exitCode =
        exitCodeOf (generate FileTree.access options t).1.1 ∧
      (runGenerate FileTree.access options t).2 = (generate FileTree.access options t).2 := by
  simp only [runGenerate, bind, StateT.bind]
  rcases generate FileTree.access options t with ⟨⟨result, events⟩, after⟩
  cases result <;> exact ⟨rfl, rfl⟩

/-- A round that is rendered and written under a directory: the units are reported, or a
write is refused. -/
theorem process_directory_of_render_ok {config : Config} {interfaces : List Interface}
    {sources : List Source} (h : render config interfaces = .ok sources) (root : String)
    (t : FileTree) :
    (∃ report, (process config (DirectoryFiler.filer FileTree.access root) interfaces t).1.1 =
        .ok report ∧ report.units = sources.map Source.reported) ∨
      ∃ path fault, (process config (DirectoryFiler.filer FileTree.access root) interfaces t).1.1 =
        .error (.outputWrite path fault) := by
  rcases DirectoryFiler.round_cases config root interfaces t with
    ⟨cause, events, hrender, -⟩ | ⟨units, after, ids, events, hrender, -, hround⟩ |
      ⟨before, refused, rest, fault, after, events, -, -, hround⟩
  · rw [h] at hrender
    cases hrender
  · rw [h] at hrender
    obtain rfl := Except.ok.inj hrender
    rw [hround]
    exact .inl ⟨⟨sources.map Source.reported, ids⟩, rfl, rfl⟩
  · rw [hround]
    exact .inr ⟨DirectoryFiler.pathFor root refused.qualifiedName, fault, rfl⟩

theorem GenerationError.code_ne_zero (cause : GenerationError) : cause.code ≠ 0 := by
  cases cause <;> exact Nat.succ_ne_zero _

theorem Failure.code_ne_zero (failure : Failure) : failure.code ≠ 0 := by
  rw [code]
  cases failure.cause? with
  | none => exact Nat.one_ne_zero
  | some cause => exact cause.code_ne_zero

theorem exists_error_of_exitCodeOf {α : Type} {x : Except Failure α} {code : Nat}
    (h : exitCodeOf x = code) (hne : code ≠ 0) :
    ∃ failure, x = .error failure ∧ failure.code = code := by
  cases x with
  | error failure => exact ⟨failure, rfl, h⟩
  | ok _ => exact absurd h.symm hne

theorem exists_ok_of_exitCodeOf {α : Type} {x : Except Failure α} (h : exitCodeOf x = 0) :
    ∃ value, x = .ok value := by
  cases x with
  | error failure => exact absurd h failure.code_ne_zero
  | ok value => exact ⟨value, rfl⟩

/-- What a check finds at fault ends `generate` before anything is written. The failures
differ at most in the path that `generate` tells, and not in their exit status. -/
theorem generate_of_check_error {loaded : Except Failure Manifest} {failure : Failure}
    (hload : Manifest.load FileTree.access options.path t = (loaded, t))
    (hchecked : (checkWith FileTree.access options.path options.overrides t).1 = .error failure) :
    ∃ failure' events, generate FileTree.access options t = ((.error failure', events), t) ∧
      failure'.code = failure.code := by
  cases loaded with
  | error fault =>
    obtain ⟨hcheck, hgenerate⟩ := commands_of_load_error hload
    rw [hcheck] at hchecked
    cases hchecked
    exact ⟨_, _, hgenerate, rfl⟩
  | ok loaded =>
    rw [checkWith_of_load_ok hload] at hchecked
    have hinspect := error_of_map_eq_error hchecked
    rw [generate_of_load_ok hload]
    -- from here on, only the manifest with the overrides put in matters
    generalize loaded.override options.overrides = manifest at hinspect ⊢
    cases hvalid : manifest.validate with
    | error fault =>
      obtain ⟨hprepare, hinspect'⟩ := Manifest.prepare_of_validate_error hvalid
      rw [hinspect'] at hinspect
      cases hinspect
      rw [hprepare]
      exact ⟨_, _, rfl, rfl⟩
    | ok _ =>
      obtain ⟨hprepare, hinspect'⟩ := Manifest.prepare_of_validate_ok hvalid
      rw [hinspect'] at hinspect
      cases hrender : render manifest.config manifest.interfaces with
      | error cause =>
        -- the round fails alike, and a round that is not rendered writes nothing
        rw [hrender] at hinspect
        cases hinspect
        obtain ⟨events, hround⟩ := process_of_render_error hrender
          (DirectoryFiler.filer FileTree.access options.output) t
        rw [hprepare]
        simp only [hround]
        exact ⟨_, _, rfl, rfl⟩
      | ok sources =>
        rw [hrender] at hinspect
        cases hinspect

/-- Behind a check that succeeds, `generate` writes the units checked, unless a write is
refused. -/
theorem generate_of_check_ok {loaded : Except Failure Manifest} {manifest : Manifest}
    {sources : List Source} (hload : Manifest.load FileTree.access options.path t = (loaded, t))
    (hchecked : (checkWith FileTree.access options.path options.overrides t).1 =
      .ok (manifest, sources)) :
    (∃ report, (generate FileTree.access options t).1.1 = .ok report ∧
        report.units = sources.map Source.reported) ∨
      ∃ path fault, (generate FileTree.access options t).1.1 =
        .error (.generation (some options.path) (.outputWrite path fault)) := by
  cases loaded with
  | error fault =>
    rw [(commands_of_load_error hload).1] at hchecked
    cases hchecked
  | ok loaded =>
    rw [checkWith_of_load_ok hload] at hchecked
    obtain ⟨_, hinspect, hpair⟩ := exists_of_map_eq_ok hchecked
    cases hpair
    rw [generate_of_load_ok hload]
    generalize loaded.override options.overrides = manifest at hinspect ⊢
    cases hvalid : manifest.validate with
    | error fault =>
      rw [(Manifest.prepare_of_validate_error hvalid).2] at hinspect
      cases hinspect
    | ok _ =>
      obtain ⟨hprepare, hinspect'⟩ := Manifest.prepare_of_validate_ok hvalid
      rw [hinspect'] at hinspect
      have hrender : render manifest.config manifest.interfaces = .ok sources := by
        cases hrendered : render manifest.config manifest.interfaces with
        | error cause => rw [hrendered] at hinspect; cases hinspect
        | ok rendered => rw [hrendered] at hinspect; cases hinspect; rfl
      rw [hprepare]
      rcases process_directory_of_render_ok hrender options.output t with
        ⟨report, hround, hunits⟩ | ⟨path, fault, hround⟩
      · exact .inl ⟨report, by simp only [hround]; rfl, hunits⟩
      · exact .inr ⟨path, fault, by simp only [hround]; rfl⟩

/-- How `generate` ends is told by a check of the manifest with the overrides put in. What
the check finds at fault ends `generate` with the same exit status and an untouched tree;
behind a check that succeeds, `generate` reports the units checked, or a write is refused.
A manifest that is validated always has a usable configuration. -/
theorem generate_agrees_with_check (options : GenerateOptions) (t : FileTree) :
    (runCheck FileTree.access options.path t).1.exitCode =
      exitCodeOf (checkWith FileTree.access options.path {} t).1 ∧
    (∀ failure,
      (checkWith FileTree.access options.path options.overrides t).1 = .error failure →
        (runGenerate FileTree.access options t).1.exitCode = failure.code ∧ failure.code ≠ 0 ∧
          (runGenerate FileTree.access options t).2 = t) ∧
    (∀ manifest sources,
      (checkWith FileTree.access options.path options.overrides t).1 = .ok (manifest, sources) →
        (∃ report, (generate FileTree.access options t).1.1 = .ok report ∧
          report.units = sources.map Source.reported ∧
            (runGenerate FileTree.access options t).1.exitCode = 0) ∨
        ∃ path fault, (generate FileTree.access options t).1.1 =
            .error (.generation (some options.path) (.outputWrite path fault)) ∧
          (runGenerate FileTree.access options t).1.exitCode = 6) ∧
    ∀ manifest : Manifest, manifest.validate = .ok () →
      ∃ config, manifest.roundConfig = .ok config := by
  obtain ⟨hcode, htree⟩ := runGenerate_eq options t
  obtain ⟨loaded, hload⟩ := load_tree options.path t
  refine ⟨runCheck_exitCode options.path t, fun failure hchecked => ?_,
    fun manifest sources hchecked => ?_,
    fun manifest hvalid => ⟨_, Manifest.roundConfig_of_validate hvalid⟩⟩
  · obtain ⟨failure', events, hgenerate, hsame⟩ := generate_of_check_error hload hchecked
    rw [hgenerate] at htree hcode
    exact ⟨hcode.trans hsame, failure.code_ne_zero, htree⟩
  · rcases generate_of_check_ok hload hchecked with
      ⟨report, hgenerate, hunits⟩ | ⟨path, fault, hgenerate⟩
    · rw [hgenerate] at hcode
      exact .inl ⟨report, hgenerate, hunits, hcode⟩
    · rw [hgenerate] at hcode
      exact .inr ⟨path, fault, hgenerate, hcode⟩

/-- A tree with nothing but a manifest, of one bundle with one message. -/
def manifestTree (template : String) : FileTree where
  entries := [(["m.json"], .file
    ("[[],[[\"a.B\",null,[\"A\"],[[\"m\",\"String\",[],[1,\"" ++ template ++ "\"]]]]]]").toUTF8)]
  home := []

/-- A manifest whose template ends in a backslash is refused by both commands; without the
backslash, `generate` reports the units checked. -/
theorem generate_agrees_one_message :
    ((runGenerate FileTree.access ⟨"m.json", "out", {}⟩ (manifestTree "x\\\\")).1.exitCode = 9 ∧
      (runGenerate FileTree.access ⟨"m.json", "out", {}⟩ (manifestTree "x\\\\")).2 =
        manifestTree "x\\\\") ∧
    (∃ manifest sources report,
      (checkWith FileTree.access "m.json" {} (manifestTree "x")).1 = .ok (manifest, sources) ∧
      (generate FileTree.access ⟨"m.json", "out", {}⟩ (manifestTree "x")).1.1 = .ok report ∧
      report.units = sources.map Source.reported) ∧
    ∃ config, Manifest.roundConfig {} = .ok config := by
  obtain ⟨-, hrefused, -, hvalid⟩ :=
    generate_agrees_with_check ⟨"m.json", "out", {}⟩ (manifestTree "x\\\\")
  obtain ⟨-, -, hwritten, -⟩ :=
    generate_agrees_with_check ⟨"m.json", "out", {}⟩ (manifestTree "x")
  refine ⟨?_, ?_, hvalid {} rfl⟩
  · have hchecked : exitCodeOf
        (checkWith FileTree.access "m.json" {} (manifestTree "x\\\\")).1 = 9 := by decide +kernel
    obtain ⟨failure, hfailure, hcode⟩ := exists_error_of_exitCodeOf hchecked (by decide)
    obtain ⟨hexit, -, htree⟩ := hrefused failure hfailure
    exact ⟨hexit.trans hcode, htree⟩
  · have hchecked : exitCodeOf
        (checkWith FileTree.access "m.json" {} (manifestTree "x")).1 = 0 := by decide +kernel
    have hexit : (runGenerate FileTree.access ⟨"m.json", "out", {}⟩
        (manifestTree "x")).1.exitCode = 0 := by decide +kernel
    obtain ⟨⟨manifest, sources⟩, hok⟩ := exists_ok_of_exitCodeOf hchecked
    rcases hwritten manifest sources hok with ⟨report, hreport, hunits, -⟩ | ⟨_, _, -, hsix⟩
    · exact ⟨manifest, sources, report, hok, hreport, hunits⟩
    · rw [hexit] at hsix
      cases hsix

end Tree

end MessageBundle

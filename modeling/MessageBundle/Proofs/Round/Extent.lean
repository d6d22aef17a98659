import MessageBundle.Proofs.Round.FirstFault

/-!
# How far a round gets

A round makes its checks one after another and stops behind the first that fails. What it
has looked at by then is told by the checks it made: a method is looked at when its first
check is made, that of its kinds. So a round that is rendered looks at all of its methods, a
round that stops at an output name at those of the bundles before, and a round that stops at
a method at those before it and at this one, whichever of its checks has failed.

## Main definitions

* `checksMade` — checks made one after another, up to and with the first that fails
* `checksUpTo` — what a round has asked when it reaches a method
* `LooksAt` — a round that ends with or without a fault looks at methods
* `lookedAt` — these methods, read off the checks that are made

## Main results

* `checksMade_append_of_fault`, `checksMade_append_of_pass` — checks made in two parts
* `LooksAt.eq_lookedAt`, `looksAt_lookedAt` — every round looks at exactly one list of methods
-/

namespace MessageBundle

/-- Checks made one after another behind those in `before`, up to the first that fails,
which is made too. -/
def checksMade (strict : Bool) (before : List Check) : List Check → List Check
  | [] => []
  | check :: rest =>
    check ::
      if (check.fault? strict before).isSome then []
      else checksMade strict (before ++ [check]) rest

/-- The method that is looked at from a check on. -/
def Check.opens? : Check → Option Method
  | compatibleKinds m => some m
  | _ => none

/-- The methods that checks look at. -/
def opened (checks : List Check) : List Method := checks.filterMap Check.opens?

/-- What a round has asked when it reaches a method: everything of the bundles before, the
output name of the bundle, and everything of the methods in front. -/
def checksUpTo (config : Config) (earlier : List Bundle) (b : Bundle) (before : List Method) :
    List Check :=
  earlier.flatMap (Bundle.checks config) ++
    .newOutput (b.outputName config) :: before.flatMap Method.checks

/-- The methods that a round looks at. -/
def lookedAt (config : Config) (interfaces : List Interface) : List Method :=
  opened (checksMade config.strictAnnotations [] (checks config interfaces))

/-- A round that ends without a fault, or with one, looks at the methods in a list. -/
inductive LooksAt (config : Config) (interfaces : List Interface) :
    Option GenerationError → List Method → Prop
  /-- Nothing fails, so that no method is left out. -/
  | all (passed : AllPass config.strictAnnotations (checks config interfaces)) :
      LooksAt config interfaces none (roundMethods interfaces)
  /-- A bundle has the output name of one before it, and none of its methods is reached. -/
  | upToBundle {earlier later : List Bundle} {b : Bundle}
      (place : collect interfaces = earlier ++ b :: later)
      (passed : AllPass config.strictAnnotations (earlier.flatMap (Bundle.checks config)))
      (taken : b.outputName config ∈ earlier.map (Bundle.outputName config)) :
      LooksAt config interfaces (some (.duplicateOutput (b.outputName config)))
        (earlier.flatMap Bundle.methods)
  /-- A method fails, and it is the last one that is looked at. -/
  | upToMethod {earlier later : List Bundle} {b : Bundle} {before after : List Method}
      {m : Method} {cause : GenerationError}
      (place : collect interfaces = earlier ++ b :: later)
      (inside : b.methods = before ++ m :: after)
      (passed : AllPass config.strictAnnotations (checksUpTo config earlier b before))
      (fails : firstFault? config.strictAnnotations (checksUpTo config earlier b before)
        m.checks = some cause) :
      LooksAt config interfaces (some cause)
        (earlier.flatMap Bundle.methods ++ before ++ [m])

variable {strict : Bool} {before rest later passed : List Check} {check : Check}
  {cause : GenerationError}

/-! ### Checks that are made -/

/-- Checks that all pass are all made. -/
theorem checksMade_of_pass (h : firstFault? strict before rest = none) :
    checksMade strict before rest = rest := by
  induction rest generalizing before with
  | nil => rfl
  | cons check rest ih =>
    rw [firstFault?, Option.or_eq_none_iff] at h
    rw [checksMade, h.1, Option.isSome_none, if_neg Bool.false_ne_true, ih h.2]

/-- No check is made behind one that failed. -/
theorem checksMade_append_of_fault (h : firstFault? strict before rest = some cause)
    (later : List Check) :
    checksMade strict before (rest ++ later) = checksMade strict before rest := by
  induction rest generalizing before with
  | nil => cases h
  | cons check rest ih =>
    rw [List.cons_append, checksMade, checksMade]
    cases hfault : check.fault? strict before with
    | some found => rfl
    | none =>
      rw [firstFault?, hfault, Option.none_or] at h
      rw [ih h]

/-- Behind checks that all passed, the next ones are made. -/
theorem checksMade_append_of_pass (h : firstFault? strict before rest = none)
    (later : List Check) :
    checksMade strict before (rest ++ later) =
      rest ++ checksMade strict (before ++ rest) later := by
  induction rest generalizing before with
  | nil => rw [List.nil_append, List.append_nil, List.nil_append]
  | cons check rest ih =>
    rw [firstFault?, Option.or_eq_none_iff] at h
    rw [List.cons_append, checksMade, h.1, Option.isSome_none, if_neg Bool.false_ne_true, ih h.2,
      List.append_assoc, List.singleton_append, List.cons_append]

/-- The last check that is made is the one that fails. -/
theorem checksMade_of_place (hpassed : firstFault? strict before passed = none)
    (hfault : check.fault? strict (before ++ passed) = some cause) (later : List Check) :
    checksMade strict before (passed ++ check :: later) = passed ++ [check] := by
  rw [checksMade_append_of_pass hpassed, checksMade, hfault, Option.isSome_some, if_pos rfl]

theorem checksMade_subset : checksMade strict before rest ⊆ rest := by
  induction rest generalizing before with
  | nil => exact List.Subset.refl []
  | cons check rest ih =>
    rw [checksMade]
    split
    · exact List.cons_subset_cons check (List.nil_subset rest)
    · exact List.cons_subset_cons check ih

/-! ### The methods that checks look at -/

theorem opened_append (checks later : List Check) :
    opened (checks ++ later) = opened checks ++ opened later := List.filterMap_append

theorem opened_newOutput_cons (target : String) (checks : List Check) :
    opened (.newOutput target :: checks) = opened checks := List.filterMap_cons_none rfl

/-- With the check of its kinds a method is looked at; its other checks look at none. -/
theorem opened_of_kinds {m : Method} {others : List Check}
    (h : others ⊆ m.shapeChecks ++ m.numberChecks) :
    opened (.compatibleKinds m :: others) = [m] := by
  have hothers : ∀ check ∈ m.shapeChecks ++ m.numberChecks, check.opens? = none := by
    rw [Method.shapeChecks, Method.numberChecks, Method.registration?]
    cases m.message <;> cases m.logMessage <;> cases m.getLogger <;> simp [Check.opens?]
  have hnone := List.filterMap_eq_nil_iff.mpr fun check hcheck => hothers check (h hcheck)
  rw [opened, List.filterMap_cons, hnone]
  rfl

/-- A method is looked at, whether its checks pass or one of them fails. -/
theorem opened_checksMade_methodChecks (m : Method) :
    opened (checksMade strict before m.checks) = [m] := by
  rw [Method.checks, List.cons_append, checksMade]
  split
  · exact opened_of_kinds (List.nil_subset _)
  · exact opened_of_kinds checksMade_subset

theorem opened_methodsChecks (ms : List Method) : opened (ms.flatMap Method.checks) = ms := by
  rw [opened, List.filterMap_flatMap]
  exact (List.flatMap_congr fun m _ => opened_of_kinds (List.Subset.refl _)).trans
    (List.flatMap_singleton' ms)

theorem opened_bundlesChecks (config : Config) (bundles : List Bundle) :
    opened (bundles.flatMap (Bundle.checks config)) = bundles.flatMap Bundle.methods := by
  rw [opened, List.filterMap_flatMap]
  refine List.flatMap_congr fun b _ => ?_
  rw [Bundle.checks, ← opened, opened_newOutput_cons, opened_methodsChecks]

theorem opened_checksUpTo (config : Config) (earlier : List Bundle) (b : Bundle)
    (before : List Method) :
    opened (checksUpTo config earlier b before) = earlier.flatMap Bundle.methods ++ before := by
  rw [checksUpTo, opened_append, opened_bundlesChecks, opened_newOutput_cons, opened_methodsChecks]

/-! ### The methods that a round looks at -/

variable {config : Config} {interfaces : List Interface}

theorem fault?_newOutput_bundlesChecks (config : Config) (bundles : List Bundle)
    (target : String) :
    (Check.newOutput target).fault? strict (bundles.flatMap (Bundle.checks config)) =
      if target ∈ bundles.map (Bundle.outputName config) then some (.duplicateOutput target)
      else none := by
  rw [Check.fault?, target?_bundlesChecks]

/-- The checks of a round around those of one of its methods. -/
theorem checks_eq_of_place {earlier later : List Bundle} {b : Bundle} {before after : List Method}
    {m : Method} (hplace : collect interfaces = earlier ++ b :: later)
    (hinside : b.methods = before ++ m :: after) :
    checks config interfaces = checksUpTo config earlier b before ++
      (m.checks ++ (after.flatMap Method.checks ++ later.flatMap (Bundle.checks config))) := by
  rw [checks, checksUpTo, hplace, List.flatMap_append, List.flatMap_cons, Bundle.checks, hinside,
    List.flatMap_append, List.flatMap_cons]
  simp only [List.cons_append, List.append_assoc]

/-- A list that a round looks at is the one that is read off its checks. -/
theorem LooksAt.eq_lookedAt {fault : Option GenerationError} {looked : List Method}
    (h : LooksAt config interfaces fault looked) : looked = lookedAt config interfaces := by
  cases h with
  | all passed =>
    rw [allPass_iff] at passed
    rw [lookedAt, checksMade_of_pass passed, checks, opened_bundlesChecks, roundMethods]
  | @upToBundle earlier later b place passed taken =>
    rw [allPass_iff] at passed
    have hfault := @fault?_newOutput_bundlesChecks config.strictAnnotations config earlier
      (b.outputName config)
    rw [if_pos taken] at hfault
    rw [lookedAt, checks, place, List.flatMap_append, List.flatMap_cons, Bundle.checks,
      List.cons_append, checksMade_of_place passed hfault, opened_append, opened_bundlesChecks,
      opened_newOutput_cons]
    exact (List.append_nil _).symm
  | upToMethod place inside passed fails =>
    rw [allPass_iff] at passed
    -- whatever check of the method fails, the one of its kinds was made and none behind it
    rw [lookedAt, checks_eq_of_place place inside, checksMade_append_of_pass passed,
      List.nil_append, checksMade_append_of_fault fails, opened_append, opened_checksUpTo,
      opened_checksMade_methodChecks]

/-- A round that fails looks at methods: at those before the bundle whose name is taken, or up
to the one that fails. -/
theorem exists_looksAt_of_fault
    (h : firstFault? config.strictAnnotations [] (checks config interfaces) = some cause) :
    ∃ looked, LooksAt config interfaces (some cause) looked := by
  obtain ⟨passed, check, rest, hplace, hpassed, hfault⟩ := firstFault?_eq_some_iff.mp h
  obtain ⟨earlier, b, later, inBundle, behind, hbundles, hbundle, rfl⟩ :=
    exists_of_flatMap_eq_append_cons hplace
  -- the first check of a bundle is the one of its name, and all others belong to its methods
  rw [Bundle.checks, List.cons_eq_append_iff] at hbundle
  rcases hbundle with ⟨rfl, hname⟩ | ⟨inMethods, rfl, hmethods⟩
  · obtain ⟨rfl, -⟩ := List.cons.inj hname
    rw [List.append_nil] at hpassed hfault
    rw [List.nil_append, fault?_newOutput_bundlesChecks] at hfault
    by_cases htaken : b.outputName config ∈ earlier.map (Bundle.outputName config)
    · rw [if_pos htaken] at hfault
      cases hfault
      exact ⟨_, .upToBundle hbundles (allPass_iff.mpr hpassed) htaken⟩
    · rw [if_neg htaken] at hfault
      cases hfault
  · obtain ⟨before, m, after, inMethod, behind', hinside, hmethod, rfl⟩ :=
      exists_of_flatMap_eq_append_cons hmethods
    have hreached : earlier.flatMap (Bundle.checks config) ++
        .newOutput (b.outputName config) :: (before.flatMap Method.checks ++ inMethod) =
          checksUpTo config earlier b before ++ inMethod := by
      rw [checksUpTo, List.append_assoc, List.cons_append]
    rw [hreached] at hpassed hfault
    rw [firstFault?_append, Option.or_eq_none_iff] at hpassed
    exact ⟨_, .upToMethod hbundles hinside (allPass_iff.mpr hpassed.1)
      (firstFault?_eq_some_iff.mpr ⟨inMethod, check, behind', hmethod, hpassed.2, hfault⟩)⟩

/-- Every round looks at the methods that are read off its checks. -/
theorem looksAt_lookedAt (config : Config) (interfaces : List Interface) :
    LooksAt config interfaces (faultOf (render config interfaces))
      (lookedAt config interfaces) := by
  obtain ⟨looked, hlooks⟩ :
      ∃ looked, LooksAt config interfaces (faultOf (render config interfaces)) looked := by
    rw [faultOf_render]
    cases hfirst : firstFault? config.strictAnnotations [] (checks config interfaces) with
    | none => exact ⟨_, .all (allPass_iff.mpr hfirst)⟩
    | some cause => exact exists_looksAt_of_fault hfirst
  exact hlooks.eq_lookedAt ▸ hlooks

/-- The second of three methods has the number of the first one. It is looked at, and the
third one is not. -/
example :
    (lookedAt {} [⟨"a.B", none, some "C",
      [{ name := "first", returnType := "String", message := some ⟨7, "x"⟩ },
        { name := "second", returnType := "String", message := some ⟨7, "y"⟩ },
        { name := "third", returnType := "String", message := some ⟨8, "z"⟩ }]⟩]).map Method.name =
      ["first", "second"] := by
  decide +kernel

end MessageBundle

import Mathlib.Data.List.Basic
import Mathlib.Data.List.Forall2
import MessageBundle.Proofs.Round.Check

/-!
# What passes check

A round threads a registry and a list of output names through its declarations.
Behind checks that all passed, both are determined by the checks: they hold the
numbers and the names asked for, the last one first. From there, whatever a round
does next makes the checks of what it takes next: it fails with the first fault
among them, or the registry and the names again stand for all checks made. The
induction over methods and over bundles carries exactly this.

## Main definitions

* `Pass.Makes` — a pass makes checks
* `Method.IsResolvedBy`, `Bundle.IsRenderedAs` — what a method is resolved to and what a
  bundle is rendered as when its checks pass

## Main results

* `makes_methodChecks`, `makes_methodsChecks` — admitting a method, and methods in a row
* `makes_bundleChecks`, `makes_bundlesChecks` — rendering a bundle, and bundles in a row
* `faultOf_render` — a round fails with the first fault among its checks
-/

namespace MessageBundle

variable {strict : Bool} {before rest : List Check}

/-- A pass from the state behind the checks in `before` makes more checks. It fails
with the first fault among them; if it does not fail, their numbers are registered
and its result fits. -/
structure Pass.Makes {α : Type} (strict : Bool) (before rest : List Check) (Fits : α → Prop)
    (p : Pass α) : Prop where
  fault : faultOf p.result = firstFault? strict before rest
  registry : ∀ value, p.result = .ok value → p.registry = registryAfter (before ++ rest)
  fits : ∀ value, p.result = .ok value → Fits value

theorem exists_of_map_eq_ok {ε α β : Type} {x : Except ε α} {f : α → β} {b : β}
    (h : x.map f = .ok b) : ∃ a, x = .ok a ∧ f a = b := by
  cases x with
  | error cause => cases h
  | ok a => exact ⟨a, rfl, Except.ok.inj h⟩

theorem error_of_map_eq_error {ε α β : Type} {x : Except ε α} {f : α → β} {e : ε}
    (h : x.map f = .error e) : x = .error e := by
  cases x with
  | error found => exact congrArg Except.error (Except.error.inj h)
  | ok a => cases h

/-- A pass that fails is all there is. -/
theorem Pass.andThen_of_error {α β γ : Type} {p : Pass α} {cause : GenerationError}
    (h : p.result = .error cause) (next : Registry → Pass β) (join : α → β → γ) :
    p.andThen next join = ⟨.error cause, p.registry, p.events⟩ := by
  rw [andThen, h]

/-- Behind a pass that does not fail, the next one decides. -/
theorem Pass.andThen_of_ok {α β γ : Type} {p : Pass α} {value : α} (h : p.result = .ok value)
    (next : Registry → Pass β) (join : α → β → γ) :
    p.andThen next join =
      ⟨(next p.registry).result.map (join value), (next p.registry).registry,
        p.events ++ (next p.registry).events⟩ := by
  rw [andThen, h]

/-- Passes in a row make their checks in a row. -/
theorem Pass.Makes.andThen {α β γ : Type} {later : List Check} {First : α → Prop}
    {Second : β → Prop} {Both : γ → Prop} {p : Pass α} {next : Registry → Pass β}
    {join : α → β → γ} (hp : p.Makes strict before rest First)
    (hnext : (next (registryAfter (before ++ rest))).Makes strict (before ++ rest) later Second)
    (hjoin : ∀ a b, First a → Second b → Both (join a b)) :
    (p.andThen next join).Makes strict before (rest ++ later) Both := by
  have hfault : firstFault? strict before (rest ++ later) =
      (faultOf p.result).or (firstFault? strict (before ++ rest) later) := by
    rw [firstFault?_append, hp.fault]
  -- the second pass starts from where the first one ended, which is told by its checks
  cases hresult : p.result with
  | error cause =>
    rw [hresult] at hfault
    rw [Pass.andThen_of_error hresult]
    exact { fault := hfault.symm, registry := nofun, fits := nofun }
  | ok value =>
    rw [hresult] at hfault
    rw [Pass.andThen_of_ok hresult, hp.registry value hresult]
    refine { fault := ?_, registry := ?_, fits := ?_ }
    · rw [hfault, faultOf_map, hnext.fault]
      rfl
    · intro _ h
      obtain ⟨b, hb, -⟩ := exists_of_map_eq_ok h
      rw [hnext.registry b hb, List.append_assoc]
    · intro _ h
      obtain ⟨b, hb, rfl⟩ := exists_of_map_eq_ok h
      exact hjoin value b (hp.fits value hresult) (hnext.fits b hb)

/-! ### The registry and the output names behind checks -/

theorem registration?_shapeChecks (m : Method) :
    (Check.compatibleKinds m :: m.shapeChecks).filterMap Check.registration? = [] := by
  rw [Method.shapeChecks]
  cases m.message <;> cases m.logMessage <;> cases m.getLogger <;> rfl

theorem target?_methodChecks (m : Method) : m.checks.filterMap Check.target? = [] := by
  rw [Method.checks, Method.shapeChecks, Method.numberChecks, Method.registration?]
  cases m.message <;> cases m.logMessage <;> cases m.getLogger <;> rfl

theorem registration?_numberChecks (m : Method) :
    m.numberChecks.filterMap Check.registration? = m.registration?.toList := by
  rw [Method.numberChecks]
  cases m.registration? <;> rfl

theorem registration?_methodChecks (m : Method) :
    m.checks.filterMap Check.registration? = m.registration?.toList := by
  rw [Method.checks, List.filterMap_append, registration?_shapeChecks, List.nil_append,
    registration?_numberChecks]

theorem registration?_methodsChecks (ms : List Method) :
    (ms.flatMap Method.checks).filterMap Check.registration? =
      ms.filterMap Method.registration? := by
  rw [List.filterMap_flatMap, List.filterMap_eq_flatMap_toList]
  exact List.flatMap_congr fun m _ => registration?_methodChecks m

/-- The checks of a bundle ask for the numbers that its methods declare. -/
theorem registration?_bundleChecks (config : Config) (b : Bundle) :
    (b.checks config).filterMap Check.registration? = b.methods.filterMap Method.registration? := by
  rw [Bundle.checks, List.filterMap_cons_none rfl, registration?_methodsChecks]

theorem registryAfter_shapeChecks (m : Method) (before : List Check) :
    registryAfter (before ++ (.compatibleKinds m :: m.shapeChecks)) = registryAfter before := by
  rw [registryAfter, List.filterMap_append, registration?_shapeChecks, List.append_nil,
    registryAfter]

theorem target?_bundleChecks (config : Config) (b : Bundle) :
    (b.checks config).filterMap Check.target? = [b.outputName config] := by
  have hmethods : (b.methods.flatMap Method.checks).filterMap Check.target? = [] := by
    rw [List.filterMap_flatMap, List.flatMap_eq_nil_iff]
    exact fun m _ => target?_methodChecks m
  rw [Bundle.checks, List.filterMap_cons, hmethods]
  rfl

/-- The checks of bundles ask for their names. -/
theorem target?_bundlesChecks (config : Config) (bundles : List Bundle) :
    (bundles.flatMap (Bundle.checks config)).filterMap Check.target? =
      bundles.map (Bundle.outputName config) := by
  simp only [List.filterMap_flatMap, target?_bundleChecks]
  exact List.map_eq_flatMap.symm

/-- The name of a bundle joins the names of the bundles before it. -/
theorem targetsAfter_bundleChecks (config : Config) (b : Bundle) (before : List Check) :
    targetsAfter (before ++ b.checks config) = b.outputName config :: targetsAfter before := by
  rw [targetsAfter, List.filterMap_append, target?_bundleChecks, List.reverse_append]
  rfl

/-- Registering a number makes the check for it. -/
theorem register_registryAfter (id : MessageId) (template : String) (before : List Check) :
    (registryAfter before).register id template =
      match (Check.newNumber id template).fault? strict before with
      | some cause => .error cause
      | none => .ok (registryAfter (before ++ [.newNumber id template])) := by
  rw [Registry.register, Check.fault?, Registry.get?, registryAfter]
  cases ((before.filterMap Check.registration?).reverse).lookup id with
  | some previous => rfl
  | none =>
    simp only [Option.map_none]
    rw [registryAfter, List.filterMap_append, List.reverse_append]
    rfl

/-- Registering what a resolved method declares makes the check of its number. -/
theorem register_resolution {m : Method} {r : Resolution} (h : m.ResolvesTo r) (strict : Bool)
    (before : List Check) :
    r.register (registryAfter before) =
      match firstFault? strict before m.numberChecks with
      | some cause => .error cause
      | none => .ok (registryAfter (before ++ m.numberChecks)) := by
  rw [Resolution.register, h.registration?_eq, Method.numberChecks]
  cases m.registration? with
  | none => simp [firstFault?]
  | some entry =>
    simp only [firstFault?_singleton]
    exact register_registryAfter entry.1 entry.2 before

/-! ### Methods -/

/-- A method with what it is resolved to. -/
def Method.IsResolvedBy (m : Method) (resolved : ResolvedMethod) : Prop :=
  resolved.method = m ∧ m.ResolvesTo resolved.resolution

/-- A method is resolved as its shape asks for, or to nothing without annotations. -/
def Method.Yields (m : Method) : Option Resolution → Prop
  | some r => m.ResolvesTo r
  | none => m.isAnnotated = false

/-- Admitting a method makes its checks. -/
theorem makes_methodChecks (m : Method) (strict : Bool) (before : List Check) :
    Pass.Makes strict before m.checks m.Yields <| m.admit strict (registryAfter before) := by
  have hchecks : firstFault? strict before m.checks =
      (faultOf (m.resolve strict)).or
        (firstFault? strict (before ++ (.compatibleKinds m :: m.shapeChecks)) m.numberChecks) := by
    rw [Method.checks, firstFault?_append, faultOf_resolve]
  have hregistry := registryAfter_shapeChecks m before
  unfold Method.admit
  cases hresolve : m.resolve strict with
  | error cause =>
    rw [hresolve] at hchecks
    exact { fault := hchecks.symm, registry := nofun, fits := nofun }
  | ok resolution? =>
    rw [hresolve] at hchecks
    cases resolution? with
    | none =>
      have hplain := Method.isAnnotated_of_resolve_eq_none hresolve
      have hnumber : m.numberChecks = [] := by
        rw [Method.numberChecks, Method.registration?_eq_none_of_not_isAnnotated hplain]
      refine { fault := ?_, registry := fun _ _ => ?_, fits := ?_ }
      · rw [hchecks, hnumber]
        rfl
      · rw [Method.checks, hnumber, List.append_nil, hregistry]
      · rintro _ ⟨⟩
        exact hplain
    | some r =>
      -- the number is looked up behind the other checks of the method
      have hshape := (Method.resolve_eq_some_iff.mp hresolve).2
      have hregister := register_resolution hshape strict
        (before ++ (.compatibleKinds m :: m.shapeChecks))
      rw [hregistry, List.append_assoc, ← Method.checks] at hregister
      simp only [hregister]
      cases hnumber : firstFault? strict (before ++ (.compatibleKinds m :: m.shapeChecks))
          m.numberChecks with
      | some cause =>
        rw [hnumber] at hchecks
        exact { fault := hchecks.symm, registry := nofun, fits := nofun }
      | none =>
        rw [hnumber] at hchecks
        refine { fault := hchecks.symm, registry := fun _ _ => rfl, fits := ?_ }
        rintro _ ⟨⟩
        exact hshape

theorem filter_isAnnotated_cons {m : Method} {rest : List Method} {resolution? : Option Resolution}
    {others : List ResolvedMethod} (h : m.Yields resolution?)
    (hothers : List.Forall₂ Method.IsResolvedBy (rest.filter Method.isAnnotated) others) :
    List.Forall₂ Method.IsResolvedBy ((m :: rest).filter Method.isAnnotated)
      ((resolution?.map fun r => ⟨m, r⟩).toList ++ others) := by
  cases resolution? with
  | none =>
    rw [List.filter_cons_of_neg (Bool.not_eq_true _ ▸ h)]
    exact hothers
  | some r =>
    have hshape : m.ResolvesTo r := h
    rw [List.filter_cons_of_pos hshape.isAnnotated]
    exact .cons ⟨rfl, hshape⟩ hothers

/-- Methods in a row make their checks one after another; the result holds the
annotated ones. -/
theorem makes_methodsChecks (ms : List Method) (strict : Bool) (before : List Check) :
    (admitAll strict ms (registryAfter before)).Makes strict before (ms.flatMap Method.checks)
      (List.Forall₂ Method.IsResolvedBy (ms.filter Method.isAnnotated)) := by
  induction ms generalizing before with
  | nil =>
    refine { fault := rfl, registry := fun _ _ => ?_, fits := ?_ }
    · rw [List.flatMap_nil, List.append_nil, admitAll]
    · rintro _ ⟨⟩
      exact .nil
  | cons m rest ih =>
    rw [List.flatMap_cons, admitAll]
    exact (makes_methodChecks m strict before).andThen (ih (before ++ m.checks))
      fun resolution? others hyields hothers => filter_isAnnotated_cons hyields hothers

/-! ### Bundles -/

/-- The unit of a bundle whose methods are all resolved. -/
def Bundle.IsRenderedAs (config : Config) (b : Bundle) (source : Source) : Prop :=
  ∃ methods, List.Forall₂ Method.IsResolvedBy (b.methods.filter Method.isAnnotated) methods ∧
    source = b.render config methods

theorem fault?_newOutput (target : String) :
    (Check.newOutput target).fault? strict before =
      if (targetsAfter before).contains target = true then some (.duplicateOutput target)
      else none := by
  simp only [Check.fault?, targetsAfter, List.contains_iff_mem, List.mem_reverse]

theorem registryAfter_newOutput (target : String) (before : List Check) :
    registryAfter (before ++ [.newOutput target]) = registryAfter before := by
  rw [registryAfter, List.filterMap_append, registryAfter]
  exact congrArg (fun entries => Registry.mk (List.reverse entries)) (List.append_nil _)

/-- Rendering a bundle makes its checks. -/
theorem makes_bundleChecks (config : Config) (b : Bundle) (before : List Check) :
    (renderBundle config (targetsAfter before) b (registryAfter before)).Makes
      config.strictAnnotations before (b.checks config) (b.IsRenderedAs config) := by
  have hmethods := makes_methodsChecks b.methods config.strictAnnotations
    (before ++ [.newOutput (b.outputName config)])
  rw [registryAfter_newOutput] at hmethods
  have hchecks : firstFault? config.strictAnnotations before (b.checks config) =
      ((Check.newOutput (b.outputName config)).fault? config.strictAnnotations before).or
        (faultOf (admitAll config.strictAnnotations b.methods (registryAfter before)).result) := by
    rw [hmethods.fault]
    rfl
  rw [fault?_newOutput] at hchecks
  rw [renderBundle]
  -- a name that is taken fails the bundle before any of its methods is looked at
  by_cases htaken : (targetsAfter before).contains (b.outputName config) = true
  · rw [if_pos htaken] at hchecks ⊢
    exact { fault := hchecks.symm, registry := nofun, fits := nofun }
  rw [if_neg htaken] at hchecks ⊢
  cases hresult : (admitAll config.strictAnnotations b.methods (registryAfter before)).result with
  | error cause =>
    rw [hresult] at hchecks
    simp only [hresult]
    exact { fault := hchecks.symm, registry := nofun, fits := nofun }
  | ok methods =>
    rw [hresult] at hchecks
    simp only [hresult]
    refine { fault := hchecks.symm, registry := fun _ _ => ?_, fits := ?_ }
    · have hregistry := hmethods.registry methods hresult
      rw [List.append_assoc, List.singleton_append, ← Bundle.checks] at hregistry
      exact hregistry
    · rintro _ ⟨⟩
      exact ⟨methods, hmethods.fits methods hresult, rfl⟩

/-- Bundles in a row make their checks one after another. -/
theorem makes_bundlesChecks (config : Config) (bundles : List Bundle) (before : List Check) :
    (renderBundles config (targetsAfter before) bundles (registryAfter before)).Makes
      config.strictAnnotations before (bundles.flatMap (Bundle.checks config))
      (List.Forall₂ (Bundle.IsRenderedAs config) bundles) := by
  induction bundles generalizing before with
  | nil =>
    refine { fault := rfl, registry := fun _ _ => ?_, fits := ?_ }
    · rw [List.flatMap_nil, List.append_nil, renderBundles]
    · rintro _ ⟨⟩
      exact .nil
  | cons b rest ih =>
    have hrest := ih (before ++ b.checks config)
    rw [targetsAfter_bundleChecks] at hrest
    rw [List.flatMap_cons, renderBundles]
    exact (makes_bundleChecks config b before).andThen hrest
      fun source sources hsource hsources => .cons hsource hsources

/-! ### Rounds -/

variable {config : Config} {interfaces : List Interface} {sources : List Source}

theorem makes_checks (config : Config) (interfaces : List Interface) :
    (renderBundles config [] (collect interfaces) .empty).Makes config.strictAnnotations []
      (checks config interfaces)
      (List.Forall₂ (Bundle.IsRenderedAs config) (collect interfaces)) :=
  makes_bundlesChecks config (collect interfaces) []

theorem render_eq (config : Config) (interfaces : List Interface) :
    render config interfaces = (renderBundles config [] (collect interfaces) .empty).result := by
  rw [render, renderRound]
  cases (renderBundles config [] (collect interfaces) .empty).result <;> rfl

/-- A round fails with the first fault among its checks, and only with that. -/
theorem faultOf_render (config : Config) (interfaces : List Interface) :
    faultOf (render config interfaces) =
      firstFault? config.strictAnnotations [] (checks config interfaces) := by
  rw [render_eq, (makes_checks config interfaces).fault]

/-- The units of a round are those of its bundles, in their order. -/
theorem isRenderedAs_of_render (h : render config interfaces = .ok sources) :
    List.Forall₂ (Bundle.IsRenderedAs config) (collect interfaces) sources := by
  rw [render_eq] at h
  exact (makes_checks config interfaces).fits sources h

end MessageBundle

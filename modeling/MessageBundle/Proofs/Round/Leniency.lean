import MessageBundle.Proofs.Round.Acceptance

/-!
# Lenient rounds as strict ones

In lenient mode a method can carry two annotations, and the one that prevails decides. A
method is settled when the other one is taken off it. A lenient round is the strict round
over settled methods: it has the same units, or fails with the same cause. What is taken off
is never looked at in lenient mode, sound or not, and three annotations on one method stay
and are refused in both modes.

## Main definitions

* `Config.withStrictness` — a configuration in one of the two modes
* `Method.settled`, `Interface.settled` — declarations without annotations that do not prevail
* `Pass.Agrees` — two passes have one outcome, whatever is recorded on the way

## Main results

* `Method.resolve_settled` — a settled method is resolved in strict mode as the method is in
  lenient mode
* `agrees_admitAll`, `agrees_renderBundles` — methods and bundles one after another
* `collect_settled_of_render` — settling changes nothing in what strict mode accepts
* `render_lenient_eq_strict_settled` — a lenient round is the strict round over settled methods
-/

namespace MessageBundle

/-! ### Modes -/

/-- The configuration in strict mode or in lenient mode, with its other settings. -/
def Config.withStrictness (config : Config) (strict : Bool) : Config :=
  { config with strictAnnotations := strict }

/-! ### Settled declarations -/

namespace Method

/-- The method without its annotation of a kind. -/
def without (m : Method) : AnnotationKind → Method
  | .message => { m with message := none }
  | .logMessage => { m with logMessage := none }
  | .getLogger => { m with getLogger := false }

/-- The method as it is, or without the later one of exactly two annotations. -/
def settled (m : Method) : Method :=
  match m.kinds with
  | [_, later] => m.without later
  | _ => m

variable {m : Method}

theorem settled_eq_self_or (m : Method) :
    m.settled = m ∨ ∃ kind, m.settled = m.without kind := by
  unfold settled
  split
  · exact .inr ⟨_, rfl⟩
  · exact .inl rfl

/-- Only a method with two kinds of annotation is changed. -/
theorem settled_eq_self (h : m.kinds.length ≠ 2) : m.settled = m := by
  unfold settled
  split
  · next hkinds => exact absurd (congrArg List.length hkinds) h
  · rfl

/-- What strict mode lets through is settled. -/
theorem HasCompatibleKinds.settled_eq_self (h : m.HasCompatibleKinds true) : m.settled = m := by
  rcases h with hone | ⟨-, hlenient⟩
  · exact Method.settled_eq_self (by omega)
  · cases hlenient

/-- A settled method has the first one of two kinds, and all of one or three. -/
theorem kinds_settled (m : Method) :
    m.settled.kinds = if m.kinds.length = 2 then m.kinds.take 1 else m.kinds := by
  obtain ⟨name, returnType, parameters, message, logMessage, getLogger⟩ := m
  cases message <;> cases logMessage <;> cases getLogger <;> rfl

theorem isAnnotated_settled (m : Method) : m.settled.isAnnotated = m.isAnnotated := by
  rw [Bool.eq_iff_iff, ← not_iff_not, Bool.not_eq_true, Bool.not_eq_true,
    ← kinds_length_eq_zero_iff, ← kinds_length_eq_zero_iff, kinds_settled]
  split
  · next htwo =>
    rw [List.length_take, htwo]
    decide
  · rfl

/-- Without the annotations that do not prevail, strict mode resolves a method as lenient
mode does. With three of them both refuse it. -/
theorem resolve_settled (m : Method) : m.settled.resolve true = m.resolve false := by
  -- once it is known which annotations there are, both sides check the same one, or refuse
  obtain ⟨name, returnType, parameters, message, logMessage, getLogger⟩ := m
  cases message <;> cases logMessage <;> cases getLogger <;> rfl

end Method

/-- The interface with its methods settled. -/
def Interface.settled (i : Interface) : Interface :=
  { i with methods := i.methods.map Method.settled }

/-- The bundle with its methods settled. -/
def Bundle.settled (b : Bundle) : Bundle := { b with methods := b.methods.map Method.settled }

/-- The resolved method, settled. -/
def ResolvedMethod.settled (resolved : ResolvedMethod) : ResolvedMethod :=
  { resolved with method := resolved.method.settled }

/-- Settling leaves a method its annotation, so a bundle keeps its methods. -/
theorem Interface.toBundle?_settled (i : Interface) :
    i.settled.toBundle? = i.toBundle?.map Bundle.settled := by
  have hfilter : (i.methods.map Method.settled).filter Method.isAnnotated =
      (i.methods.filter Method.isAnnotated).map Method.settled := by
    rw [List.filter_map]
    congr 2
    exact funext Method.isAnnotated_settled
  rw [toBundle?, toBundle?, Option.map_map]
  simp only [settled, hfilter]
  rfl

theorem collect_map_settled (interfaces : List Interface) :
    collect (interfaces.map Interface.settled) = (collect interfaces).map Bundle.settled := by
  rw [collect, collect, List.filterMap_map, List.map_filterMap]
  exact List.filterMap_congr fun i _ => i.toBundle?_settled

/-! ### Passes with one outcome -/

/-- The second pass ends as the first one: with the same cause or with what its result is
turned into, and with the same registry. What is recorded on the way may differ. -/
structure Pass.Agrees {α β : Type} (turn : α → β) (p : Pass α) (q : Pass β) : Prop where
  result : q.result = p.result.map turn
  registry : q.registry = p.registry

/-- Passes in a row have one outcome when each two of them have. -/
theorem Pass.Agrees.andThen {α α' β β' γ γ' : Type} {first : α → α'} {second : β → β'}
    {both : γ → γ'} {p : Pass α} {q : Pass α'} {next : Registry → Pass β}
    {next' : Registry → Pass β'} {join : α → β → γ} {join' : α' → β' → γ'}
    (hfirst : p.Agrees first q) (hnext : ∀ registry, (next registry).Agrees second (next' registry))
    (hjoin : ∀ a b, join' (first a) (second b) = both (join a b)) :
    (p.andThen next join).Agrees both (q.andThen next' join') := by
  have hresult := hfirst.result
  cases hp : p.result with
  | error cause =>
    rw [hp] at hresult
    rw [Pass.andThen_of_error hp, Pass.andThen_of_error hresult]
    exact { result := rfl, registry := hfirst.registry }
  | ok value =>
    rw [hp] at hresult
    rw [Pass.andThen_of_ok hp, Pass.andThen_of_ok hresult, hfirst.registry]
    have hlater := hnext p.registry
    refine { result := ?_, registry := hlater.registry }
    simp only [hlater.result]
    cases (next p.registry).result with
    | error cause => rfl
    | ok other => exact congrArg Except.ok (hjoin value other)

/-! ### Settled methods and bundles -/

variable {config : Config}

/-- Admitting a method asks for its annotations through what it is resolved to. -/
theorem agrees_admission {m : Method} {registry : Registry}
    {lenient strict : Pass (Option Resolution)} (hlenient : m.admit false registry = lenient)
    (hstrict : m.settled.admit true registry = strict) : lenient.Agrees id strict := by
  subst hlenient hstrict
  unfold Method.admit
  rw [m.resolve_settled]
  cases m.resolve false with
  | error cause => exact { result := rfl, registry := rfl }
  | ok resolution? =>
    cases resolution? with
    | none => exact { result := rfl, registry := rfl }
    | some resolution =>
      cases hregister : resolution.register registry with
      | error cause =>
        simp only [hregister]
        exact { result := rfl, registry := rfl }
      | ok registry' =>
        simp only [hregister]
        exact { result := rfl, registry := rfl }

/-- Settled methods in a row are admitted in strict mode as the methods are in lenient mode,
up to what is taken off them. -/
theorem agrees_admitAll (ms : List Method) (registry : Registry) :
    (admitAll false ms registry).Agrees (List.map ResolvedMethod.settled)
      (admitAll true (ms.map Method.settled) registry) := by
  induction ms generalizing registry with
  | nil => exact { result := rfl, registry := rfl }
  | cons m rest ih =>
    rw [List.map_cons, admitAll, admitAll]
    -- the registries agree behind each method, and so the rest starts from the same one
    refine (agrees_admission rfl rfl).andThen ih fun resolution? resolved => ?_
    cases resolution? <;> rfl

/-- The source of a method does not name its annotations but what it was resolved to. -/
theorem Resolution.pieces_settled (r : Resolution) (projectCode : String) (m : Method) :
    r.pieces config projectCode m.settled = r.pieces config projectCode m := by
  rcases m.settled_eq_self_or with h | ⟨kind, h⟩
  · rw [h]
  · rw [h]
    cases kind <;> cases r <;> rfl

/-- The unit of a bundle does not depend on annotations that do not prevail. -/
theorem Bundle.render_settled (b : Bundle) (methods : List ResolvedMethod) :
    b.settled.render config (methods.map ResolvedMethod.settled) = b.render config methods := by
  have hmethods : (methods.map ResolvedMethod.settled).flatMap (b.settled.methodPieces config) =
      methods.flatMap (b.methodPieces config) := by
    rw [List.flatMap_map]
    refine List.flatMap_congr fun resolved _ => ?_
    exact congrArg (SourceText.Piece.blank :: ·)
      (resolved.resolution.pieces_settled b.projectCode resolved.method)
  rw [render, render, pieces, pieces, hmethods, List.length_map]
  rfl

/-- Bundles with one name and methods that agree are rendered alike. -/
theorem agrees_renderBundle {config config' : Config} {b b' : Bundle} {registry : Registry}
    {turn : List ResolvedMethod → List ResolvedMethod} (taken : List String)
    (hname : b'.outputName config' = b.outputName config)
    (hmethods : (admitAll config.strictAnnotations b.methods registry).Agrees turn
      (admitAll config'.strictAnnotations b'.methods registry))
    (hrender : ∀ methods, b'.render config' (turn methods) = b.render config methods) :
    (renderBundle config taken b registry).Agrees id (renderBundle config' taken b' registry) := by
  have hresult := hmethods.result
  rw [renderBundle, renderBundle, hname]
  -- the name is asked for first, and is taken for both bundles or for none
  by_cases htaken : taken.contains (b.outputName config) = true
  · rw [if_pos htaken, if_pos htaken]
    exact { result := rfl, registry := rfl }
  rw [if_neg htaken, if_neg htaken]
  cases hadmitted : (admitAll config.strictAnnotations b.methods registry).result with
  | error cause =>
    rw [hadmitted] at hresult
    simp only [hadmitted, hresult]
    exact { result := rfl, registry := hmethods.registry }
  | ok methods =>
    rw [hadmitted] at hresult
    simp only [hadmitted, hresult]
    exact { result := congrArg Except.ok (hrender methods), registry := hmethods.registry }

/-- In strict mode, settled bundles are rendered as the bundles are in lenient mode. -/
theorem agrees_renderBundles (config : Config) (taken : List String) (bundles : List Bundle)
    (registry : Registry) :
    (renderBundles (config.withStrictness false) taken bundles registry).Agrees id
      (renderBundles (config.withStrictness true) taken (bundles.map Bundle.settled) registry) := by
  induction bundles generalizing taken registry with
  | nil => exact { result := rfl, registry := rfl }
  | cons b rest ih =>
    rw [List.map_cons, renderBundles, renderBundles]
    -- neither the mode nor settling changes the name of a bundle
    have hbundle : (renderBundle (config.withStrictness false) taken b registry).Agrees id
        (renderBundle (config.withStrictness true) taken b.settled registry) :=
      agrees_renderBundle taken rfl (agrees_admitAll b.methods registry)
        fun methods => b.render_settled methods
    exact hbundle.andThen (ih _) fun source sources => rfl

/-! ### Settled rounds -/

variable {interfaces : List Interface} {sources : List Source}

/-- In what strict mode accepts, the methods of a bundle have one kind of annotation each. -/
theorem hasCompatibleKinds_of_render
    (h : render (config.withStrictness true) interfaces = .ok sources) :
    ∀ b ∈ collect interfaces, ∀ m ∈ b.methods, m.HasCompatibleKinds true := by
  have hmethods : ∀ i ∈ bundled interfaces, ∀ m ∈ i.methods, m.isAnnotated = true →
      m.HasCompatibleKinds true := fun i hi m hm hannotated =>
    ((acceptable_of_render h).methods i hi m hm hannotated).1
  refine (forall_mem_collect_iff fun i b hb => ?_).mpr hmethods
  rw [methods_toBundle? hb]
  simp only [List.mem_filter, and_imp]

/-- Settling changes nothing in what strict mode accepts. -/
theorem collect_settled_of_render
    (h : render (config.withStrictness true) interfaces = .ok sources) :
    collect (interfaces.map Interface.settled) = collect interfaces := by
  have hbundles : ∀ b ∈ collect interfaces, b.settled = b := by
    intro b hb
    have hmethods : ∀ m ∈ b.methods, m.settled = m := fun m hm =>
      (hasCompatibleKinds_of_render h b hb m hm).settled_eq_self
    rw [Bundle.settled, List.map_congr_left hmethods, List.map_id']
  rw [collect_map_settled]
  exact (List.map_congr_left hbundles).trans (List.map_id' _)

/-- A lenient round is the strict round over settled methods, the units or the cause of
failure with all that it says. What strict mode accepts, lenient mode renders alike. -/
theorem render_lenient_eq_strict_settled (config : Config) (interfaces : List Interface) :
    render (config.withStrictness false) interfaces =
        render (config.withStrictness true) (interfaces.map Interface.settled) ∧
      ∀ sources, render (config.withStrictness true) interfaces = .ok sources →
        render (config.withStrictness false) interfaces = .ok sources := by
  have hsettled : render (config.withStrictness false) interfaces =
      render (config.withStrictness true) (interfaces.map Interface.settled) := by
    have hbundles := (agrees_renderBundles config [] (collect interfaces) .empty).result
    rw [render_eq, render_eq, collect_map_settled, hbundles]
    cases (renderBundles (config.withStrictness false) [] (collect interfaces) .empty).result with
    | error cause => rfl
    | ok sources => rfl
  refine ⟨hsettled, fun sources hsources => ?_⟩
  -- what strict mode accepts is settled already, and a round looks only at what it collects
  rw [hsettled, render_eq, collect_settled_of_render hsources, ← render_eq, hsources]

/-- A bundle whose method returns a message and logs one, which has the same number and could
not be logged: its template dangles and its level names no severity. -/
def overlappingBundle : List Interface :=
  [{ name := "a.A"
     projectCode := some "A"
     methods :=
       [{ name := "m"
          returnType := "String"
          message := some ⟨1, "x"⟩
          logMessage := some ⟨1, "y\\", "loud"⟩ }] }]

/-- The overlap in front of a bundle with a message of the same number. -/
def repeatingBundles : List Interface :=
  overlappingBundle ++
    [{ name := "a.B"
       projectCode := some "B"
       methods := [{ name := "n", returnType := "String", message := some ⟨1, "z"⟩ }] }]

/-- The overlap is rendered as what prevails in it, by itself the first of two bundles. In front
of a bundle with a message of the same number, the round fails for this number, and not for
what the overlap lost. Two bundles without an overlap are rendered in both modes. -/
theorem render_lenient_eq_strict_overlapping :
    (render (Config.withStrictness {} false) overlappingBundle = .ok [firstUnit] ∧
        render (Config.withStrictness {} true) (overlappingBundle.map Interface.settled) =
          .ok [firstUnit]) ∧
      (render (Config.withStrictness {} false) repeatingBundles =
          .error (.duplicateMessageId 1 "z" "x") ∧
        render (Config.withStrictness {} true) (repeatingBundles.map Interface.settled) =
          .error (.duplicateMessageId 1 "z" "x")) ∧
      ∃ sources, render (Config.withStrictness {} true) twoBundles = .ok sources ∧
        render (Config.withStrictness {} false) twoBundles = .ok sources := by
  have hsettled : overlappingBundle.map Interface.settled = [twoBundles[0]] := by decide
  have hstrict : render (Config.withStrictness {} true) (overlappingBundle.map Interface.settled) =
      .ok [firstUnit] := by
    rw [hsettled]
    exact render_first_of_two
  have hrepeating : render (Config.withStrictness {} false) repeatingBundles =
      .error (.duplicateMessageId 1 "z" "x") := by decide
  have htwo : ∃ sources, render (Config.withStrictness {} true) twoBundles = .ok sources :=
    ⟨_, rfl⟩
  obtain ⟨sources, htwo⟩ := htwo
  have hoverlap := (render_lenient_eq_strict_settled {} overlappingBundle).1
  have hrepeats := (render_lenient_eq_strict_settled {} repeatingBundles).1
  have hlenient := (render_lenient_eq_strict_settled {} twoBundles).2 sources htwo
  exact ⟨⟨hoverlap.trans hstrict, hstrict⟩, ⟨hrepeating, hrepeats.symm.trans hrepeating⟩,
    sources, htwo, hlenient⟩

end MessageBundle

import MessageBundle.Proofs.Round.FirstFault

/-!
# Methods that share one registry

Methods can be admitted to one registry one after another, each in strict mode or not, and
one that is refused does not keep later ones from being admitted. The registry behind them
holds the numbers of those that were resolved to a message, each with the template of its
method, and nothing else. The number is looked up behind all other checks and is the only
thing that is ever put down, so this is a matter of one step; the rest is joining steps.

## Main definitions

* `Registry.Gains` — numbers are registered beside those of before
* `Candidate`, `admitEach` — methods admitted one after another, also behind refused ones
* `registered?` — what a result has registered

## Main results

* `Method.admission_cases` — what admitting a method answers and what it does to the registry
* `Method.admission_eq_duplicate_iff` — when a number is refused
* `gains_admitEach` — what methods in a row register, whatever becomes of each
* `exists_refused_of_admitAll` — what is registered when the methods of a bundle fail
* `registry_exact` — the registry behind any calls, and what the next one does
-/

namespace MessageBundle

/-! ### Numbers gained by a registry -/

namespace Registry

/-- The numbers are registered with their templates beside what was registered before, and
nothing else is changed. -/
structure Gains (entries : List (MessageId × String)) (r r' : Registry) : Prop where
  /-- The numbers were free. -/
  fresh : ∀ entry ∈ entries, r.get? entry.1 = none
  /-- No number is gained twice. -/
  distinct : (entries.map Prod.fst).Nodup
  /-- A number has its template from before, or the one it is gained with. -/
  get?_iff : ∀ id template,
    r'.get? id = some template ↔ r.get? id = some template ∨ (id, template) ∈ entries
  /-- There are as many numbers more. -/
  size : r'.size = r.size + entries.length

variable {r r' r'' : Registry} {first second : List (MessageId × String)}

theorem Gains.nil (r : Registry) : Gains [] r r where
  fresh := nofun
  distinct := List.nodup_nil
  get?_iff := by simp
  size := rfl

theorem gains_of_register {id : MessageId} {template : String}
    (h : r.register id template = .ok r') : Gains [(id, template)] r r' := by
  obtain ⟨hfree, hr'⟩ := register_eq_ok_iff.mp h
  refine { fresh := ?_, distinct := List.nodup_singleton _, get?_iff := ?_, size := ?_ }
  · rw [List.forall_mem_singleton]
    exact hfree
  · intro other text
    rw [List.mem_singleton, Prod.mk.injEq]
    by_cases hid : other = id
    · subst hid
      rw [get?_of_register h, hfree]
      simp [eq_comm]
    · rw [get?_of_register_ne h hid]
      simp [hid]
  · rw [hr']
    rfl

/-- What is gained first and what is gained from there is gained together. -/
theorem Gains.trans (h : Gains first r r') (h' : Gains second r' r'') :
    Gains (first ++ second) r r'' := by
  -- what is gained later was free at first, and is not among what was gained first
  have hfree : ∀ entry ∈ second, r.get? entry.1 = none ∧ entry.1 ∉ first.map Prod.fst := by
    intro entry hentry
    have hnone := h'.fresh entry hentry
    constructor
    · rw [Option.eq_none_iff_forall_ne_some]
      intro template hold
      rw [(h.get?_iff entry.1 template).mpr (.inl hold)] at hnone
      cases hnone
    · intro hmem
      obtain ⟨⟨_, template⟩, hother, rfl⟩ := List.mem_map.mp hmem
      rw [(h.get?_iff entry.1 template).mpr (.inr hother)] at hnone
      cases hnone
  refine { fresh := ?_, distinct := ?_, get?_iff := ?_, size := ?_ }
  · rw [List.forall_mem_append]
    exact ⟨h.fresh, fun entry hentry => (hfree entry hentry).1⟩
  · rw [List.map_append, List.nodup_append']
    refine ⟨h.distinct, h'.distinct, fun id hid hid' => ?_⟩
    obtain ⟨entry, hentry, rfl⟩ := List.mem_map.mp hid'
    exact (hfree entry hentry).2 hid
  · intro id template
    rw [h'.get?_iff, h.get?_iff, List.mem_append, or_assoc]
  · rw [h'.size, h.size, List.length_append, Nat.add_assoc]

end Registry

/-! ### One method -/

/-- What a result has registered: the number and the template of a message. -/
def registered? : Except GenerationError (Option Resolution) → Option (MessageId × String)
  | .ok (some r) => r.registration?
  | _ => none

section Step

variable {strict : Bool} {m : Method} {resolution : Resolution} {registry registry' : Registry}
  {id : MessageId} {template previous : String} {cause : GenerationError}

/-- A resolution registers what it declares; one without a number registers nothing. -/
theorem Resolution.gains_of_register (h : resolution.register registry = .ok registry') :
    Registry.Gains resolution.registration?.toList registry registry' := by
  rw [register] at h
  cases hentry : resolution.registration? with
  | none =>
    rw [hentry] at h
    cases h
    exact .nil registry
  | some entry =>
    rw [hentry] at h
    exact Registry.gains_of_register h

theorem Resolution.register_eq_error_iff :
    resolution.register registry = .error cause ↔
      ∃ id template previous, resolution.registration? = some (id, template) ∧
        registry.get? id = some previous ∧ cause = .duplicateMessageId id template previous := by
  rw [register]
  cases hentry : resolution.registration? with
  | none => simp
  | some entry =>
    rcases entry with ⟨id, template⟩
    simp [Registry.register_eq_error_iff]

theorem Resolution.exists_register_eq_ok_iff :
    (∃ registry', resolution.register registry = .ok registry') ↔
      ∀ entry ∈ resolution.registration?, registry.get? entry.1 = none := by
  rw [register]
  cases hentry : resolution.registration? with
  | none => simp
  | some entry => simp [Registry.register_eq_ok_iff]

namespace Method

/-- A method is resolved when its kinds go together and it has the shape asked for. -/
theorem resolve_eq_some_iff_compatible :
    m.resolve strict = .ok (some resolution) ↔
      m.HasCompatibleKinds strict ∧ m.ResolvesTo resolution := by
  rw [resolve_eq_some_iff]
  refine and_congr_left fun hshape => ?_
  rw [hasCompatibleKinds_iff hshape.isAnnotated]

/-- The kinds and the shape of a method are never refused as a number that is taken. -/
theorem resolve_ne_duplicate :
    m.resolve strict ≠ .error (.duplicateMessageId id template previous) := by
  intro h
  have hfault := faultOf_resolve strict m []
  rw [h] at hfault
  obtain ⟨passed, check, later, hplace, -, hcheck⟩ := firstFault?_eq_some_iff.mp hfault.symm
  obtain rfl := eq_newNumber_of_fault? hcheck
  have hmem : .newNumber id template ∈ passed ++ .newNumber id template :: later :=
    List.mem_append_right passed List.mem_cons_self
  rw [← hplace] at hmem
  exact newNumber_not_mem_shapeChecks hmem

section Admission

variable {pass : Pass (Option Resolution)} (hpass : m.admit strict registry = pass)

include hpass

/-- Admitting a method: it is refused for its kinds or its shape, it has no annotation, its
number is refused, or it is resolved and its number registered. Only the last one changes
the registry. -/
theorem admission_cases :
    (∃ cause, m.resolve strict = .error cause ∧ pass.result = .error cause ∧
        pass.registry = registry) ∨
      (m.resolve strict = .ok none ∧ pass.result = .ok none ∧ pass.registry = registry) ∨
      (∃ resolution cause, m.resolve strict = .ok (some resolution) ∧
        resolution.register registry = .error cause ∧ pass.result = .error cause ∧
        pass.registry = registry) ∨
      ∃ resolution registry', m.resolve strict = .ok (some resolution) ∧
        resolution.register registry = .ok registry' ∧ pass.result = .ok (some resolution) ∧
        pass.registry = registry' := by
  subst hpass
  unfold Method.admit
  cases hresolve : m.resolve strict with
  | error cause => exact .inl ⟨cause, rfl, rfl, rfl⟩
  | ok resolution? =>
    cases resolution? with
    | none => exact .inr (.inl ⟨rfl, rfl, rfl⟩)
    | some resolution =>
      cases hregister : resolution.register registry with
      | error cause =>
        exact .inr (.inr (.inl ⟨resolution, cause, rfl, hregister, by simp only [hregister],
          by simp only [hregister]⟩))
      | ok registry' =>
        exact .inr (.inr (.inr ⟨resolution, registry', rfl, hregister, by simp only [hregister],
          by simp only [hregister]⟩))

/-- Admitting a method registers what its result says. -/
theorem gains_admission :
    Registry.Gains (registered? pass.result).toList registry pass.registry := by
  rcases admission_cases hpass with ⟨cause, -, hresult, hsame⟩ | ⟨-, hresult, hsame⟩ |
    ⟨_, cause, -, -, hresult, hsame⟩ | ⟨resolution, registry', -, hregister, hresult, hsame⟩
  · rw [hresult, hsame]
    exact .nil registry
  · rw [hresult, hsame]
    exact .nil registry
  · rw [hresult, hsame]
    exact .nil registry
  · rw [hresult, hsame]
    exact resolution.gains_of_register hregister

/-- A method whose result is no message leaves the registry as it is. -/
theorem registry_eq_of_registered?_eq_none (h : registered? pass.result = none) :
    pass.registry = registry := by
  rcases admission_cases hpass with ⟨_, -, -, hsame⟩ | ⟨-, -, hsame⟩ |
    ⟨_, _, -, -, -, hsame⟩ | ⟨resolution, registry', -, hregister, hresult, hsame⟩
  · exact hsame
  · exact hsame
  · exact hsame
  · rw [hresult, registered?] at h
    rw [Resolution.register, h] at hregister
    rw [hsame, ← Except.ok.inj hregister]

/-- A method that is not refused registers what its prevailing annotation declares. -/
theorem registered?_of_admission {resolution? : Option Resolution}
    (h : pass.result = .ok resolution?) :
    registered? (.ok resolution?) = m.registration? := by
  rcases admission_cases hpass with ⟨_, -, hresult, -⟩ | ⟨hresolve, hresult, -⟩ |
    ⟨_, _, -, -, hresult, -⟩ | ⟨resolution, _, hresolve, -, hresult, -⟩
  · cases hresult.symm.trans h
  · obtain rfl := Except.ok.inj (hresult.symm.trans h)
    have hplain := isAnnotated_of_resolve_eq_none hresolve
    exact (registration?_eq_none_of_not_isAnnotated hplain).symm
  · cases hresult.symm.trans h
  · obtain rfl := Except.ok.inj (hresult.symm.trans h)
    exact (resolve_eq_some_iff.mp hresolve).2.registration?_eq

/-- A method is admitted as what its shape asks for, when its kinds go together and its
number, if it has one, is free. -/
theorem admission_eq_some_iff :
    pass.result = .ok (some resolution) ↔
      m.HasCompatibleKinds strict ∧ m.ResolvesTo resolution ∧
        ∀ entry ∈ resolution.registration?, registry.get? entry.1 = none := by
  rw [← and_assoc, ← resolve_eq_some_iff_compatible, ← Resolution.exists_register_eq_ok_iff]
  rcases admission_cases hpass with ⟨_, hresolve, hresult, -⟩ | ⟨hresolve, hresult, -⟩ |
    ⟨other, cause, hresolve, hregister, hresult, -⟩ |
    ⟨other, registry', hresolve, hregister, hresult, -⟩
  · simp [hresolve, hresult]
  · simp [hresolve, hresult]
  · simp only [hresolve, hresult, Except.ok.injEq, Option.some.injEq, reduceCtorEq, false_iff]
    rintro ⟨rfl, registry', hok⟩
    rw [hregister] at hok
    cases hok
  · simp only [hresolve, hresult, Except.ok.injEq, Option.some.injEq, iff_self_and]
    rintro rfl
    exact ⟨registry', hregister⟩

/-- The number of a method is refused when everything else about the method passes and the
number is taken, with the template it is taken with. -/
theorem admission_eq_duplicate_iff :
    pass.result = .error (.duplicateMessageId id template previous) ↔
      m.HasCompatibleKinds strict ∧ m.Declares id template ∧
        registry.get? id = some previous := by
  constructor
  · intro h
    rcases admission_cases hpass with ⟨cause, hresolve, hresult, -⟩ | ⟨-, hresult, -⟩ |
      ⟨resolution, cause, hresolve, hregister, hresult, -⟩ | ⟨_, _, -, -, hresult, -⟩
    · rw [Except.error.inj (hresult.symm.trans h)] at hresolve
      exact absurd hresolve resolve_ne_duplicate
    · cases hresult.symm.trans h
    · rw [Except.error.inj (hresult.symm.trans h), Resolution.register_eq_error_iff] at hregister
      obtain ⟨_, _, _, hentry, htaken, hcause⟩ := hregister
      cases hcause
      obtain ⟨hcompatible, hshape⟩ := resolve_eq_some_iff_compatible.mp hresolve
      exact ⟨hcompatible, ⟨resolution, hshape, hentry⟩, htaken⟩
    · cases hresult.symm.trans h
  · rintro ⟨hcompatible, ⟨resolution, hshape, hentry⟩, htaken⟩
    have hresolve := resolve_eq_some_iff_compatible.mpr ⟨hcompatible, hshape⟩
    have hregister := Resolution.register_eq_error_iff.mpr
      ⟨id, template, previous, hentry, htaken, rfl⟩
    subst hpass
    unfold Method.admit
    simp only [hresolve, hregister]

end Admission

end Method

end Step

/-! ### Methods one after another -/

/-- A method that is to be admitted, and whether overlapping annotations are refused. -/
structure Candidate where
  strict : Bool
  method : Method

/-- Methods admitted to one registry one after another, also behind ones that are refused:
their results, and the registry behind them. -/
def admitEach :
    List Candidate → Registry → List (Except GenerationError (Option Resolution)) × Registry
  | [], registry => ([], registry)
  | candidate :: rest, registry =>
    let pass := candidate.method.admit candidate.strict registry
    let later := admitEach rest pass.registry
    (pass.result :: later.1, later.2)

theorem filterMap_cons_eq_append {α β : Type} (f : α → Option β) (a : α) (l : List α) :
    (a :: l).filterMap f = (f a).toList ++ l.filterMap f := by
  rw [List.filterMap_eq_flatMap_toList, List.flatMap_cons, ← List.filterMap_eq_flatMap_toList]

/-- Methods one after another register what their results say. -/
theorem gains_admitEach (candidates : List Candidate) (registry : Registry) :
    Registry.Gains ((admitEach candidates registry).1.filterMap registered?) registry
      (admitEach candidates registry).2 := by
  induction candidates generalizing registry with
  | nil => exact .nil registry
  | cons candidate rest ih =>
    rw [admitEach, filterMap_cons_eq_append]
    exact (Method.gains_admission rfl).trans (ih _)

section Bundle

variable {strict : Bool} {registry : Registry} {resolved : List ResolvedMethod}
  {cause : GenerationError} {ms : List Method}

/-- Methods that are all admitted register the numbers that they declare. -/
theorem gains_admitAll (h : (admitAll strict ms registry).result = .ok resolved) :
    Registry.Gains (ms.filterMap Method.registration?) registry
      (admitAll strict ms registry).registry := by
  induction ms generalizing registry resolved with
  | nil => exact .nil registry
  | cons m rest ih =>
    rw [admitAll] at h ⊢
    generalize hpass : m.admit strict registry = pass at h ⊢
    cases hfirst : pass.result with
    | error cause =>
      rw [Pass.andThen_of_error hfirst] at h
      cases h
    | ok resolution? =>
      rw [Pass.andThen_of_ok hfirst] at h ⊢
      obtain ⟨others, hothers, -⟩ := exists_of_map_eq_ok h
      have hgains := Method.gains_admission hpass
      rw [hfirst, Method.registered?_of_admission hpass hfirst] at hgains
      rw [filterMap_cons_eq_append]
      exact hgains.trans (ih hothers)

/-- When methods in a row fail, there is a first one that is refused; the ones before it are
all admitted, and it leaves the registry as they did. -/
theorem exists_refused_of_admitAll (h : (admitAll strict ms registry).result = .error cause) :
    ∃ before refused rest resolved pass, ms = before ++ refused :: rest ∧
      (admitAll strict before registry).result = .ok resolved ∧
      refused.admit strict (admitAll strict before registry).registry = pass ∧
      pass.result = .error cause ∧
      (admitAll strict ms registry).registry = (admitAll strict before registry).registry := by
  induction ms generalizing registry with
  | nil => cases h
  | cons m rest ih =>
    rw [admitAll] at h ⊢
    generalize hpass : m.admit strict registry = pass at h ⊢
    cases hfirst : pass.result with
    | error other =>
      rw [Pass.andThen_of_error hfirst] at h ⊢
      obtain rfl := Except.error.inj h
      have hnothing : registered? pass.result = none := by
        rw [hfirst]
        rfl
      exact ⟨[], m, rest, [], pass, rfl, rfl, hpass, hfirst,
        Method.registry_eq_of_registered?_eq_none hpass hnothing⟩
    | ok resolution? =>
      rw [Pass.andThen_of_ok hfirst] at h ⊢
      obtain ⟨before, refused, others, resolved, refusal, rfl, hbefore, hrefusal, hrefused,
        hsame⟩ := ih (error_of_map_eq_error h)
      -- the first method joins the ones before the refused one
      have hjoined : admitAll strict (m :: before) registry =
          pass.andThen (admitAll strict before) fun resolution? resolved =>
            (resolution?.map fun resolution => ⟨m, resolution⟩).toList ++ resolved := by
        rw [admitAll, hpass]
      rw [Pass.andThen_of_ok hfirst, hbefore] at hjoined
      refine ⟨m :: before, refused, others, _, refusal, rfl, congrArg Pass.result hjoined, ?_,
        hrefused, ?_⟩
      · rw [hjoined]
        exact hrefusal
      · rw [hjoined]
        exact hsame

end Bundle

/-! ### The registry behind calls -/

/-- Behind methods that were admitted one after another, each in strict mode or not, the
registry holds exactly the numbers of those that came out as messages, each with its
template, and each number came out once. The next method changes nothing unless it comes
out as a message too; it comes out as its shape asks for when nothing is wrong with it and
its number is free, and it is refused for its number exactly when nothing else is wrong with
it and the number is taken. Methods of a bundle that fail in any registry leave what the
ones before the refused one declare, beside what was registered before. -/
theorem registry_exact (candidates : List Candidate) (candidate : Candidate) :
    let results := (admitEach candidates .empty).1
    let registry := (admitEach candidates .empty).2
    let pass := candidate.method.admit candidate.strict registry
    ((∀ id template, registry.get? id = some template ↔
          (id, template) ∈ results.filterMap registered?) ∧
        ((results.filterMap registered?).map Prod.fst).Nodup) ∧
      (registered? pass.result = none → pass.registry = registry) ∧
      (∀ resolution, pass.result = .ok (some resolution) ↔
        candidate.method.HasCompatibleKinds candidate.strict ∧
          candidate.method.ResolvesTo resolution ∧
            ∀ entry ∈ resolution.registration?, registry.get? entry.1 = none) ∧
      (∀ id template previous,
        pass.result = .error (.duplicateMessageId id template previous) ↔
          candidate.method.HasCompatibleKinds candidate.strict ∧
            candidate.method.Declares id template ∧ registry.get? id = some previous) ∧
      ∀ strict (b : Bundle) (start : Registry) cause,
        (admitAll strict b.methods start).result = .error cause →
          ∃ before refused rest resolved refusal, b.methods = before ++ refused :: rest ∧
            (admitAll strict before start).result = .ok resolved ∧
            refused.admit strict (admitAll strict before start).registry = refusal ∧
            refusal.result = .error cause ∧
            Registry.Gains (before.filterMap Method.registration?) start
              (admitAll strict b.methods start).registry := by
  intro results registry pass
  have hgains := gains_admitEach candidates .empty
  refine ⟨⟨fun id template => ?_, hgains.distinct⟩,
    Method.registry_eq_of_registered?_eq_none rfl, fun _ => Method.admission_eq_some_iff rfl,
    fun _ _ _ => Method.admission_eq_duplicate_iff rfl, ?_⟩
  · have hempty : Registry.empty.get? id ≠ some template := nofun
    rw [hgains.get?_iff]
    exact or_iff_right hempty
  · intro strict b start cause hcause
    obtain ⟨before, refused, rest, resolved, refusal, hplace, hbefore, hrefusal, hrefused, hsame⟩ :=
      exists_refused_of_admitAll hcause
    refine ⟨before, refused, rest, resolved, refusal, hplace, hbefore, hrefusal, hrefused, ?_⟩
    rw [hsame]
    exact gains_admitAll hbefore

/-- Two methods with one number: behind the first one, its template is registered, the
second is refused with it, and a bundle of both leaves the registry that the first leaves. -/
theorem registry_exact_repeated_number :
    let first : Method := { name := "first", returnType := "String", message := some ⟨7, "x"⟩ }
    let second : Method := { name := "second", logMessage := some ⟨7, "y", "warn"⟩ }
    let registry := (admitEach [⟨true, first⟩] .empty).2
    let pass := second.admit false registry
    registry.get? 7 = some "x" ∧ pass.result = .error (.duplicateMessageId 7 "y" "x") ∧
      pass.registry = registry ∧
      Registry.Gains [(7, "x")] .empty
        (admitAll true [first, second] .empty).registry := by
  intro first second registry pass
  obtain ⟨⟨hholds, -⟩, hnothing, -, hduplicate, hbundle⟩ :=
    registry_exact [⟨true, first⟩] ⟨false, second⟩
  have hfirst : registry.get? 7 = some "x" := (hholds 7 "x").mpr (by decide)
  have hsecond : second.HasCompatibleKinds false ∧ second.ResolvesTo (.logMessage 7 "y" .warn) :=
    Method.resolve_eq_some_iff_compatible.mp (by decide)
  have hrefused := (hduplicate 7 "y" "x").mpr ⟨hsecond.1, ⟨_, hsecond.2, rfl⟩, hfirst⟩
  refine ⟨hfirst, hrefused, hnothing (by rw [hrefused]; rfl), ?_⟩
  obtain ⟨before, refused, rest, resolved, refusal, hplace, -, hrefusal, hcause, hgains⟩ :=
    hbundle true ⟨"a.B", "a", "B", [first, second]⟩ .empty (.duplicateMessageId 7 "y" "x")
      (by decide)
  match before with
  | [] =>
    cases hplace
    subst hrefusal
    exact absurd hcause (by decide)
  | [_] =>
    cases hplace
    exact hgains
  | _ :: _ :: _ => simp at hplace

end MessageBundle

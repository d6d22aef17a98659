import MessageBundle.Proofs.Round.Acceptance

/-!
# The fault that a failed round reports

A round reports the first of its checks that fails. The list of checks is in the order
of the declarations, so this says which of several faults is reported, whatever their
kinds. When a number is declared twice, the report names the template of the method
that declares it again and the template of the one method that declared it before.

## Main definitions

* `AllPass` — checks made one after another all pass
* `roundMethods` — the annotated methods of a round, bundle after bundle
* `Method.Declares` — a method is resolved to a message with a number and a template
* `RepeatsNumber` — a method declares a number that exactly one method before it has

## Main results

* `allPass_iff` — all checks pass when there is no first fault
* `exists_method_of_newNumber` — the method whose number is asked for at a place among
  the checks, with what is asked before it
* `repeatsNumber_of_fault?` — what a number refused behind passed checks tells
* `render_error_iff_first_fault` — a round fails with the first fault among its checks
-/

namespace MessageBundle

/-- Checks made one after another all pass. -/
def AllPass (strict : Bool) (checks : List Check) : Prop :=
  ∀ earlier check later, checks = earlier ++ check :: later → check.fault? strict earlier = none

/-- The annotated methods of a round, bundle after bundle. -/
def roundMethods (interfaces : List Interface) : List Method :=
  (collect interfaces).flatMap Bundle.methods

/-- The method is resolved to a message with the number and the template. -/
def Method.Declares (m : Method) (id : MessageId) (template : String) : Prop :=
  ∃ r, m.ResolvesTo r ∧ r.registration? = some (id, template)

/-- The method declares a number with a template, and exactly one of the methods before
it has the number, with the template `previous`. -/
def RepeatsNumber (earlier : List Method) (m : Method) (id : MessageId)
    (template previous : String) : Prop :=
  m.Declares id template ∧
    ∃ before first between, earlier = before ++ first :: between ∧ first.Declares id previous ∧
      ∀ other ∈ before ++ between, other.number? ≠ some id

theorem allPass_iff {strict : Bool} {passed : List Check} :
    AllPass strict passed ↔ firstFault? strict [] passed = none := by
  constructor
  · intro hpass
    cases hfirst : firstFault? strict [] passed with
    | none => rfl
    | some cause =>
      obtain ⟨earlier, check, later, hplace, -, hfault⟩ := firstFault?_eq_some_iff.mp hfirst
      rw [List.nil_append, hpass earlier check later hplace] at hfault
      cases hfault
  · rintro hnone earlier check later rfl
    rw [firstFault?_append, firstFault?, Option.or_eq_none_iff, Option.or_eq_none_iff,
      List.nil_append] at hnone
    exact hnone.2.1

/-! ### The place of a number among the checks -/

section Place

variable {config : Config} {interfaces : List Interface} {passed later : List Check}
  {id : MessageId} {template previous : String} {m : Method}

theorem exists_of_flatMap_eq_append_cons {α β : Type} {f : α → List β} {l : List α}
    {before after : List β} {b : β} (h : l.flatMap f = before ++ b :: after) :
    ∃ l₁ a l₂ before' after', l = l₁ ++ a :: l₂ ∧ f a = before' ++ b :: after' ∧
      before = l₁.flatMap f ++ before' := by
  induction l generalizing before with
  | nil => simp at h
  | cons a l ih =>
    rw [List.flatMap_cons, List.append_eq_append_iff] at h
    rcases h with ⟨before', rfl, hrest⟩ | ⟨tail, hhead, htail⟩
    · obtain ⟨l₁, a', l₂, before'', after', rfl, hplace, rfl⟩ := ih hrest
      exact ⟨a :: l₁, a', l₂, before'', after', rfl, hplace, by
        rw [List.flatMap_cons, List.append_assoc]⟩
    · cases tail with
      | nil =>
        -- the first piece ends right before the element
        obtain ⟨l₁, a', l₂, before', after', rfl, hplace, hbefore⟩ :=
          @ih [] htail.symm
        refine ⟨a :: l₁, a', l₂, before', after', rfl, hplace, ?_⟩
        rw [List.flatMap_cons, List.append_assoc, ← hbefore, hhead, List.append_nil,
          List.append_nil]
      | cons head tail =>
        obtain ⟨rfl, rfl⟩ := List.cons.inj htail
        exact ⟨[], a, l, before, tail, rfl, hhead, rfl⟩

theorem newNumber_not_mem_shapeChecks :
    Check.newNumber id template ∉ .compatibleKinds m :: m.shapeChecks := by
  intro hmem
  have hnone := List.filterMap_eq_nil_iff.mp (registration?_shapeChecks m) _ hmem
  cases hnone

/-- The number of a method is asked for last, behind its kinds and its shape. -/
theorem eq_of_methodChecks_eq (h : m.checks = passed ++ .newNumber id template :: later) :
    m.registration? = some (id, template) ∧ passed = .compatibleKinds m :: m.shapeChecks := by
  rw [Method.checks, Method.numberChecks] at h
  cases hentry : m.registration? with
  | none =>
    rw [hentry, List.append_nil] at h
    exact absurd (h ▸ List.mem_append_right passed List.mem_cons_self)
      (@newNumber_not_mem_shapeChecks id template m)
  | some entry =>
    rw [hentry, List.append_eq_append_iff] at h
    rcases h with ⟨rest, rfl, hnumber⟩ | ⟨rest, hshape, hnumber⟩
    · cases rest with
      | nil =>
        obtain ⟨⟨rfl, rfl⟩, -⟩ := by simpa using hnumber
        exact ⟨rfl, List.append_nil _⟩
      | cons head rest => simp at hnumber
    · cases rest with
      | nil =>
        obtain ⟨⟨rfl, rfl⟩, -⟩ := by simpa using hnumber
        exact ⟨rfl, by rw [hshape, List.append_nil]⟩
      | cons head rest =>
        obtain ⟨rfl, -⟩ := List.cons.inj hnumber
        have hmem : .newNumber id template ∈ passed ++ .newNumber id template :: rest :=
          List.mem_append_right passed List.mem_cons_self
        rw [← hshape] at hmem
        exact absurd hmem newNumber_not_mem_shapeChecks

theorem registration?_bundlesChecks (config : Config) (bundles : List Bundle) :
    (bundles.flatMap (Bundle.checks config)).filterMap Check.registration? =
      (bundles.flatMap Bundle.methods).filterMap Method.registration? := by
  simp only [List.filterMap_flatMap, registration?_bundleChecks]

theorem methodChecks_subset {b : Bundle} (h : m ∈ b.methods) : m.checks ⊆ b.checks config := by
  intro check hcheck
  exact List.mem_cons_of_mem _ (List.mem_flatMap.mpr ⟨m, h, hcheck⟩)

/-- The method whose number is asked for at a place among the checks of a round. All that
is asked of the methods before it is asked before, and so are its kinds and its shape; no
other number is. -/
theorem exists_method_of_newNumber
    (h : checks config interfaces = passed ++ .newNumber id template :: later) :
    ∃ earlier m after, roundMethods interfaces = earlier ++ m :: after ∧
      m.registration? = some (id, template) ∧
      passed.filterMap Check.registration? = earlier.filterMap Method.registration? ∧
      (∀ other ∈ earlier, other.checks ⊆ passed) ∧
      .compatibleKinds m :: m.shapeChecks ⊆ passed := by
  obtain ⟨bundles, b, others, inBundle, after, hbundles, hbundle, rfl⟩ :=
    exists_of_flatMap_eq_append_cons h
  rw [Bundle.checks, List.cons_eq_append_iff] at hbundle
  -- a bundle begins with its output name, so the number belongs to one of its methods
  rcases hbundle with ⟨-, hname⟩ | ⟨inMethods, rfl, hmethods⟩
  · cases hname
  obtain ⟨methods, m, rest, inMethod, after', hm, hmethod, rfl⟩ :=
    exists_of_flatMap_eq_append_cons hmethods
  obtain ⟨hentry, rfl⟩ := eq_of_methodChecks_eq hmethod
  refine ⟨bundles.flatMap Bundle.methods ++ methods, m,
    rest ++ others.flatMap Bundle.methods, ?_, hentry, ?_, ?_, ?_⟩
  · rw [roundMethods, hbundles, List.flatMap_append, List.flatMap_cons, hm]
    simp
  · rw [List.filterMap_append, List.filterMap_cons_none rfl, List.filterMap_append,
      registration?_bundlesChecks, registration?_methodsChecks, registration?_shapeChecks,
      List.append_nil, List.filterMap_append]
  · intro other hother check hcheck
    rw [List.mem_append, List.mem_cons, List.mem_append]
    rcases List.mem_append.mp hother with hbefore | hinside
    · obtain ⟨b', hb', hmember⟩ := List.mem_flatMap.mp hbefore
      exact .inl (List.mem_flatMap.mpr ⟨b', hb', methodChecks_subset hmember hcheck⟩)
    · exact .inr (.inr (.inl (List.mem_flatMap.mpr ⟨other, hinside, hcheck⟩)))
  · intro check hcheck
    rw [List.mem_append, List.mem_cons, List.mem_append]
    exact .inr (.inr (.inr hcheck))

/-! ### The numbers before a refused one -/

theorem Method.declares_of_passes {strict : Bool} (hentry : m.registration? = some (id, template))
    (hpasses : ∀ check ∈ m.checks, check.fault? strict [] = none) : m.Declares id template := by
  have hannotated : m.isAnnotated = true := by
    rw [← Bool.not_eq_false]
    intro hplain
    rw [registration?_eq_none_of_not_isAnnotated hplain] at hentry
    cases hentry
  obtain ⟨-, r, hshape⟩ := passes_methodChecks_iff.mp hpasses hannotated
  exact ⟨r, hshape, hshape.registration?_eq.trans hentry⟩

/-- Where the numbers of methods are pairwise distinct, the one a lookup finds belongs to
one method only. -/
theorem exists_unique_method_of_lookup {earlier : List Method}
    (hdistinct : (earlier.filterMap Method.number?).Nodup)
    (hlookup : (earlier.filterMap Method.registration?).reverse.lookup id = some previous) :
    ∃ before first between, earlier = before ++ first :: between ∧
      first.registration? = some (id, previous) ∧
        ∀ other ∈ before ++ between, other.number? ≠ some id := by
  obtain ⟨later, sooner, hplace, -⟩ := List.lookup_eq_some_iff.mp hlookup
  have hmem : (id, previous) ∈ earlier.filterMap Method.registration? := by
    rw [← List.mem_reverse, hplace]
    exact List.mem_append_right later List.mem_cons_self
  obtain ⟨first, hfirst, hentry⟩ := List.mem_filterMap.mp hmem
  obtain ⟨before, between, rfl⟩ := List.append_of_mem hfirst
  refine ⟨before, first, between, rfl, hentry, ?_⟩
  -- any other method with the number would make it stand twice
  have hnumber : first.number? = some id := by rw [Method.number?, hentry]; rfl
  intro other hother hsame
  rw [List.filterMap_append, List.filterMap_cons_some hnumber, List.nodup_middle,
    List.nodup_cons, ← List.filterMap_append] at hdistinct
  exact hdistinct.1 (List.mem_filterMap.mpr ⟨other, hother, hsame⟩)

/-- A number that is refused behind passed checks belongs to a method that repeats it. -/
theorem repeatsNumber_of_fault? {strict : Bool}
    (h : checks config interfaces = passed ++ .newNumber id template :: later)
    (hpass : AllPass strict passed)
    (hfault : (Check.newNumber id template).fault? strict passed =
      some (.duplicateMessageId id template previous)) :
    ∃ earlier m after, roundMethods interfaces = earlier ++ m :: after ∧
      RepeatsNumber earlier m id template previous := by
  obtain ⟨earlier, m, after, hplace, hentry, hnumbers, hearlier, hshape⟩ :=
    exists_method_of_newNumber h
  obtain ⟨hpasses, -, hdistinct⟩ := firstFault?_eq_none_iff.mp (allPass_iff.mp hpass)
  -- behind passed checks the numbers are those of the methods before, each once
  have hlookup : (earlier.filterMap Method.registration?).reverse.lookup id = some previous := by
    obtain ⟨found, hfound, hcause⟩ := Option.map_eq_some_iff.mp hfault
    cases hcause
    rw [← hnumbers, hfound]
  have hnodup : (earlier.filterMap Method.number?).Nodup := by
    rw [numbers_eq_map, hnumbers, List.map_filterMap] at hdistinct
    exact hdistinct
  obtain ⟨before, first, between, rfl, hfirst, hothers⟩ :=
    exists_unique_method_of_lookup hnodup hlookup
  refine ⟨_, m, after, hplace, ?_, before, first, between, rfl, ?_, hothers⟩
  · have hchecks : ∀ check ∈ m.checks, check.fault? strict [] = none := by
      rw [Method.checks, List.forall_mem_append]
      exact ⟨fun check hcheck => hpasses check (hshape hcheck), passes_numberChecks m⟩
    exact Method.declares_of_passes hentry hchecks
  · have hmem : first ∈ before ++ first :: between :=
      List.mem_append_right before List.mem_cons_self
    exact Method.declares_of_passes hfirst fun check hcheck =>
      hpasses check (hearlier first hmem hcheck)

/-- Only the check of a number reports one that is taken. -/
theorem eq_newNumber_of_fault? {strict : Bool} {check : Check}
    (h : check.fault? strict passed = some (.duplicateMessageId id template previous)) :
    check = .newNumber id template := by
  cases check with
  | newNumber other text =>
    obtain ⟨found, -, hcause⟩ := Option.map_eq_some_iff.mp h
    cases hcause
    rfl
  | _ => simp [Check.fault?] at h

/-- A round fails exactly with the first fault among its checks, the checks in the order of
the declarations. A number that is reported as taken belongs to a method that repeats it. -/
theorem render_error_iff_first_fault (config : Config) (interfaces : List Interface) :
    (∀ cause, render config interfaces = .error cause ↔
      ∃ passed check later, checks config interfaces = passed ++ check :: later ∧
        AllPass config.strictAnnotations passed ∧
          check.fault? config.strictAnnotations passed = some cause) ∧
    ∀ id template previous,
      render config interfaces = .error (.duplicateMessageId id template previous) →
        ∃ earlier m later, roundMethods interfaces = earlier ++ m :: later ∧
          RepeatsNumber earlier m id template previous := by
  have hfirst : ∀ cause, render config interfaces = .error cause ↔
      ∃ passed check later, checks config interfaces = passed ++ check :: later ∧
        AllPass config.strictAnnotations passed ∧
          check.fault? config.strictAnnotations passed = some cause := by
    intro cause
    simp only [allPass_iff]
    rw [← faultOf_eq_some_iff, faultOf_render]
    exact firstFault?_eq_some_iff
  refine ⟨hfirst, fun id template previous h => ?_⟩
  -- of all checks, only the one of a number fails with this cause
  obtain ⟨passed, check, later, hplace, hpass, hfault⟩ := (hfirst _).mp h
  obtain rfl := eq_newNumber_of_fault? hfault
  exact repeatsNumber_of_fault? hplace hpass hfault

/-- Two methods with one number: the second is reported, with the template of the first. -/
theorem render_error_repeated_number :
    ∃ earlier m later,
      roundMethods [⟨"a.B", none, some "C",
        [{ name := "first", returnType := "String", message := some ⟨7, "x"⟩ },
          { name := "second", returnType := "String", message := some ⟨7, "y"⟩ }]⟩] =
        earlier ++ m :: later ∧ RepeatsNumber earlier m 7 "y" "x" :=
  (render_error_iff_first_fault {} [⟨"a.B", none, some "C",
    [{ name := "first", returnType := "String", message := some ⟨7, "x"⟩ },
      { name := "second", returnType := "String", message := some ⟨7, "y"⟩ }]⟩]).2 7 "y" "x"
    (by decide)

end Place

end MessageBundle

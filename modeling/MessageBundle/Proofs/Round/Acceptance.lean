import MessageBundle.Proofs.Round.Pass

/-!
# Accepted rounds

The rules of a round say nothing about an order: the interfaces with a project code
have output names of their own, each of their annotated methods has compatible kinds
and the shape its prevailing annotation asks for, and no number is declared twice.
This file shows that a round is rendered exactly when these rules hold. Checks made
one after another all pass when each passes alone and no output name or number is
asked for twice, so what remains is to read the rules off the list of checks.

## Main definitions

* `bundled` — the interfaces that take part in a round
* `Acceptable` — the rules of a round
* `Interface.IsRenderedAs` — the unit that belongs to an interface

## Main results

* `passes_methodChecks_iff` — what the checks of a method ask for, apart from its number
* `firstFault?_checks_eq_none_iff` — the checks of a round pass when its rules hold
* `acceptable_of_render`, `qualifiedNames_of_render`, `nodup_qualifiedNames_of_render` — the
  rules and the names behind a round that is rendered
* `render_ok_iff_acceptable` — a round is rendered exactly when its rules hold, each
  interface as the unit that belongs to it
-/

namespace MessageBundle

/-- The interfaces that take part in a round: those with a project code. -/
def bundled (interfaces : List Interface) : List Interface :=
  interfaces.filter fun i => i.projectCode.isSome

namespace Interface

/-- The name of the class that implements the interface. -/
def outputName (config : Config) (i : Interface) : String :=
  Name.qualify i.effectiveNamespace (Name.className (Name.simpleName i.name) config.implSuffix)

/-- The numbers of the messages that the methods of an interface declare. -/
def numbers (i : Interface) : List MessageId := i.methods.filterMap Method.number?

/-- The unit of an interface: its bundle rendered with its annotated methods, each
resolved as its shape asks for. -/
def IsRenderedAs (config : Config) (i : Interface) (source : Source) : Prop :=
  ∃ b methods, i.toBundle? = some b ∧
    List.Forall₂ Method.IsResolvedBy (i.methods.filter Method.isAnnotated) methods ∧
      source = b.render config methods

end Interface

/-- The rules of a round. -/
structure Acceptable (config : Config) (interfaces : List Interface) : Prop where
  /-- No two interfaces have one output name. -/
  outputs : ((bundled interfaces).map (Interface.outputName config)).Nodup
  /-- Each annotated method has compatible kinds and the shape it is asked for. -/
  methods : ∀ i ∈ bundled interfaces, ∀ m ∈ i.methods, m.isAnnotated = true →
    m.HasCompatibleKinds config.strictAnnotations ∧ m.IsWellShaped
  /-- No two methods, of one interface or of two, declare one number. -/
  numbers : ((bundled interfaces).flatMap Interface.numbers).Nodup

/-! ### The checks of one method -/

section Method

variable {strict : Bool} {m : Method}

/-- A method is resolved, to one kind or to nothing, exactly when it satisfies the rules. -/
theorem faultOf_resolve_eq_none_iff :
    faultOf (m.resolve strict) = none ↔
      (m.isAnnotated = true → m.HasCompatibleKinds strict ∧ m.IsWellShaped) := by
  constructor
  · intro hfault hannotated
    cases hresolve : m.resolve strict with
    | error cause => rw [hresolve] at hfault; cases hfault
    | ok resolution? =>
      cases resolution? with
      | none => rw [Method.isAnnotated_of_resolve_eq_none hresolve] at hannotated; cases hannotated
      | some r =>
        obtain ⟨hcompatible, hshape⟩ := Method.resolve_eq_some_iff.mp hresolve
        exact ⟨(Method.hasCompatibleKinds_iff hannotated).mpr hcompatible, r, hshape⟩
  · intro hrules
    cases hannotated : m.isAnnotated with
    | false =>
      rw [Method.resolve_of_not_isAnnotated hannotated]
      rfl
    | true =>
      obtain ⟨hcompatible, r, hshape⟩ := hrules hannotated
      have hconflict := (Method.hasCompatibleKinds_iff hannotated).mp hcompatible
      rw [Method.resolve_eq_some_iff.mpr ⟨hconflict, hshape⟩]
      rfl

theorem passes_numberChecks (m : Method) :
    ∀ check ∈ m.numberChecks, check.fault? strict [] = none := by
  rw [Method.numberChecks]
  cases m.registration? with
  | none => exact fun check hcheck => absurd hcheck List.not_mem_nil
  | some entry =>
    rw [List.forall_mem_singleton]
    exact fault?_newNumber_eq_none_iff.mpr List.not_mem_nil

/-- Alone, the checks of a method ask for its kinds and its shape; its number is new. -/
theorem passes_methodChecks_iff :
    (∀ check ∈ m.checks, check.fault? strict [] = none) ↔
      (m.isAnnotated = true → m.HasCompatibleKinds strict ∧ m.IsWellShaped) := by
  rw [← faultOf_resolve_eq_none_iff, faultOf_resolve strict m [], firstFault?_eq_none_iff,
    Method.checks, List.forall_mem_append]
  have htargets := target?_methodChecks m
  rw [Method.checks, List.filterMap_append, List.append_eq_nil_iff] at htargets
  have hnumbers : (Check.compatibleKinds m :: m.shapeChecks).filterMap Check.number? = [] := by
    rw [numbers_eq_map, registration?_shapeChecks, List.map_nil]
  rw [htargets.1, hnumbers]
  constructor
  · rintro ⟨hpassed, -⟩
    exact ⟨hpassed, List.nodup_nil, List.nodup_nil⟩
  · rintro ⟨hpassed, -, -⟩
    exact ⟨hpassed, passes_numberChecks m⟩

end Method

/-! ### The checks of a round -/

section Round

variable {config : Config} {interfaces : List Interface}

/-- Collecting turns each interface that takes part into its bundle. -/
theorem forall₂_toBundle?_collect (interfaces : List Interface) :
    List.Forall₂ (fun i b => i.toBundle? = some b) (bundled interfaces) (collect interfaces) := by
  induction interfaces with
  | nil => exact .nil
  | cons i rest ih =>
    rw [bundled, collect, List.filter_cons, List.filterMap_cons]
    cases hcode : i.projectCode with
    | none => simpa [Interface.toBundle?, hcode, bundled, collect] using ih
    | some code => simpa [Interface.toBundle?, hcode, bundled, collect] using ih

/-- What a bundle tells in the place of its interface. -/
theorem map_collect_eq {α : Type} {f : Bundle → α} {g : Interface → α}
    (h : ∀ i b, i.toBundle? = some b → f b = g i) :
    (collect interfaces).map f = (bundled interfaces).map g := by
  rw [← List.forall₂_eq_eq_eq, List.forall₂_map_left_iff, List.forall₂_map_right_iff]
  exact (forall₂_toBundle?_collect interfaces).flip.imp fun b i hbundle => h i b hbundle

theorem forall_mem_collect_iff {p : Bundle → Prop} {q : Interface → Prop}
    (h : ∀ i b, i.toBundle? = some b → (p b ↔ q i)) :
    (∀ b ∈ collect interfaces, p b) ↔ ∀ i ∈ bundled interfaces, q i := by
  have hmap : (collect interfaces).map p = (bundled interfaces).map q :=
    map_collect_eq fun i b hb => propext (h i b hb)
  constructor
  · intro hall i hi
    obtain ⟨b, hb, heq⟩ := List.mem_map.mp (hmap ▸ List.mem_map_of_mem hi)
    exact heq ▸ hall b hb
  · intro hall b hb
    obtain ⟨i, hi, heq⟩ := List.mem_map.mp (hmap ▸ List.mem_map_of_mem hb)
    exact heq ▸ hall i hi

theorem outputName_toBundle? {i : Interface} {b : Bundle} (h : i.toBundle? = some b) :
    b.outputName config = i.outputName config := by
  obtain ⟨code, hcode, rfl⟩ := Option.map_eq_some_iff.mp h
  rfl

theorem methods_toBundle? {i : Interface} {b : Bundle} (h : i.toBundle? = some b) :
    b.methods = i.methods.filter Method.isAnnotated := by
  obtain ⟨code, hcode, rfl⟩ := Option.map_eq_some_iff.mp h
  rfl

/-- Methods without annotations declare no number. -/
theorem numbers_toBundle? {i : Interface} {b : Bundle} (h : i.toBundle? = some b) :
    b.methods.filterMap Method.number? = i.numbers := by
  rw [methods_toBundle? h, List.filterMap_filter, Interface.numbers]
  refine List.filterMap_congr fun m _ => ?_
  cases hannotated : m.isAnnotated with
  | true => rfl
  | false => rw [Method.number?, Method.registration?_eq_none_of_not_isAnnotated hannotated]; rfl

theorem target?_checks :
    (checks config interfaces).filterMap Check.target? =
      (bundled interfaces).map (Interface.outputName config) := by
  rw [checks, target?_bundlesChecks]
  exact map_collect_eq fun i b => outputName_toBundle?

theorem number?_bundleChecks (config : Config) (b : Bundle) :
    (b.checks config).filterMap Check.number? = b.methods.filterMap Method.number? := by
  rw [numbers_eq_map, registration?_bundleChecks, List.map_filterMap]
  rfl

theorem number?_checks :
    (checks config interfaces).filterMap Check.number? =
      (bundled interfaces).flatMap Interface.numbers := by
  have hbundles : (checks config interfaces).filterMap Check.number? =
      ((collect interfaces).map fun b => b.methods.filterMap Method.number?).flatten := by
    simp only [checks, List.filterMap_flatMap, number?_bundleChecks]
    rfl
  rw [hbundles, map_collect_eq fun i b => numbers_toBundle?]
  rfl

/-- Alone, the checks of a round ask for the kinds and the shape of each method. -/
theorem passes_checks_iff {strict : Bool} :
    (∀ check ∈ checks config interfaces, check.fault? strict [] = none) ↔
      ∀ i ∈ bundled interfaces, ∀ m ∈ i.methods, m.isAnnotated = true →
        m.HasCompatibleKinds strict ∧ m.IsWellShaped := by
  have hbundle : ∀ b : Bundle, (∀ check ∈ b.checks config, check.fault? strict [] = none) ↔
      ∀ m ∈ b.methods, m.isAnnotated = true → m.HasCompatibleKinds strict ∧ m.IsWellShaped := by
    intro b
    have hname : (Check.newOutput (b.outputName config)).fault? strict [] = none :=
      by simp [Check.fault?]
    simp only [Bundle.checks, List.forall_mem_cons, hname, true_and, List.forall_mem_flatMap,
      passes_methodChecks_iff]
  simp only [checks, List.forall_mem_flatMap, hbundle]
  refine forall_mem_collect_iff fun i b hb => ?_
  -- what is asked of an annotated method is asked of all that remain in the bundle
  rw [methods_toBundle? hb]
  constructor
  · intro h m hm hannotated
    exact h m (List.mem_filter.mpr ⟨hm, hannotated⟩) hannotated
  · intro h m hm
    exact h m (List.mem_filter.mp hm).1

/-- The checks of a round all pass exactly when its rules hold. -/
theorem firstFault?_checks_eq_none_iff :
    firstFault? config.strictAnnotations [] (checks config interfaces) = none ↔
      Acceptable config interfaces := by
  rw [firstFault?_eq_none_iff, passes_checks_iff, target?_checks, number?_checks]
  constructor
  · rintro ⟨hmethods, houtputs, hnumbers⟩
    exact { outputs := houtputs, methods := hmethods, numbers := hnumbers }
  · rintro ⟨houtputs, hmethods, hnumbers⟩
    exact ⟨hmethods, houtputs, hnumbers⟩

theorem forall₂_comp {α β γ : Type} {R : α → β → Prop} {S : β → γ → Prop} {as : List α}
    {bs : List β} {cs : List γ} (h : List.Forall₂ R as bs) (h' : List.Forall₂ S bs cs) :
    List.Forall₂ (fun a c => ∃ b, R a b ∧ S b c) as cs := by
  induction h generalizing cs with
  | nil =>
    cases h'
    exact .nil
  | cons hab _ ih =>
    cases h' with
    | cons hbc hrest => exact .cons ⟨_, hab, hbc⟩ (ih hrest)

theorem exists_of_forall₂_of_mem {α β : Type} {R : α → β → Prop} {as : List α} {bs : List β}
    {b : β} (h : List.Forall₂ R as bs) (hb : b ∈ bs) : ∃ a ∈ as, R a b := by
  induction h with
  | nil => cases hb
  | cons hab _ ih =>
    rcases List.mem_cons.mp hb with rfl | hrest
    · exact ⟨_, List.mem_cons_self, hab⟩
    · obtain ⟨a, ha, hab'⟩ := ih hrest
      exact ⟨a, List.mem_cons_of_mem _ ha, hab'⟩

/-- The units of a round belong to the interfaces that take part, in their order. -/
theorem forall₂_isRenderedAs {sources : List Source}
    (h : render config interfaces = .ok sources) :
    List.Forall₂ (Interface.IsRenderedAs config) (bundled interfaces) sources := by
  refine (forall₂_comp (forall₂_toBundle?_collect interfaces) (isRenderedAs_of_render h)).imp ?_
  rintro i source ⟨b, hb, methods, hmethods, rfl⟩
  -- the methods of the bundle are annotated, so that filtering them again keeps all
  simp only [methods_toBundle? hb, List.filter_filter, Bool.and_self] at hmethods
  exact ⟨b, methods, hb, hmethods, rfl⟩

/-- A round that is rendered obeys the rules. -/
theorem acceptable_of_render {sources : List Source} (h : render config interfaces = .ok sources) :
    Acceptable config interfaces := by
  rw [← firstFault?_checks_eq_none_iff, ← faultOf_render, h]
  rfl

/-- A round that obeys the rules is rendered. -/
theorem exists_render_of_acceptable (h : Acceptable config interfaces) :
    ∃ sources, render config interfaces = .ok sources := by
  rw [← firstFault?_checks_eq_none_iff, ← faultOf_render] at h
  cases hrender : render config interfaces with
  | error cause =>
    rw [hrender] at h
    cases h
  | ok sources => exact ⟨sources, rfl⟩

/-- The units of a round have the output names of the interfaces that take part. -/
theorem qualifiedNames_of_render {sources : List Source}
    (h : render config interfaces = .ok sources) :
    sources.map Source.qualifiedName =
      (bundled interfaces).map (Interface.outputName config) := by
  rw [← List.forall₂_eq_eq_eq, List.forall₂_map_left_iff, List.forall₂_map_right_iff]
  refine (forall₂_isRenderedAs h).flip.imp ?_
  rintro source i ⟨b, methods, hb, -, rfl⟩
  exact outputName_toBundle? hb

/-- No two units of a round have one name. -/
theorem nodup_qualifiedNames_of_render {sources : List Source}
    (h : render config interfaces = .ok sources) : (sources.map Source.qualifiedName).Nodup := by
  rw [qualifiedNames_of_render h]
  exact (acceptable_of_render h).outputs

/-- A round is rendered exactly when its rules hold; then it has one unit for each
interface that takes part, in their order, and each is the one that belongs to it. -/
theorem render_ok_iff_acceptable (config : Config) (interfaces : List Interface) :
    ((∃ sources, render config interfaces = .ok sources) ↔ Acceptable config interfaces) ∧
      ∀ sources, render config interfaces = .ok sources →
        List.Forall₂ (Interface.IsRenderedAs config) (bundled interfaces) sources := by
  refine ⟨?_, fun sources => forall₂_isRenderedAs⟩
  rw [← firstFault?_checks_eq_none_iff, ← faultOf_render]
  cases render config interfaces with
  | error cause => simp [faultOf]
  | ok sources => simp [faultOf]

/-- Two bundles that declare a message each; the second one gives out its logger too. -/
def twoBundles : List Interface :=
  [{ name := "a.A"
     projectCode := some "A"
     methods := [{ name := "m", returnType := "String", message := some ⟨1, "x"⟩ }] },
    { name := "a.B"
      projectCode := some "B"
      methods := [{ name := "m", logMessage := some ⟨2, "y", "warn"⟩ },
        { name := "log", returnType := "Logger", getLogger := true }] }]

/-- The two bundles obey the rules, and each is rendered as the unit that belongs to it. -/
theorem render_ok_two_bundles :
    Acceptable {} twoBundles ∧ ∃ sources, render {} twoBundles = .ok sources ∧
      List.Forall₂ (Interface.IsRenderedAs {}) (bundled twoBundles) sources := by
  obtain ⟨hiff, hunits⟩ := render_ok_iff_acceptable {} twoBundles
  have hrender : ∃ sources, render {} twoBundles = .ok sources := ⟨_, rfl⟩
  obtain ⟨sources, hsources⟩ := hrender
  exact ⟨hiff.mp ⟨sources, hsources⟩, sources, hsources, hunits sources hsources⟩

/-- The unit for the first of the two bundles. -/
def firstUnit : Source :=
  { qualifiedName := "a.A_impl"
    contents := "\n".intercalate
      ["/** This class is auto generated by logbundle",
        "    and it inherits whatever license is declared at a.A */",
        "",
        "package a;",
        "",
        "import org.slf4j.Logger;",
        "import org.slf4j.LoggerFactory;",
        "import org.slf4j.helpers.FormattingTuple;",
        "import org.slf4j.helpers.MessageFormatter;",
        "",
        "// @LogBundle(projectCode = \"A\")",
        "public class A_impl implements A",
        "\x7b",
        "   private final Logger logger;",
        "",
        "   public A_impl(Logger logger) \x7b",
        "      this.logger = logger;",
        "   \x7d",
        "",
        "   public A_impl() \x7b",
        "      this(LoggerFactory.getLogger(a.A_impl.class));",
        "   \x7d",
        "",
        "   public static final A_impl INSTANCE = new A_impl();",
        "",
        "   // @Message(id = 1, value = \"x\")",
        "   public String m()",
        "   \x7b",
        "      String returnString = \"A1 x\";",
        "      return returnString;",
        "   \x7d",
        "\x7d",
        ""]
    methodCount := 1 }

/-- The first of the two bundles by itself. -/
theorem render_first_of_two : render {} [twoBundles[0]] = .ok [firstUnit] := by decide +kernel

end Round

end MessageBundle

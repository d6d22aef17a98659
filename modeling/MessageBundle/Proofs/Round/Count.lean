import MessageBundle.Filer.Memory
import MessageBundle.Manifest.Basic
import MessageBundle.Proofs.JavaClass.Chunk
import MessageBundle.Proofs.Round.Acceptance
import MessageBundle.Proofs.Round.Process

/-!
# What a round counts

A round counts in four places: bundles are collected, methods are resolved, numbers are
registered, and classes are written. None of these loses a declaration that takes part or
takes one twice. The counts can therefore all be read off the interfaces: a unit for each
one with a project code, as many methods in it as are annotated, and a number for each of
these that has a message. A number is never shared, since a second message with it would
have failed the round. What is left are the methods that only give out the logger.

## Main definitions

* `Method.declaresMessage`, `Method.onlyGivesLogger` — the methods that have a number and
  those that have none
* `Interface.IsWrittenInChunks` — a unit has one chunk for each annotated method

## Main results

* `messageIds_of_renderRound` — the numbers of a round that is rendered
* `units_of_render` — its units, with their counts
* `isWrittenInChunks_of_render` — the texts of its units
* `report_counts` — what a round that ends well reports
-/

namespace MessageBundle

namespace Method

/-- The method returns a message or logs one. -/
def declaresMessage (m : Method) : Bool := m.message.isSome || m.logMessage.isSome

/-- Giving out the logger is the only thing the method is annotated with. -/
def onlyGivesLogger (m : Method) : Bool := m.kinds = [.getLogger]

theorem isSome_number? (m : Method) : m.number?.isSome = m.declaresMessage := by
  rw [number?, registration?, declaresMessage]
  cases m.message <;> cases m.logMessage <;> rfl

/-- An annotated method either has a number or only gives out the logger. -/
theorem isAnnotated_and_not_declaresMessage (m : Method) :
    (m.isAnnotated && !m.declaresMessage) = m.onlyGivesLogger := by
  rw [isAnnotated, declaresMessage, onlyGivesLogger, kinds]
  cases m.message <;> cases m.logMessage <;> cases m.getLogger <;> rfl

theorem isAnnotated_and_declaresMessage (m : Method) :
    (m.isAnnotated && m.declaresMessage) = m.declaresMessage := by
  rw [isAnnotated, declaresMessage]
  cases m.message <;> cases m.logMessage <;> cases m.getLogger <;> rfl

/-- Among methods, those that are annotated are those that have a number and those that
only give out the logger. -/
theorem countP_isAnnotated (ms : List Method) :
    ms.countP isAnnotated = ms.countP declaresMessage + ms.countP onlyGivesLogger := by
  rw [List.countP_eq_countP_filter_add ms isAnnotated declaresMessage, List.countP_filter,
    List.countP_filter]
  simp only [isAnnotated_and_declaresMessage, isAnnotated_and_not_declaresMessage]

end Method

variable {config : Config} {interfaces : List Interface} {sources : List Source}

/-! ### Numbers -/

/-- A round that is rendered uses one number for each method with a message. -/
theorem messageIds_of_renderRound {rendering : Rendering}
    (h : (renderRound config interfaces).1 = .ok rendering) :
    rendering.messageIds =
      ((bundled interfaces).flatMap Interface.methods).countP Method.declaresMessage := by
  obtain ⟨sources, hsources, rfl⟩ := exists_of_map_eq_ok h
  -- the registry holds the numbers that the checks of the round asked for
  have hsize : (renderBundles config [] (collect interfaces) .empty).registry.size =
      ((checks config interfaces).filterMap Check.number?).length := by
    rw [(makes_checks config interfaces).registry sources hsources, numbers_eq_map,
      List.length_map]
    exact List.length_reverse
  have hnumbers : (bundled interfaces).flatMap Interface.numbers =
      ((bundled interfaces).flatMap Interface.methods).filterMap Method.number? :=
    List.filterMap_flatMap.symm
  simp only [hsize, number?_checks, hnumbers, List.length_filterMap_eq_countP,
    Method.isSome_number?]

/-! ### Units -/

/-- The unit has a chunk for each annotated method of the interface, in their order, between
the head of its class and the closing brace; each starts with an empty line and the comment
on its annotation. -/
def Interface.IsWrittenInChunks (config : Config) (i : Interface) (source : Source) : Prop :=
  ∃ b chunks, i.toBundle? = some b ∧
    source.contents.toList = b.head config ++ chunks.flatten ++ "\x7d\n".toList ∧
    List.Forall₂ (fun m chunk => ∃ r, m.ResolvesTo r ∧ chunk = r.chunk config b.projectCode m)
      (i.methods.filter Method.isAnnotated) chunks ∧
    (∀ chunk ∈ chunks, "\n   // @".toList <+: chunk) ∧
    chunks.length = source.methodCount

theorem Interface.IsRenderedAs.isWrittenInChunks {i : Interface} {source : Source}
    (h : i.IsRenderedAs config source) : i.IsWrittenInChunks config source := by
  obtain ⟨b, methods, hb, hmethods, rfl⟩ := h
  refine ⟨b, _, hb, b.render_contents config methods, ?_, ?_, List.length_map _⟩
  · rw [List.forall₂_map_right_iff]
    refine hmethods.imp ?_
    rintro m ⟨method, resolution⟩ ⟨hmethod, hshape⟩
    obtain rfl : method = m := hmethod
    exact ⟨resolution, hshape, rfl⟩
  · rw [List.forall_mem_map]
    exact fun resolved _ => resolved.resolution.comment_prefix_chunk _ _ _

/-- What is reported of the unit of an interface. -/
theorem Interface.IsRenderedAs.reported_eq {i : Interface} {source : Source}
    (h : i.IsRenderedAs config source) :
    source.reported =
      ⟨i.outputName config, (i.methods.filter Method.isAnnotated).length⟩ := by
  obtain ⟨b, methods, hb, hmethods, rfl⟩ := h
  rw [Source.reported, hmethods.length_eq, ← outputName_toBundle? hb]
  rfl

/-- The units of a round that is rendered, by the interfaces that take part. -/
theorem units_of_render (h : render config interfaces = .ok sources) :
    sources.map Source.reported = (bundled interfaces).map fun i =>
      ⟨i.outputName config, (i.methods.filter Method.isAnnotated).length⟩ := by
  rw [← List.forall₂_eq_eq_eq, List.forall₂_map_left_iff, List.forall₂_map_right_iff]
  exact (forall₂_isRenderedAs h).flip.imp fun _ _ => Interface.IsRenderedAs.reported_eq

/-! ### The report -/

/-- Methods counted interface by interface are the methods counted all together. -/
theorem total_length_filter (p : Method → Bool) (interfaces : List Interface) :
    total (interfaces.map fun i => (i.methods.filter p).length) =
      (interfaces.flatMap Interface.methods).countP p := by
  induction interfaces with
  | nil => rfl
  | cons i rest ih =>
    rw [List.map_cons, List.flatMap_cons, List.countP_append, ← ih, List.countP_eq_length_filter]
    rfl

/-- The report of a round that ends well, wherever its units go: one unit for each
interface with a project code, in the order of their declaration, with a count of its
annotated methods, which is the number of chunks in its text; as many numbers as methods of
these interfaces have a message; and, beside those, the methods that only give out the
logger. -/
theorem report_counts {σ : Type} {file : Filer (StateM σ)} {state after : σ} {report : Report}
    {events : List Event}
    (h : process config file interfaces state = ((.ok report, events), after)) :
    (∃ sources, render config interfaces = .ok sources ∧
        report.units = sources.map Source.reported ∧
        List.Forall₂ (Interface.IsWrittenInChunks config) (bundled interfaces) sources) ∧
      report.units = ((bundled interfaces).map fun i =>
        ⟨i.outputName config, (i.methods.filter Method.isAnnotated).length⟩) ∧
      report.units.length = Manifest.bundleCount ⟨config, interfaces⟩ ∧
      report.messageIds =
        ((bundled interfaces).flatMap Interface.methods).countP Method.declaresMessage ∧
      report.totalMethods = report.messageIds +
        ((bundled interfaces).flatMap Interface.methods).countP Method.onlyGivesLogger := by
  obtain ⟨rendering, later, hrendered, hunits, hids, -⟩ := process_eq_ok_iff.mp h
  have hreported := (units_of_handOver hunits).1
  have hrender := render_of_renderRound hrendered
  have hcounts := hreported.trans (units_of_render hrender)
  rw [messageIds_of_renderRound hrendered] at hids
  refine ⟨⟨rendering.sources, hrender, hreported, ?_⟩, hcounts, ?_, hids, ?_⟩
  · exact (forall₂_isRenderedAs hrender).imp fun _ _ => Interface.IsRenderedAs.isWrittenInChunks
  · rw [hcounts, List.length_map, Manifest.bundleCount, bundled]
  · rw [Report.totalMethods, hcounts, hids, ← Method.countP_isAnnotated, ← total_length_filter,
      List.map_map]
    rfl

/-- Two bundles with three methods, one of which only gives out the logger. -/
theorem report_counts_two_bundles :
    ∃ report events kept,
      process {} MemoryFiler.filer twoBundles .empty = ((.ok report, events), kept) ∧
        report.units.length = Manifest.bundleCount ⟨{}, twoBundles⟩ ∧
        report.messageIds = 2 ∧ report.totalMethods = report.messageIds + 1 := by
  have hreport : (process {} MemoryFiler.filer twoBundles .empty).1.1 =
      .ok ⟨[⟨"a.A_impl", 1⟩, ⟨"a.B_impl", 2⟩], 2⟩ := by decide +kernel
  obtain ⟨events, kept, hround⟩ := exists_of_answer hreport
  obtain ⟨-, -, hunits, hids, htotal⟩ := report_counts hround
  exact ⟨_, events, kept, hround, hunits, hids, htotal⟩

end MessageBundle

import MessageBundle.Proofs.Round.Pass

/-!
# Handing the units of a round over

A round renders first. If that fails, nothing is handed over and the place where units
go is as before; else the units go out one after another. This file says so for any
filer that works on a state, and so for a directory as well as for a map in memory.

## Main definitions

* `Source.reported` — what is reported of a unit
* `Filed` — units went out one after another, and none was refused

## Main results

* `handOver_cons`, `handOver_cons_eq_ok_iff` — one unit handed over, then the others
* `handOver_cases` — all units go out, or those before one that is refused
* `handOver_append` — units handed over in two parts
* `handOver_of_filed`, `handOver_of_refused` — what is answered and recorded of units that
  go out, and of units up to one that is refused
* `process_of_render_error`, `process_of_render_ok` — a round after its rendering
* `process_cases` — the three ways in which a round ends
* `process_eq_ok_iff`, `report_eq_of_process` — a round that ends well, with all it reports
  and records, and that its report is the same wherever its units go
-/

namespace MessageBundle

variable {σ : Type} {file : Filer (StateM σ)} {source : Source} {rest sources : List Source}
  {state after : σ} {cause : GenerationError} {units : List ReportedUnit} {events : List Event}

/-- What is reported of a unit. -/
def Source.reported (source : Source) : ReportedUnit := ⟨source.qualifiedName, source.methodCount⟩

theorem handOver_nil (file : Filer (StateM σ)) (state : σ) :
    handOver file [] state = ((.ok [], []), state) := rfl

/-- One unit handed over, then the others unless it was refused. -/
theorem handOver_cons (file : Filer (StateM σ)) (source : Source) (rest : List Source)
    (state : σ) :
    handOver file (source :: rest) state =
      match file source.qualifiedName source.contents state with
      | ((.error cause, events), after) => ((.error cause, events), after)
      | ((.ok (), events), after) =>
        let others := handOver file rest after
        ((others.1.1.map (source.reported :: ·), events ++ others.1.2), others.2) := by
  rw [handOver]
  simp only [bind, StateT.bind]
  rcases file source.qualifiedName source.contents state with ⟨⟨answer, events⟩, after⟩
  cases answer <;> rfl

/-- A unit and others go out when the unit does and the others do from where it ends. -/
theorem handOver_cons_eq_ok_iff :
    handOver file (source :: rest) state = ((.ok units, events), after) ↔
      ∃ first next others later,
        file source.qualifiedName source.contents state = ((.ok (), first), next) ∧
          handOver file rest next = ((.ok others, later), after) ∧
          units = source.reported :: others ∧ events = first ++ later := by
  rw [handOver_cons]
  rcases file source.qualifiedName source.contents state with ⟨⟨_ | ⟨⟨⟩⟩, first⟩, next⟩
  · constructor
    · rintro ⟨⟩
    · rintro ⟨_, _, _, _, ⟨⟩, _⟩
  rcases hothers : handOver file rest next with ⟨⟨_ | others, later⟩, last⟩
  · constructor
    · simp only [hothers]
      rintro ⟨⟩
    · rintro ⟨_, _, _, _, ⟨⟩, hothers', _⟩
      rw [hothers] at hothers'
      cases hothers'
  · constructor
    · simp only [hothers]
      rintro ⟨⟩
      exact ⟨first, next, others, later, rfl, hothers, rfl, rfl⟩
    · rintro ⟨_, _, _, _, ⟨⟩, hothers', rfl, rfl⟩
      rw [hothers] at hothers'
      cases hothers'
      simp only [hothers]
      rfl

/-- Units went out one after another from a start, and none was refused. -/
inductive Filed (file : Filer (StateM σ)) (start : σ) : List Source → σ → Prop
  | nil : Filed file start [] start
  | concat {done : List Source} {source : Source} {state after : σ} {events : List Event}
      (before : Filed file start done state)
      (accepted : file source.qualifiedName source.contents state = ((.ok (), events), after)) :
      Filed file start (done ++ [source]) after

/-- Units handed over behind others all go out, or they go out up to one that is refused,
which leaves the state that its refusal leaves. -/
theorem handOver_cases_of_filed {start : σ} {done : List Source}
    (h : Filed file start done state) (sources : List Source) :
    (∃ after events, Filed file start (done ++ sources) after ∧
        handOver file sources state = ((.ok (sources.map Source.reported), events), after)) ∨
      ∃ before refused rest place cause events, sources = before ++ refused :: rest ∧
        Filed file start (done ++ before) place ∧
        (file refused.qualifiedName refused.contents place).1.1 = .error cause ∧
        handOver file sources state =
          ((.error cause, events), (file refused.qualifiedName refused.contents place).2) := by
  -- a unit that goes out moves behind the line, so `done` grows
  induction sources generalizing done state with
  | nil =>
    rw [handOver_nil, List.append_nil]
    exact .inl ⟨state, [], h, rfl⟩
  | cons source rest ih =>
    rw [handOver_cons]
    rcases hfile : file source.qualifiedName source.contents state with ⟨⟨answer, events⟩, after⟩
    cases answer with
    | error cause =>
      refine .inr ⟨[], source, rest, state, cause, events, rfl, ?_, ?_, ?_⟩
      · rw [List.append_nil]
        exact h
      · rw [hfile]
      · rw [hfile]
    | ok _ =>
      have hsource : done ++ source :: rest = done ++ [source] ++ rest := by
        rw [List.append_assoc, List.singleton_append]
      rcases ih (h.concat hfile) with ⟨last, later, hall, hrest⟩ |
        ⟨before, refused, others, place, cause, later, rfl, hbefore, hrefused, hrest⟩
      · refine .inl ⟨last, events ++ later, hsource ▸ hall, ?_⟩
        simp only [hrest, List.map_cons]
        rfl
      · refine .inr ⟨source :: before, refused, others, place, cause, events ++ later, rfl, ?_,
          hrefused, ?_⟩
        · rw [← List.singleton_append, ← List.append_assoc]
          exact hbefore
        · simp only [hrest]
          rfl

/-- All units go out, or those before one that is refused. -/
theorem handOver_cases (file : Filer (StateM σ)) (sources : List Source) (state : σ) :
    (∃ after events, Filed file state sources after ∧
        handOver file sources state = ((.ok (sources.map Source.reported), events), after)) ∨
      ∃ before refused rest place cause events, sources = before ++ refused :: rest ∧
        Filed file state before place ∧
        (file refused.qualifiedName refused.contents place).1.1 = .error cause ∧
        handOver file sources state =
          ((.error cause, events), (file refused.qualifiedName refused.contents place).2) :=
  handOver_cases_of_filed .nil sources

/-- Units that were handed over all went out. -/
theorem units_of_handOver (h : handOver file sources state = ((.ok units, events), after)) :
    units = sources.map Source.reported ∧ Filed file state sources after := by
  rcases handOver_cases file sources state with ⟨last, later, hall, hunits⟩ |
    ⟨before, refused, others, place, cause, later, -, -, -, hunits⟩
  · rw [h] at hunits
    cases hunits
    exact ⟨rfl, hall⟩
  · rw [h] at hunits
    cases hunits

/-- Units handed over in a row are handed over in two parts, the second one from where the
first one ends. -/
theorem handOver_append (file : Filer (StateM σ)) (before rest : List Source) (state : σ) :
    handOver file (before ++ rest) state =
      match handOver file before state with
      | ((.error cause, events), after) => ((.error cause, events), after)
      | ((.ok units, events), mid) =>
        let others := handOver file rest mid
        ((others.1.1.map (units ++ ·), events ++ others.1.2), others.2) := by
  induction before generalizing state with
  | nil =>
    rw [List.nil_append, handOver_nil]
    simp only [List.nil_append]
    rcases hrest : handOver file rest state with ⟨⟨_ | units, events⟩, after⟩ <;> rfl
  | cons source before ih =>
    rw [List.cons_append, handOver_cons, handOver_cons]
    rcases file source.qualifiedName source.contents state with ⟨⟨_ | ⟨⟨⟩⟩, first⟩, next⟩
    · rfl
    simp only [ih]
    rcases handOver file before next with ⟨⟨_ | units, events⟩, mid⟩
    · rfl
    simp only [Except.map]
    rcases handOver file rest mid with ⟨⟨_ | others, later⟩, after⟩ <;>
      simp [List.append_assoc]

/-- Units that go out in a row go out in two parts. -/
theorem exists_of_handOver_append {before : List Source}
    (h : handOver file (before ++ rest) state = ((.ok units, events), after)) :
    ∃ front back first later mid,
      handOver file before state = ((.ok front, first), mid) ∧
        handOver file rest mid = ((.ok back, later), after) := by
  rw [handOver_append] at h
  rcases hbefore : handOver file before state with ⟨⟨cause | front, first⟩, mid⟩
  · rw [hbefore] at h
    cases h
  rw [hbefore] at h
  rcases hrest : handOver file rest mid with ⟨⟨cause | back, later⟩, last⟩
  · simp only [hrest] at h
    cases h
  · simp only [hrest] at h
    cases h
    exact ⟨front, back, first, later, mid, rfl, hrest⟩

variable {config : Config} {interfaces : List Interface} {report : Report}

theorem render_of_renderRound {rendering : Rendering}
    (h : (renderRound config interfaces).1 = .ok rendering) :
    render config interfaces = .ok rendering.sources := by
  rw [render, h]
  rfl

/-- A round that is not rendered leaves the state alone. -/
theorem process_of_render_error (h : render config interfaces = .error cause)
    (file : Filer (StateM σ)) (state : σ) :
    ∃ events, process config file interfaces state = ((.error cause, events), state) := by
  rw [render] at h
  have hround := error_of_map_eq_error h
  rcases hpair : renderRound config interfaces with ⟨rendered, events⟩
  rw [hpair] at hround
  obtain rfl : rendered = .error cause := hround
  refine ⟨events ++ [closingEvent (.error cause)], ?_⟩
  rw [process, hpair]
  rfl

/-- A round that is rendered hands its units over. -/
theorem process_of_render_ok (h : render config interfaces = .ok sources)
    (file : Filer (StateM σ)) (state : σ) :
    ∃ ids events, process config file interfaces state =
      (((handOver file sources state).1.1.map fun units => ⟨units, ids⟩, events),
        (handOver file sources state).2) := by
  rw [render] at h
  obtain ⟨rendering, hround, rfl⟩ := exists_of_map_eq_ok h
  rcases hpair : renderRound config interfaces with ⟨rendered, events⟩
  rw [hpair] at hround
  obtain rfl : rendered = .ok rendering := hround
  rw [process, hpair]
  exact ⟨rendering.messageIds, _, rfl⟩

/-- A round is not rendered and changes nothing, or all of its units go out and are
reported, or those before one that is refused go out and the round fails with its cause. -/
theorem process_cases (config : Config) (file : Filer (StateM σ)) (interfaces : List Interface)
    (state : σ) :
    (∃ cause events, render config interfaces = .error cause ∧
        process config file interfaces state = ((.error cause, events), state)) ∨
      (∃ sources after ids events, render config interfaces = .ok sources ∧
        Filed file state sources after ∧
        process config file interfaces state =
          ((.ok ⟨sources.map Source.reported, ids⟩, events), after)) ∨
      ∃ before refused rest place cause events,
        render config interfaces = .ok (before ++ refused :: rest) ∧
        Filed file state before place ∧
        (file refused.qualifiedName refused.contents place).1.1 = .error cause ∧
        process config file interfaces state =
          ((.error cause, events), (file refused.qualifiedName refused.contents place).2) := by
  cases hrender : render config interfaces with
  | error cause =>
    obtain ⟨events, hround⟩ := process_of_render_error hrender file state
    exact .inl ⟨cause, events, rfl, hround⟩
  | ok sources =>
    obtain ⟨ids, events, hround⟩ := process_of_render_ok hrender file state
    rcases handOver_cases file sources state with ⟨after, later, hall, hunits⟩ |
      ⟨before, refused, rest, place, cause, later, rfl, hbefore, hrefused, hunits⟩
    · refine .inr (.inl ⟨sources, after, ids, events, rfl, hall, ?_⟩)
      rw [hround, hunits]
      rfl
    · refine .inr (.inr ⟨before, refused, rest, place, cause, events, rfl, hbefore, hrefused, ?_⟩)
      rw [hround, hunits]
      rfl

/-- A round ends well when it is rendered and its units all go out, and then it reports
these units and the numbers of its rendering. -/
theorem process_eq_ok_iff :
    process config file interfaces state = ((.ok report, events), after) ↔
      ∃ rendering later, (renderRound config interfaces).1 = .ok rendering ∧
        handOver file rendering.sources state = ((.ok report.units, later), after) ∧
        report.messageIds = rendering.messageIds ∧
        events = (renderRound config interfaces).2 ++ later ++ [closingEvent (.ok report)] := by
  rcases hpair : renderRound config interfaces with ⟨rendered, recorded⟩
  cases rendered with
  | error cause =>
    simp only [process, hpair]
    constructor
    · rintro ⟨⟩
    · rintro ⟨_, _, ⟨⟩, _⟩
  | ok rendering =>
    simp only [process, hpair, bind, StateT.bind]
    rcases hunits : handOver file rendering.sources state with ⟨⟨answer, later⟩, last⟩
    cases answer with
    | error cause =>
      constructor
      · rintro ⟨⟩
      · rintro ⟨_, _, ⟨⟩, hunits', _⟩
        rw [hunits] at hunits'
        cases hunits'
    | ok units =>
      constructor
      · rintro ⟨⟩
        exact ⟨rendering, later, rfl, hunits, rfl, rfl⟩
      · rintro ⟨_, _, ⟨⟩, hunits', hids, rfl⟩
        rw [hunits] at hunits'
        cases hunits'
        obtain ⟨reported, ids⟩ := report
        obtain rfl : ids = rendering.messageIds := hids
        rfl

/-- A round whose answer is a report ends well somewhere. -/
theorem exists_of_answer (h : (process config file interfaces state).1.1 = .ok report) :
    ∃ events after, process config file interfaces state = ((.ok report, events), after) := by
  rcases hround : process config file interfaces state with ⟨⟨answer, events⟩, after⟩
  rw [hround] at h
  exact ⟨events, after, by rw [← h]⟩

/-- What a round reports when it ends well does not depend on where its units go. -/
theorem report_eq_of_process {τ : Type} {file' : Filer (StateM τ)} {state' after' : τ}
    {report' : Report} {events' : List Event}
    (h : process config file interfaces state = ((.ok report, events), after))
    (h' : process config file' interfaces state' = ((.ok report', events'), after')) :
    report = report' := by
  obtain ⟨rendering, later, hrendered, hunits, hids, -⟩ := process_eq_ok_iff.mp h
  obtain ⟨rendering', later', hrendered', hunits', hids', -⟩ := process_eq_ok_iff.mp h'
  rw [hrendered] at hrendered'
  obtain rfl := Except.ok.inj hrendered'
  have hreported := (units_of_handOver hunits).1
  have hreported' := (units_of_handOver hunits').1
  obtain ⟨units, ids⟩ := report
  obtain ⟨units', ids'⟩ := report'
  obtain rfl : units = units' := hreported.trans hreported'.symm
  obtain rfl : ids = ids' := hids.trans hids'.symm
  rfl

end MessageBundle

import BoxSearch.Proofs.Evolution.Coherence
import BoxSearch.Proofs.Session.Memory
import BoxSearch.Proofs.Solver.Records

/-!
# The accounts of an evolution

A run of differential evolution keeps three accounts of its evaluations: the counter of
its state, the records of its evaluations, and the evaluations that the records of its
generations name.  They are written at different places of a step, and a step has two
batches of which each may fail, so it is not plain that they agree.

`History` is what a run committed: the drawn population as it was evaluated, and for every
generation its trials and the state that they led to.  `committed` is what one step adds to
it, batch by batch, and `History.ofPaces` what all steps of a run add, each of them on the
solver and the objective that it was made on.  `Booked` says that the three accounts agree
with a history, `booked_commitFirst` and `booked_bred` that the two commits keep it so, and
`booked_step` that a step does.

`evaluations_booked` draws the conclusion for the memories of a session: between any two
calls they hold what its steps committed, number by number, and nothing else.
-/

namespace BoxSearch
namespace Evolution

/-! ## Histories -/

/-- What a generation evaluated, and the state that it left. -/
structure Brood (α : Type) where
  /-- the trials in the order of the members, with their penalised energies -/
  trials : List (Point α × Float)
  /-- the state after the generation -/
  state : State α

/-- What a run committed. -/
structure History (α : Type) where
  /-- the drawn population, repaired and clipped, with its penalised energies -/
  first : List (Point α × Float)
  /-- the generations, oldest first -/
  broods : List (Brood α)

namespace History

variable {α : Type}

/-- Nothing was committed. -/
def empty : History α := ⟨[], []⟩

/-- One history and then another. -/
def append (h k : History α) : History α := ⟨h.first ++ k.first, h.broods ++ k.broods⟩

instance : Append (History α) := ⟨append⟩

@[simp] theorem first_append (h k : History α) : (h ++ k).first = h.first ++ k.first := rfl

@[simp] theorem broods_append (h k : History α) : (h ++ k).broods = h.broods ++ k.broods := rfl

/-- All evaluations, in order. -/
def evaluated (h : History α) : List (Point α × Float) := h.first ++ h.broods.flatMap (·.trials)

@[simp] theorem append_nil (h : History α) : h ++ (⟨[], []⟩ : History α) = h := by
  show append h ⟨[], []⟩ = h
  simp [append]

@[simp] theorem append_empty (h : History α) : h ++ empty = h := append_nil h

theorem append_assoc (h k l : History α) : h ++ k ++ l = h ++ (k ++ l) := by
  show append (append h k) l = append h (append k l)
  simp [append]

/-- A generation more, with its trials behind all evaluations. -/
theorem evaluated_append_brood (h : History α) (b : Brood α) :
    (h ++ (⟨[], [b]⟩ : History α)).evaluated = h.evaluated ++ b.trials := by
  simp [evaluated]

/-- A generation is an earlier one or the one that was added. -/
theorem earlier_or_last {h : History α} {b last : Brood α} {k : Nat}
    (hk : (h ++ ⟨[], [last]⟩).broods[k]? = some b) :
    h.broods[k]? = some b ∨ k = h.broods.length ∧ b = last := by
  rw [broods_append, List.getElem?_append] at hk
  split at hk
  · exact Or.inl hk
  · obtain ⟨place, hb⟩ := List.getElem?_eq_some_iff.1 hk
    rw [List.length_singleton] at place
    rw [List.getElem_singleton] at hb
    exact Or.inr ⟨by omega, hb.symm⟩

end History

variable {α : Type} [Scalar α]

/-- A batch of points with their penalised energies, if it succeeds. -/
def evaluatedBatch (s : Evolution α) (m : EvaluationMap α) (o : Objective α) (calls : Nat)
    (points : List (Point α)) : Option (List (Point α × Float)) :=
  (s.evaluateBatch m o calls points).1.toOption.map (points.zip ·)

/-- What a step commits before its trials: the drawn population, repaired and clipped, with its
penalised energies, unless it has some already or its batch fails. -/
def committedFirst (s : Evolution α) (m : EvaluationMap α) (o : Objective α) (calls : Nat) :
    History α :=
  if s.evaluated then .empty else ⟨(s.evaluatedBatch m o calls s.firstRows).getD [], []⟩

/-- What a step commits with its trials: those of all members, in order, with their penalised
energies, unless their batch fails; and the state that the step leaves. -/
def committedTrials (s : Evolution α) (strategy : Strategy α) (m : EvaluationMap α)
    (o : Objective α) (calls : Nat) (left : State α) : History α :=
  let trials := (s.allTrials strategy).toOption.bind fun p => s.evaluatedBatch m o calls p.1
  ⟨[], trials.toList.map fun trials => ⟨trials, left⟩⟩

/-- What a step commits: nothing where the run is not ready or has ended; otherwise the drawn
population, and when that has its energies, the trials. -/
def committed (s : Evolution α) (o : Objective α) (calls : Nat) : History α :=
  match s.checkReady o, s.state.isTerminated with
  | .ok (strategy, m), false =>
    let begun := s.evaluateFirst m o calls
    s.committedFirst m o calls ++
      match begun.1.result with
      | .ok () =>
        begun.1.after.running.committedTrials strategy m o begun.2 (s.step o calls).1.after.state
      | .error _ => .empty
  | _, _ => .empty

/-- What a step of a solver commits that is a run of differential evolution. -/
def committedAt (p : Solver.Pace α) : History α :=
  match p.solver with
  | .evolution s => s.committed p.objective p.calls
  | _ => .empty

/-- What the steps of a run committed, in their order. -/
def History.ofPaces (ps : List (Solver.Pace α)) : History α :=
  ps.foldl (fun h p => h ++ committedAt p) .empty

theorem History.ofPaces_concat (ps : List (Solver.Pace α)) (p : Solver.Pace α) :
    ofPaces (ps ++ [p]) = ofPaces ps ++ committedAt p := by
  rw [ofPaces, List.foldl_append]
  rfl

/-! ## The accounts -/

/-- The events of a run and its state agree with a history. -/
structure Booked (events : List (Event α)) (h : History α) (s : Evolution α) : Prop where
  /-- every evaluation is recorded, under its number -/
  recorded : events.filterMap Event.evaluated? = numbered 1 h.evaluated
  /-- every generation is recorded, with the best point that it left -/
  summarised : events.filterMap Event.generation? =
    h.broods.map fun b => ⟨b.state.evaluations, b.state.bestSolution, b.state.bestEnergy⟩
  /-- the counter counts evaluations -/
  spent : s.state.evaluations = h.evaluated.length
  /-- the generations are counted -/
  grown : s.state.generation = h.broods.length
  /-- nothing is committed before the first population -/
  unevaluated : s.evaluated = false → h = .empty
  /-- every member has an energy -/
  aligned : s.evaluated = true → s.state.population.rows.length = s.state.energies.length
  /-- every member had its turn in every round -/
  rounds : s.evaluated = true →
    s.state.evaluations = s.state.population.size * (1 + s.state.generation)
  /-- first as one of the drawn population -/
  drawn : s.evaluated = true → h.first.length = s.state.population.size
  /-- and then with a trial in each generation -/
  marks : ∀ k b, h.broods[k]? = some b →
    b.trials.length = s.state.population.size ∧ b.state.generation = k + 1 ∧
      b.state.evaluations = s.state.population.size * (1 + (k + 1))

variable {s : Evolution α} {events : List (Event α)} {h : History α}

omit [Scalar α] in
theorem size_select {state : State α} {trials : List (Point α × Float)}
    (aligned : state.population.rows.length = state.energies.length)
    (hl : trials.length = state.population.rows.length) :
    (select state trials).population.size = state.population.size := by
  simp [Population.size, rows_select, survivors, ← aligned, hl]

/-- Before the first population is evaluated there is nothing to book. -/
theorem booked_empty (recorded : events.filterMap Event.evaluated? = [])
    (summarised : events.filterMap Event.generation? = []) (fresh : s.evaluated = false)
    (evaluations : s.state.evaluations = 0) (generation : s.state.generation = 0) :
    Booked events .empty s where
  recorded := recorded
  summarised := summarised
  spent := evaluations
  grown := generation
  unevaluated _ := rfl
  aligned hs := by cases fresh.symm.trans hs
  rounds hs := by cases fresh.symm.trans hs
  drawn hs := by cases fresh.symm.trans hs
  marks k b hb := by simp [History.empty] at hb

theorem booked_log (entry : LogEntry) (b : Booked events h s) :
    Booked (events ++ [.log entry]) h s where
  recorded := by rw [List.filterMap_append, b.recorded]; simp [Event.evaluated?]
  summarised := by rw [List.filterMap_append, b.summarised]; simp [Event.generation?]
  spent := b.spent
  grown := b.grown
  unevaluated := b.unevaluated
  aligned := b.aligned
  rounds := b.rounds
  drawn := b.drawn
  marks := b.marks

/-- The first population is booked as evaluations `1, 2, …`. -/
theorem booked_commitFirst {es : List Float} (b : Booked events h s) (fresh : s.evaluated = false)
    (hl : es.length = s.firstRows.length) :
    Booked (events ++ Batch.records (s.state.evaluations + 1) s.firstRows es)
      (h ++ ⟨s.firstRows.zip es, []⟩) (s.commitFirst s.firstRows es) := by
  obtain rfl := b.unevaluated fresh
  have unspent : s.state.evaluations = 0 := b.spent
  have first : s.state.generation = 0 := b.grown
  have rows : (s.commitFirst s.firstRows es).state.evaluations = s.firstRows.length := by
    show s.state.evaluations + s.firstRows.length = _
    rw [unspent, Nat.zero_add]
  exact {
    recorded := by
      rw [List.filterMap_append, b.recorded, Batch.evaluated_records, unspent]
      simp [History.evaluated, History.empty, numbered]
    summarised := by
      rw [List.filterMap_append, b.summarised, Batch.generation_records]
      rfl
    spent := by
      rw [rows]
      simp [History.evaluated, History.empty, hl]
    grown := first
    unevaluated := fun hs => by cases hs
    aligned := fun _ => hl.symm
    rounds := fun _ => by
      rw [rows]
      show _ = s.firstRows.length * (1 + s.state.generation)
      rw [first, Nat.mul_one]
    drawn := fun _ => by
      show ([] ++ s.firstRows.zip es).length = s.firstRows.length
      simp [hl]
    marks := fun k b hb => by simp [History.empty] at hb }

/-- The trials of a generation are booked behind everything before them, with the state that the
generation left, whatever status that has. -/
theorem booked_bred {points : List (Point α)} {g : Generator} {es : List Float} {left : State α}
    (b : Booked events h s) (evaluated : s.evaluated = true)
    (hl : (points.zip es).length = s.state.population.rows.length)
    (hleft : ∃ status, left = { (s.bred points g es).state with status }) :
    Booked (events ++ (Batch.records (s.state.evaluations + 1) points es ++
        [summary (s.bred points g es).state]))
      (h ++ ⟨[], [⟨points.zip es, left⟩]⟩) (s.bred points g es) := by
  obtain ⟨status, rfl⟩ := hleft
  have aligned := b.aligned evaluated
  have size : (s.bred points g es).state.population.size = s.state.population.size :=
    size_select aligned hl
  have spent : (s.bred points g es).state.evaluations =
      s.state.evaluations + s.state.population.size := by
    show s.state.evaluations + (points.zip es).length = _
    rw [hl, Population.size]
  have grown : (s.bred points g es).state.generation = s.state.generation + 1 := rfl
  have rounds : (s.bred points g es).state.evaluations =
      s.state.population.size * (1 + (s.state.generation + 1)) := by
    rw [spent, b.rounds evaluated, ← Nat.add_assoc, Nat.mul_add_one]
  exact {
    recorded := by
      rw [List.filterMap_append, List.filterMap_append, b.recorded, Batch.evaluated_records,
        History.evaluated_append_brood, numbered_append, b.spent]
      simp [summary, Event.evaluated?, Nat.add_comm]
    summarised := by
      rw [List.filterMap_append, List.filterMap_append, b.summarised, Batch.generation_records]
      simp [summary, Event.generation?]
    spent := by
      rw [spent, History.evaluated_append_brood, List.length_append, ← b.spent, hl, Population.size]
    grown := by
      rw [grown, b.grown]
      simp
    unevaluated := fun hs => by cases evaluated.symm.trans hs
    aligned := fun _ => by
      show (select s.state (points.zip es)).population.size = _
      rw [size_select aligned hl, Population.size, aligned]
      exact (noWorse_select aligned hl).length_eq.symm
    rounds := fun _ => by rw [rounds, size, grown]
    drawn := fun _ => by rw [size, History.first_append, List.append_nil, b.drawn evaluated]
    marks := fun k brood hk => by
      rw [size]
      rcases History.earlier_or_last hk with earlier | ⟨place, rfl⟩
      · exact b.marks k brood earlier
      · rw [← b.grown] at place
        rw [place]
        exact ⟨hl, grown, rounds⟩ }

/-- The accounts are a matter of the state and of whether the drawn population was
evaluated. -/
theorem Booked.of_eq {t : Evolution α} (b : Booked events h s)
    (evaluations : t.state.evaluations = s.state.evaluations)
    (generation : t.state.generation = s.state.generation)
    (population : t.state.population = s.state.population)
    (energies : t.state.energies = s.state.energies) (evaluated : t.evaluated = s.evaluated) :
    Booked events h t := by
  refine ⟨b.recorded, b.summarised, ?_, ?_, ?_, ?_, ?_, ?_, ?_⟩ <;>
    simp only [evaluations, generation, population, energies, evaluated]
  exacts [b.spent, b.grown, b.unevaluated, b.aligned, b.rounds, b.drawn, b.marks]

/-! ## What a step adds to the accounts -/

/-- Entries of the log, the criterion, the token and the status are part of no account. -/
theorem booked_quiet (h : History α) : Quiet fun events s => Booked events h s where
  log entry b := booked_log entry b
  frame _ _ _ b := b.of_eq rfl rfl rfl rfl rfl

/-- The question whether the run stops changes the status of a state only. -/
theorem state_checkStop (s : Evolution α) :
    ∃ status, s.checkStop.after.state = { s.state with status } := by
  rcases after_checkStop s with same | ⟨reason, watch, _, after⟩
  · exact ⟨_, by rw [same]⟩
  · rw [after]
    unfold concluded
    split <;> exact ⟨_, rfl⟩

/-- A first batch that fails books nothing. -/
theorem booked_evaluateFirst (m : EvaluationMap α) (o : Objective α) (calls : Nat)
    (b : Booked events h s) :
    Booked (events ++ (s.evaluateFirst m o calls).1.events) (h ++ s.committedFirst m o calls)
      (s.evaluateFirst m o calls).1.after := by
  unfold committedFirst evaluatedBatch
  cases fresh : s.evaluated with
  | true =>
      rw [evaluateFirst_of_evaluated fresh, if_pos rfl, History.append_empty]
      simpa [Reply.done] using b
  | false =>
      rcases hb : s.evaluateBatch m o calls s.firstRows with ⟨e | es, n⟩
      · rw [evaluateFirst_of_batch_error fresh hb]
        simpa [Reply.refuse, Except.toOption] using b
      · have hl := Batch.length_of_evaluate (congrArg Prod.fst hb)
        exact (booked_quiet _).evaluateFirst_of_batch_ok fresh hb (booked_commitFirst b fresh hl)

/-- Trials that cannot be made, or whose batch fails, are not booked. -/
theorem booked_evolve (strategy : Strategy α) (m : EvaluationMap α) (o : Objective α)
    (calls : Nat) (b : Booked events h s) (evaluated : s.evaluated = true) :
    Booked (events ++ (s.evolve strategy m o calls).1.events)
      (h ++ s.committedTrials strategy m o calls (s.evolve strategy m o calls).1.after.state)
      (s.evolve strategy m o calls).1.after := by
  unfold committedTrials evaluatedBatch
  rcases ht : s.allTrials strategy with e | ⟨points, g⟩
  · rw [evolve_of_trials_error ht]
    simpa [Reply.refuse, Except.toOption] using b
  rcases hb : s.evaluateBatch m o calls points with ⟨e | es, n⟩
  · rw [evolve_of_batch_error ht hb]
    simpa [Except.toOption, hb] using
      booked_log (.evolutionAbandoned (s.state.generation + 1) e) b
  · have hl := length_of_batch ht (congrArg Prod.fst hb)
    have left := state_checkStop (s.bred points g es)
    rw [← (evolve_of_batch_ok ht hb).2] at left
    simpa [Except.toOption, hb] using
      (booked_quiet _).evolve_of_batch_ok ht hb (booked_bred b evaluated hl left)

/-- **The accounts agree with a history after a step**, whatever its result, when what it committed
is added to the history. -/
theorem booked_step (o : Objective α) (calls : Nat) (b : Booked events h s) :
    Booked (events ++ (s.step o calls).1.events) (h ++ s.committed o calls)
      (s.step o calls).1.after := by
  unfold committed
  rcases hc : s.checkReady o with e | ⟨strategy, m⟩
  · rw [step_of_refused hc]
    simpa [Reply.refuse] using b
  cases going : s.state.isTerminated with
  | true =>
      rw [step_of_ended hc going]
      simpa [Reply.done] using b
  | false =>
      have begun := booked_evaluateFirst m o calls b
      cases hf : (s.evaluateFirst m o calls).1.result with
      | error e =>
          rw [evaluateFirst_eq_of_error hf] at begun
          rw [step_eq_of_first_error hc going hf]
          simp only [hf]
          rw [History.append_empty]
          exact begun
      | ok u =>
          have running := (booked_quiet _).running begun
          have grown := booked_evolve strategy m o (s.evaluateFirst m o calls).2 running
            (evaluated_evaluateFirst hf)
          rw [List.append_assoc] at grown
          rw [step_eq_of_first_ok hc going hf]
          simp only [hf]
          rw [← History.append_assoc]
          exact grown

/-! ## The accounts of a run -/

/-- The accounts agree with what the steps committed for as long as a user makes calls. -/
theorem booked_paced :
    Solver.Paced (fun _ => True) fun (events : List (Event α)) ps t =>
      ∃ s, t = .evolution s ∧ Booked events (.ofPaces ps) s := by
  refine Quiet.paced (fun ps => booked_quiet _) ?_ ?_
  · intro events ps s population energies best fresh b
    -- start values come before the first population, when nothing is committed
    have nothing : History.ofPaces ps = .empty := b.unevaluated fresh
    rw [nothing] at b ⊢
    exact booked_empty b.recorded b.summarised fresh b.spent b.grown
  · intro events ps s o calls _ b
    rw [History.ofPaces_concat]
    exact booked_step o calls b

/-- What other settings make of a solver that is a run of differential evolution. -/
theorem of_tuned {t : Solver α} {said : List (Event α)}
    (h : (Solver.evolution s).Tuned said t) :
    said = [] ∧ ∃ strategy watch map limits init constraints,
      t = .evolution { s with strategy, watch, map, limits, init, constraints } := by
  cases h <;> exact ⟨rfl, _, _, _, _, _, _, rfl⟩

/-- The accounts agree with what the steps committed for as long as a session is worked with. -/
theorem booked_lasting :
    Session.Lasting fun events ps t => ∃ s, t = .evolution s ∧ Booked events (.ofPaces ps) s where
  calls := booked_paced
  tuned ht := by
    -- settings are part of no account
    rintro ⟨s, rfl, b⟩
    obtain ⟨rfl, strategy, watch, map, limits, init, constraints, rfl⟩ := of_tuned ht
    rw [List.append_nil]
    exact ⟨_, rfl, b.of_eq rfl rfl rfl rfl rfl⟩

/-! ## A step by itself -/

theorem spends_invariant (usable : Objective α → Prop) (before : Nat) :
    Invariant usable fun events (t : Evolution α) => Event.Spends before events t.state.evaluations where
  log entry h := h.append_of_numbers_eq_nil rfl
  frame _ _ _ h := h
  started _ _ _ _ h := h
  first _ _ _ hb h := h.append (.records (Batch.length_of_evaluate hb))
  bred {_ s m o n strategy points g es} _ _ _ _ _ hb h := by
    have hl := Batch.length_of_evaluate hb
    have grown : (s.bred points g es).state.evaluations = s.state.evaluations + points.length := by
      show s.state.evaluations + (points.zip es).length = _
      rw [List.length_zip, hl, Nat.min_self]
    rw [grown]
    exact h.append ((Event.Spends.records hl).append_of_numbers_eq_nil rfl)

/-- Whatever becomes of a step, log and counter agree on it. -/
theorem spends_step (o : Objective α) (calls : Nat) :
    Event.Spends s.state.evaluations (s.step o calls).1.events
      (s.step o calls).1.after.state.evaluations := by
  have nothing : Event.Spends s.state.evaluations ([] : List (Event α)) s.state.evaluations :=
    .of_numbers_eq_nil rfl
  exact (spends_invariant (fun _ => True) s.state.evaluations).step trivial nothing

/-! ## What the memories of a session hold -/

/-- No batch of the run has succeeded so far. -/
structure Unstarted (s : Evolution α) : Prop where
  /-- the drawn population has no energies -/
  fresh : s.evaluated = false
  /-- no evaluation was spent -/
  evaluations : s.state.evaluations = 0
  /-- no generation was completed -/
  generation : s.state.generation = 0

theorem unstarted_prepare {box : Option (Box α)} {size : Nat} {seed : Seed}
    (prepared : (s.prepare box size seed).result = .ok ()) :
    (s.prepare box size seed).after.Unstarted := by
  obtain ⟨generator, population, start⟩ := prepare_ok prepared
  rw [start]
  exact ⟨rfl, rfl, rfl⟩

/-- The numbers of the generations' records, spelled out. -/
theorem Booked.map_broods (b : Booked events h s) :
    h.broods.map (fun b => (⟨b.state.evaluations, b.state.bestSolution, b.state.bestEnergy⟩ :
        Record α)) =
      h.broods.mapIdx fun k b =>
        ⟨s.state.population.size * (1 + (k + 1)), b.state.bestSolution, b.state.bestEnergy⟩ := by
  refine List.ext_getElem (by simp) fun k hk _ => ?_
  rw [List.length_map] at hk
  simp [(b.marks k _ (List.getElem?_eq_getElem hk)).2.2]

/-- **The memories of a session hold what its steps committed.**  A session whose solver has
not evaluated anything gets a memory for either side.  Wherever its user goes from there,
with generations that fail at any batch, requests to stop, other settings and other
objectives, let `h` be what the steps on the way committed, each on the solver and the
objective that it was made on.  The memory of the evaluations holds those of `h`, the drawn
population and then the trials of every completed generation, in order and numbered
`1, 2, …` up to the counter; the counter is the size of the population times the generations
and one; and the memory of the generations holds for each of them the best point that it left,
under the number of evaluations by then. -/
theorem evaluations_booked (s : Evolution Float) (z y : Session) (hz : z.solver = .evolution s)
    (unstarted : s.Unstarted) (watched : ∀ w, z.watching w = .memory #[])
    (ps : List (Solver.Pace Float)) (run : z.Worked ps y) :
    let h := History.ofPaces ps
    ∃ s', y.solver = .evolution s' ∧
      y.memory .evaluations = numbered 1 h.evaluated ∧
      (y.memory .evaluations).map (·.evaluations) = List.range' 1 s'.state.evaluations ∧
      (s'.evaluated = true →
        s'.state.evaluations = s'.state.population.size * (1 + s'.state.generation)) ∧
      (y.memory .generations = h.broods.mapIdx fun k b =>
        ⟨s'.state.population.size * (1 + (k + 1)), b.state.bestSolution, b.state.bestEnergy⟩) ∧
      h.broods.length = s'.state.generation ∧
      (s'.evaluated = true → h.first.length = s'.state.population.size) ∧
      ∀ k b, h.broods[k]? = some b →
        b.trials.length = s'.state.population.size ∧ b.state.generation = k + 1 := by
  have atStart : Booked [] (.ofPaces []) s :=
    booked_empty rfl rfl unstarted.fresh unstarted.evaluations unstarted.generation
  obtain ⟨events, ⟨s', hy, booked⟩, heard⟩ := run.followed booked_lasting ⟨s, hz, atStart⟩
  have evaluations : y.memory .evaluations = numbered 1 (History.ofPaces ps).evaluated :=
    (Session.memory_of_attached (watched .evaluations) heard).trans booked.recorded
  refine ⟨s', hy, evaluations, ?_, booked.rounds, ?_, booked.grown.symm, booked.drawn, ?_⟩
  · rw [evaluations, map_evaluations_numbered, booked.spent]
  · exact (Session.memory_of_attached (watched .generations) heard).trans
      (booked.summarised.trans booked.map_broods)
  · intro k b hb
    obtain ⟨trials, generation, _⟩ := booked.marks k b hb
    exact ⟨trials, generation⟩

/-! ### A run that fails in its first generation -/

/-- Four members at work on an objective that is down at the fifth evaluation, and a memory
on either side. -/
def watchedMembers : Session :=
  ((Session.start (.evolution fourMembers) downAtFifth .empty).attach .evaluations
    (.memory #[])).attach .generations (.memory #[])

/-- The steps of two calls that run one generation each. -/
def watchedPaces : List (Solver.Pace Float) :=
  watchedMembers.paces 1 ++ (watchedMembers.steps none 1).2.paces 1

/-- The conditions of `evaluations_booked` are met by two steps of which the first one fails,
after the drawn population got its energies.  The second one completes a generation, and
there are eight records then. -/
theorem evaluations_booked_watchedMembers :
    (∃ e, (watchedMembers.steps none 1).1 = .error e) ∧
      ∃ s', ((watchedMembers.steps none 1).2.steps none 1).2.solver = .evolution s' ∧
        s'.state.evaluations = 8 ∧ s'.state.generation = 1 ∧
        ((watchedMembers.steps none 1).2.steps none 1).2.memory .evaluations =
          numbered 1 (History.ofPaces watchedPaces).evaluated ∧
        (((watchedMembers.steps none 1).2.steps none 1).2.memory .evaluations).map
          (·.evaluations) = List.range' 1 8 := by
  obtain ⟨e, failed, _, _⟩ := exists_error_of_test
    (r := (watchedMembers.steps none 1).1) (by decide +kernel)
  have counts : ((watchedMembers.steps none 1).2.steps none 1).2.solver.state.evaluations = 8 ∧
      ((watchedMembers.steps none 1).2.steps none 1).2.solver.state.generation = 1 := by
    decide +kernel
  obtain ⟨_, prepared⟩ := exists_ok_of_isOk
    (r := ((standard 1 false).prepare none 4 (.number 1)).result) (by decide +kernel)
  obtain ⟨s', hy, held, numbers, _⟩ := evaluations_booked fourMembers watchedMembers _ rfl
    (unstarted_prepare prepared) (fun w => by cases w <;> rfl) watchedPaces
    ((Session.Worked.start.stepped none 1).stepped none 1)
  rw [hy] at counts
  rw [show s'.state.evaluations = 8 from counts.1] at numbers
  exact ⟨⟨e, failed⟩, s', hy, counts.1, counts.2, held, numbers⟩

end Evolution
end BoxSearch

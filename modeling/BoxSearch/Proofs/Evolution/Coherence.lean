import BoxSearch.Proofs.Evolution.Invariant
import BoxSearch.Proofs.Evolution.Selection

/-!
# What the numbers of a run mean

A run of differential evolution keeps four things that have to fit together: members,
their energies, the best point and its energy.  They are written in different places
and under different conditions, and yet, once the first population has its energies,
they always mean the same:

* each energy is the penalised value of the objective on its member, and the best
  energy, when it is below infinity, that on the best point (`State.Coherent`);
* the best energy is the lowest energy, or infinity when all are missing;
* from any state of a run to any later one, no energy gets worse, and the best one
  does not rise (`Descended`).

`State.Coherent` needs an objective that agrees with a function wherever it answers, and
a map that does not mix up its answers.  `Descended` needs neither: it holds whatever
values the batches came back with.
-/

namespace BoxSearch

variable {α : Type}

/-! ## Coherent states -/

/-- Energies and best pair of a state are what the penalised function says. -/
structure State.Coherent (c : Constraints α) (f : Point α → Float) (state : State α) : Prop where
  /-- each energy is that of its member -/
  members : List.Forall₂ (fun x e => c.applyPenalty x (f x) = .ok e)
    state.population.rows state.energies
  /-- the best energy is the lowest -/
  lowest : Energy.IsLowest state.bestEnergy state.energies
  /-- the best energy is that of the best point -/
  best : state.bestEnergy < Double.infinity →
    c.applyPenalty state.bestSolution (f state.bestSolution) = .ok state.bestEnergy

theorem State.Coherent.tidy {c : Constraints α} {f : Point α → Float} {state : State α}
    (h : state.Coherent c f) : state.Tidy :=
  ⟨h.members.length_eq, h.lowest⟩

namespace Evolution

variable [Scalar α]
variable {s : Evolution α} {o : Objective α} {m : EvaluationMap α} {strategy : Strategy α}
variable {c : Constraints α} {f : Point α → Float} {usable : Objective α → Prop}
variable {points : List (Point α)} {es : List Float} {g : Generator} {n : Nat}

/-- The energies of the first population make a coherent state. -/
theorem coherent_commitFirst (he : Batch.energies c f s.firstRows = some es) :
    (s.commitFirst s.firstRows es).state.Coherent c f := by
  have members := Batch.of_energies_eq_some he
  exact ⟨members, Energy.isLowest_argmin es,
    row_argmin (s.commitFirst s.firstRows es).state.population members⟩

/-- The energies of the trials leave a coherent state coherent. -/
theorem coherent_bred (h : s.state.Coherent c f) (he : Batch.energies c f points = some es)
    (hl : (points.zip es).length = s.state.population.rows.length) :
    (s.bred points g es).state.Coherent c f := by
  have trials : ∀ p ∈ points.zip es, c.applyPenalty p.1 (f p.1) = .ok p.2 :=
    fun p hp => of_mem_zip (Batch.of_energies_eq_some he) hp
  have members := forall₂_select h.members trials
  exact ⟨members, (tidy_select h.tidy hl).lowest, best_select members h.best⟩

/-- A run with the given constraints and only faithful maps is coherent from the moment
in which its first population is evaluated. -/
def CoherentRun (c : Constraints α) (f : Point α → Float) (s : Evolution α) : Prop :=
  s.constraints = c ∧ (∀ m, s.map = some m → m.Faithful) ∧
    (s.evaluated = true → s.state.Coherent c f)

theorem coherentRun_invariant (c : Constraints α) (f : Point α → Float) :
    Invariant (·.AgreesWith f) fun _ s => CoherentRun c f s where
  log _ h := h
  frame _ _ _ h := ⟨h.1, h.2.1, fun hs => ⟨(h.2.2 hs).members, (h.2.2 hs).lowest, (h.2.2 hs).best⟩⟩
  started _ _ _ fresh h := by
    refine ⟨h.1, h.2.1, fun hs => ?_⟩
    cases fresh.symm.trans hs
  first := by
    rintro events s m o n es agrees hm _ hb ⟨rfl, faithful, _⟩
    exact ⟨rfl, faithful, fun _ =>
      coherent_commitFirst (Batch.evaluate_of_faithful (faithful m hm) agrees hb)⟩
  bred := by
    rintro events s m o n strategy points g es agrees hm _ evaluated ht hb ⟨rfl, faithful, h⟩
    have he := Batch.evaluate_of_faithful (faithful m hm) agrees hb
    exact ⟨rfl, faithful, fun _ => coherent_bred (h evaluated) he (length_of_batch ht hb)⟩

/-! ## Later states -/

/-- Once the first population is evaluated a run only descends. -/
theorem descended_invariant (before : State α) :
    Invariant usable fun _ s => s.evaluated = true ∧ Descended before s.state where
  log _ h := h
  frame _ _ _ h := ⟨h.1, ⟨h.2.tidy.1, h.2.tidy.2⟩, h.2.energies, h.2.best⟩
  started _ _ _ fresh h := by cases fresh.symm.trans h.1
  first _ _ fresh _ h := by cases fresh.symm.trans h.1
  bred _ _ _ _ ht hb h := ⟨h.1, h.2.select (length_of_batch ht hb)⟩

/-! ## Runs -/

/-- What a solver that was made ready is at the start of its run. -/
theorem prepare_ok {box : Option (Box α)} {size : Nat} {seed : Seed}
    (h : (s.prepare box size seed).result = .ok ()) :
    ∃ generator population, (s.prepare box size seed).after =
      { s with box, generator, state := .start population, ready := true, evaluated := false,
               token := .fresh, watch := s.watch.map Watch.reset } := by
  unfold prepare at h ⊢
  cases hc : checkStart s.dim box size with
  | error e => rw [hc] at h; cases h
  | ok u => exact ⟨_, _, rfl⟩

/-- **What the numbers of a run mean, wherever it leads.**  A solver is made ready and
then called in any order: start values, steps and calls of `solve` that succeed or fail,
requests to stop.  Once the first population is evaluated there is one energy per member,
each the penalised value of the objective on it; the best energy is a number, the lowest
of them, and below infinity it is the penalised value on the best point.  In every later
state no energy that is a number has risen, and neither has the best one. -/
theorem coherent_wherever_reached (s : Evolution α) (box : Option (Box α)) (size : Nat)
    (seed : Seed) (f : Point α → Float)
    (prepared : (s.prepare box size seed).result = .ok ())
    (faithful : ∀ m, s.map = some m → m.Faithful) (events : List (Event α)) (t : Solver α)
    (run : Solver.Reached (·.AgreesWith f) (.evolution (s.prepare box size seed).after)
      events t) :
    ∃ s', t = .evolution s' ∧ (s'.evaluated = true →
      s'.state.population.rows.length = s'.state.energies.length ∧
        s'.state.Coherent s.constraints f ∧
        ∀ later u, Solver.Reached (·.AgreesWith f) t later u →
          ∃ s'', u = .evolution s'' ∧ s''.evaluated = true ∧
            List.Forall₂ (fun e' e => e.isNaN = false → e' ≤ e)
              s''.state.energies s'.state.energies ∧
            s''.state.bestEnergy ≤ s'.state.bestEnergy) := by
  obtain ⟨generator, population, start⟩ := prepare_ok prepared
  have atStart : CoherentRun s.constraints f (s.prepare box size seed).after := by
    rw [start]
    exact ⟨rfl, faithful, fun hs => by cases hs⟩
  obtain ⟨s', rfl, _, _, coherent⟩ :=
    (coherentRun_invariant s.constraints f).of_reached atStart run
  refine ⟨s', rfl, fun evaluated => ?_⟩
  have here := coherent evaluated
  refine ⟨here.tidy.aligned, here, fun later u rest => ?_⟩
  obtain ⟨s'', rfl, evaluated', below⟩ := (descended_invariant s'.state).of_reached
    ⟨evaluated, .refl here.tidy⟩ rest
  exact ⟨s'', rfl, evaluated', below.energies.imp fun e' e h => h.le,
    below.best.le here.lowest.number⟩

/-- The square of a coordinate, which has no value right of -520. -/
def scarce (x : Point Float) : Float :=
  if -520 < x.headD 0 then Double.nan else (x.map fun v => v * v).sum

/-- The conditions of `coherent_wherever_reached` are met by a run of one step of four
members on a line, whose first population is evaluated then. -/
theorem coherent_wherever_reached_fourMembers :
    ∃ s' : Evolution Float, (fourMembers.step (.ofFunction scarce) 0).1.after = s' ∧
      s'.evaluated = true ∧ s'.state.Coherent .none scarce := by
  obtain ⟨_, prepared⟩ := exists_ok_of_isOk
    (r := ((standard 1 false).prepare none 4 (.number 1)).result) (by decide +kernel)
  have faithful : ∀ m, (standard 1 false).map = some m → m.Faithful := by
    intro m hm
    cases hm
    exact EvaluationMap.serial_orderly.faithful
  have run : Solver.Reached (·.AgreesWith scarce) (.evolution fourMembers) _ _ :=
    .stepped 0 .start (Objective.ofFunction_agreesWith scarce)
  obtain ⟨s', hs', h⟩ :=
    coherent_wherever_reached (standard 1 false) none 4 (.number 1) scarce prepared faithful
      _ _ run
  have same : (fourMembers.step (.ofFunction scarce) 0).1.after = s' :=
    Solver.evolution.inj ((step_evolution_after fourMembers).symm.trans hs')
  have evaluated : (fourMembers.step (.ofFunction scarce) 0).1.after.evaluated = true := by
    decide +kernel
  rw [same] at evaluated
  exact ⟨s', same, evaluated, (h evaluated).2.1⟩

end Evolution
end BoxSearch

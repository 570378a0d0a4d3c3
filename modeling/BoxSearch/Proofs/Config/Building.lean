import BoxSearch.Config.Basic
import BoxSearch.Proofs.Evolution.Failing
import BoxSearch.Proofs.Solver.Caps

/-!
# A solver that was built can only fail in its objective

A solver made of a configuration has its plug-ins, a box of its dimension, and, where the
configuration does not say how many members there are, as many as its strategy asks for.
Nothing that a run does takes any of this away again.

* `Config.install_eq_ok`, `Config.build_eq_ok` — what building comes to;
* `Config.built_of_build` — a solver that was built has a sound run before it, whatever the
  configuration says apart from the number of members;
* `Solver.Operated` — where steps, calls of `solve` and requests to stop lead;
* `build_fails_only_in_objective` — wherever they lead, a step or a call of `solve` fails with an
  evaluation error and in no other way, with the one exception of a criterion with a window that
  cannot be counted, which breaks the run where it is asked.
-/

namespace BoxSearch

/-! ## Runs -/

namespace Solver

variable {α : Type} [Scalar α] {usable : Objective α → Prop} {s t : Solver α} {o : Objective α}

/-- Steps, calls of `solve`, and requests to stop, made or taken back at any time, lead to another
solver; objectives are of a certain kind. -/
inductive Operated (usable : Objective α → Prop) (s : Solver α) : Solver α → Prop
  /-- nothing was done -/
  | start : Operated usable s s
  /-- a step was made -/
  | stepped {t : Solver α} {o : Objective α} (calls : Nat) (before : Operated usable s t)
      (ho : usable o) : Operated usable s (t.step o calls).1.after
  /-- the solver was solved with -/
  | solved {t : Solver α} {o : Objective α} (asks : Event α → Bool) (calls : Nat)
      (budget : Option Nat) (before : Operated usable s t) (ho : usable o) :
      Operated usable s (t.solve asks o calls budget).1.after
  /-- a request to stop was made, or taken back -/
  | asked {t : Solver α} (token : CancelToken) (before : Operated usable s t) :
      Operated usable s (t.setToken token)
  /-- it was recorded that a request was seen -/
  | marked {t : Solver α} (before : Operated usable s t) : Operated usable s t.markCancelled

/-- A property of a solver survives its steps, requests to stop, and their marks. -/
structure Kept (usable : Objective α → Prop) (P : Solver α → Prop) : Prop where
  step : ∀ {s o} (calls : Nat), usable o → P s → P (s.step o calls).1.after
  token : ∀ {s} (token : CancelToken), P s → P (s.setToken token)
  marked : ∀ {s}, P s → P s.markCancelled

namespace Kept

variable {P : Solver α → Prop}

/-- A call that has no step to make keeps what marks and tokens keep, and does not fail. -/
theorem returning (kept : Kept usable P) (h : P s) {left : Nat} (ht : s.turn left ≠ .due)
    (asks : Event α → Bool) (calls : Nat) (past : List (Event α)) :
    P (Solver.solveFrom asks o left calls past s).1.after ∧
      (Solver.solveFrom asks o left calls past s).1.result = .ok () := by
  rcases turn_cases s left with ⟨_, _, due⟩ | cancelled | done
  · exact absurd due ht
  · rw [solveFrom_cancelled cancelled]
    exact ⟨kept.marked (kept.token _ h), rfl⟩
  · rw [solveFrom_done done]
    exact ⟨h, rfl⟩

/-- A call of `solve` keeps what its steps keep, and fails where one of them fails. -/
theorem solveFrom (kept : Kept usable P) (ho : usable o) (h : P s) (asks : Event α → Bool)
    (left calls : Nat) (past : List (Event α)) :
    P (solveFrom asks o left calls past s).1.after ∧
      ∀ e, (solveFrom asks o left calls past s).1.result = .error e →
        ∃ u n, P u ∧ (u.step o n).1.result = .error e := by
  induction left generalizing calls past s with
  | zero =>
      have none_left : s.turn 0 ≠ .due := fun due => (turn_eq_due_iff.1 due).2.2 rfl
      obtain ⟨after, result⟩ := kept.returning (o := o) h none_left asks calls past
      exact ⟨after, fun e he => by cases result.symm.trans he⟩
  | succ left ih =>
      by_cases due : s.turn (left + 1) = .due
      · rw [solveFrom_due due]
        have heeded : P (heed asks (s.step o calls).1) := by
          unfold heed
          split
          · exact kept.token _ (kept.step calls ho h)
          · exact kept.step calls ho h
        unfold solveOn
        cases hr : (s.step o calls).1.result with
        | error e =>
            refine ⟨heeded, fun e' he => ?_⟩
            cases he
            exact ⟨s, calls, h, hr⟩
        | ok b =>
            cases b with
            | true => exact ⟨heeded, nofun⟩
            | false => exact ih heeded _ _
      · obtain ⟨after, result⟩ := kept.returning (o := o) h due asks calls past
        exact ⟨after, fun e he => by cases result.symm.trans he⟩

/-- **What steps keep holds wherever a run leads.** -/
theorem of_operated (kept : Kept usable P) (h : P s) (run : Operated usable s t) : P t := by
  induction run with
  | start => exact h
  | stepped calls _ ho ih => exact kept.step calls ho ih
  | solved asks calls budget _ ho ih => exact (kept.solveFrom ho ih asks _ calls []).1
  | asked token _ ih => exact kept.token token ih
  | marked _ ih => exact kept.marked ih

end Kept

end Solver

/-! ## Building -/

theorem Repair.length_wholeMarked {α : Type} [Scalar α] (sides : List (Bool × Interval α))
    (x : Point α) : (wholeMarked sides x).length = x.length := by
  induction sides generalizing x with
  | nil => simp only [wholeMarked]
  | cons side sides ih =>
      cases x with
      | nil => rfl
      | cons v x => simp only [wholeMarked, List.length_cons, ih]

theorem MapKind.orderly_build {α : Type} (kind : MapKind) (threads : Option Nat) :
    (kind.build threads : EvaluationMap α).Orderly := by
  cases kind with
  | serial => exact EvaluationMap.serial_orderly
  | threaded => exact EvaluationMap.threaded_orderly _
  | workerPool => exact EvaluationMap.pool_orderly _

namespace Config

variable {c : Config} {box : Box Float} {timed : Bool} {entropy : Entropy} {s : Evolution Float}

/-- The strategy of a configuration. -/
def differential (c : Config) : Differential Float := ⟨c.variant, c.mutation, c.rate⟩

theorem make_eq_ok {variant : Variant} {mutation : Mutation Float} {rate : Float}
    {d : Differential Float} (h : Differential.make variant mutation rate = .ok d) :
    d = ⟨variant, mutation, rate⟩ := by
  unfold Differential.make at h
  cases hv : mutation.validate with
  | error e =>
      rw [hv] at h
      cases h
  | ok u =>
      simp only [hv, bind, Except.bind] at h
      split at h
      · exact (Except.ok.inj h).symm
      · cases h

/-- Rounding of marked coordinates keeps the dimension, and there is no penalty. -/
theorem unfailing_constraints {k : Constraints Float} (h : c.constraints box = .ok k) :
    k.Unfailing := by
  unfold constraints at h
  cases hm : c.integrality with
  | none =>
      rw [hm] at h
      cases h
      exact Constraints.unfailing_none
  | some mask =>
      rw [hm] at h
      by_cases hl : mask.length = box.dim
      · simp only [Repair.integrality, if_pos hl] at h
        cases h
        exact ⟨Repair.length_wholeMarked _, fun _ v => ⟨v, rfl⟩⟩
      · simp only [Repair.integrality, if_neg hl] at h
        cases h

/-- What a configuration installs. -/
theorem install_eq_ok (h : c.install box timed = .ok s) :
    s.dim = box.dim ∧ s.strategy = some c.differential.toStrategy ∧
      s.map = some (c.map.build c.threads) ∧ s.watch = some (.ofCriterion c.criterion) ∧
      c.constraints box = .ok s.constraints := by
  unfold install at h
  cases hd : Differential.make c.variant c.mutation c.rate with
  | error e =>
      simp only [hd, bind, Except.bind] at h
      cases h
  | ok d =>
      cases hk : c.constraints box with
      | error e =>
          simp only [hd, hk, bind, Except.bind] at h
          cases h
      | ok k =>
          simp only [hd, hk, bind, Except.bind] at h
          cases h
          have made := make_eq_ok hd
          exact ⟨rfl, congrArg (fun d => some (Differential.toStrategy d)) made, rfl, rfl, rfl⟩

/-- What building does: the solver that is installed is made ready in the box, and its first member
may be replaced by a start point. -/
theorem build_eq_ok (h : (c.build box timed entropy).1 = .ok s) :
    ∃ t seed, c.install box timed = .ok t ∧
      (t.prepare (some box) (c.resolvedPopulation box) seed).result = .ok () ∧
      (s = (t.prepare (some box) (c.resolvedPopulation box) seed).after ∨
        ∃ x, (t.prepare (some box) (c.resolvedPopulation box) seed).after.setInitialGuess x =
          .ok s) := by
  unfold build at h
  cases hi : c.install box timed with
  | error e =>
      rw [hi] at h
      cases h
  | ok t =>
      simp only [hi] at h
      refine ⟨t, .ofNumber? entropy c.seed, rfl, ?_⟩
      cases hr : (t.prepare (some box) (c.resolvedPopulation box)
          (.ofNumber? entropy c.seed)).result with
      | error e =>
          rw [hr] at h
          cases h
      | ok u =>
          refine ⟨rfl, ?_⟩
          rw [hr] at h
          cases hg : c.guess with
          | none =>
              rw [hg] at h
              cases h
              exact .inl rfl
          | some x =>
              rw [hg] at h
              exact .inr ⟨x, h⟩

/-- Without a start point the solver is built if it can be installed and made ready. -/
theorem build_of_checkStart {t : Evolution Float} {u : Unit}
    (installed : c.install box timed = .ok t)
    (checked : Evolution.checkStart t.dim (some box) (c.resolvedPopulation box) = .ok u)
    (unguided : c.guess = none) :
    (c.build box timed entropy).1 =
      .ok (t.prepare (some box) (c.resolvedPopulation box) (.ofNumber? entropy c.seed)).after := by
  simp only [build, installed, Evolution.prepare, checked, unguided]
  rfl

/-- A solver as a configuration builds it: a sound run is before it, with the criterion of the
configuration, in a box of its dimension. -/
structure Built (c : Config) (box : Box Float) (s : Evolution Float) : Prop where
  sound : s.Sound c.differential.toStrategy (c.map.build c.threads) (c.resolvedPopulation box)
  dim : s.dim = box.dim
  wide : 0 < box.dim
  criterion : s.watch.map Watch.criterion = some c.criterion

/-- Without a number of members there are enough of them. -/
theorem minPopulation_le_resolved (default : c.populationSize = none) (box : Box Float) :
    c.variant.minPopulation ≤ c.resolvedPopulation box := by
  rw [resolvedPopulation, default]
  exact Nat.le_max_right ..

theorem built_prepare {seed : Seed} (default : c.populationSize = none)
    (h : c.install box timed = .ok s)
    (prepared : (s.prepare (some box) (c.resolvedPopulation box) seed).result = .ok ()) :
    c.Built box (s.prepare (some box) (c.resolvedPopulation box) seed).after := by
  obtain ⟨dim, strategy, map, watch, constraints⟩ := install_eq_ok h
  have wide : 0 < s.dim := by
    cases hc : Evolution.checkStart s.dim (some box) (c.resolvedPopulation box) with
    | error e =>
        simp only [Evolution.prepare, hc] at prepared
        cases prepared
    | ok u => exact (Evolution.drawn_of_checkStart hc).1
  have sound := Evolution.sound_prepare prepared strategy (c.differential.unfailing wide) rfl
    (minPopulation_le_resolved default box) map (c.map.orderly_build c.threads) (watch ▸ rfl)
    (unfailing_constraints constraints)
  obtain ⟨generator, population, after⟩ := Evolution.prepare_ok prepared
  rw [after] at sound ⊢
  refine ⟨sound, dim, dim ▸ wide, ?_⟩
  show (s.watch.map Watch.reset).map Watch.criterion = some c.criterion
  rw [Watch.map_criterion_map_reset, watch, Option.map_some, Watch.criterion_ofCriterion]

/-- A start point takes the place of one member. -/
theorem Built.guessed (built : c.Built box s) {x : Point Float} {t : Evolution Float}
    (h : s.setInitialGuess x = .ok t) : c.Built box t := by
  obtain ⟨fresh, length, rfl⟩ := Evolution.setInitialGuess_eq_ok h
  have sound := built.sound
  have clipped : (s.clip x).length = s.dim := by
    unfold Evolution.clip
    cases s.box with
    | none => exact length
    | some b => exact (b.length_clip x).trans length
  have kept : (s.state.population.setRow 0 (s.clip x)).size = c.resolvedPopulation box :=
    (List.length_set ..).trans sound.members
  refine ⟨sound.withState s.evaluated s.generator (sound.table.setRow clipped) kept ?_ sound.fresh,
    built.dim, built.wide, built.criterion⟩
  intro evaluated
  cases fresh.symm.trans evaluated

/-- **A solver that was built has a sound run before it.** -/
theorem built_of_build (default : c.populationSize = none)
    (h : (c.build box timed entropy).1 = .ok s) : c.Built box s := by
  obtain ⟨t, _, installed, prepared, rfl | ⟨x, guessed⟩⟩ := build_eq_ok h
  · exact built_prepare default installed prepared
  · exact (built_prepare default installed prepared).guessed guessed

/-! ## Runs of a built solver -/

/-- How a run of a configuration may fail: in the objective, or where the criterion is asked
although a window of it cannot be counted. -/
def Excuses (c : Config) (e : SolverError) : Prop :=
  e.OfEvaluation ∨ (e = .fault .overflow ∧ c.criterion.faultless = false)

/-- Only the objective makes an operation fail. -/
structure OnlyObjectiveFails {ρ : Type} (c : Config) (result : Except SolverError ρ) : Prop where
  /-- every error that is returned is one of the evaluation -/
  returned : ∀ e, result = .error e → e.fault? = none → e.OfEvaluation
  /-- no list is read outside its range and no index is drawn from nothing; what can break the
  operation is a window of the criterion that 64 bits do not count -/
  unbroken : ∀ f, result = .error (.fault f) → f = .overflow ∧ c.criterion.faultless = false

theorem OnlyObjectiveFails.of_excuses {ρ : Type} {result : Except SolverError ρ}
    (excused : ∀ e, result = .error e → c.Excuses e) : c.OnlyObjectiveFails result where
  returned := by
    intro e failed sound
    rcases excused e failed with h | ⟨rfl, _⟩
    · exact h
    · cases sound
  unbroken := by
    intro f failed
    rcases excused _ failed with ⟨_, _, h⟩ | ⟨h, uncounted⟩
    · cases h
    · cases h
      exact ⟨rfl, uncounted⟩

/-- The objectives of a run in a box: those that declare no other dimension. -/
abbrev Suits (box : Box Float) (o : Objective Float) : Prop := o.checkDimension box.dim = .ok ()

theorem Built.step_error (built : c.Built box s) {o : Objective Float} (suits : Suits box o)
    {calls : Nat} {e : SolverError} (failed : (s.step o calls).1.result = .error e) :
    c.Excuses e := by
  have dimension : o.checkDimension s.dim = .ok () := by
    rw [built.dim]
    exact suits
  rcases built.sound.step_error dimension failed with h | ⟨rfl, d, hd, uncounted⟩
  · exact Or.inl h
  · cases built.criterion.symm.trans hd
    exact Or.inr ⟨rfl, uncounted⟩

theorem Built.kept : Solver.Kept (Suits box) fun t => ∃ s, t = .evolution s ∧ c.Built box s where
  step := by
    rintro _ o calls _ ⟨s, rfl, built⟩
    have same := Evolution.same_of_settings (Evolution.settings_step s o calls)
    exact ⟨_, rfl, built.sound.after_step o calls, same.1.trans built.dim, built.wide,
      same.2.2.2.2.2.trans built.criterion⟩
  token := by
    rintro _ token ⟨s, rfl, built⟩
    have sound := built.sound
    exact ⟨_, rfl, ⟨sound.ready, sound.plan, sound.unfailing, sound.batches, sound.orderly,
      sound.watch, sound.constraints, sound.table, sound.members, sound.enough, sound.rounds,
      sound.fresh⟩, built.dim, built.wide, built.criterion⟩
  marked := by
    rintro _ ⟨s, rfl, built⟩
    have sound := built.sound
    exact ⟨_, rfl, sound.withState s.evaluated s.generator sound.table sound.members sound.rounds
      sound.fresh, built.dim, built.wide, built.criterion⟩

/-- **A solver that was built can only fail in its objective.**  Let a configuration leave the
number of members open, and let a solver be built of it, with a seed or by chance.  Wherever steps, calls of `solve` and
requests to stop have led, with objectives that declare no other dimension and fail as they like:
the population is a table of as many members as the strategy asks for, its best member is one of
them, only the objective makes a step or a call of `solve` fail, and a step whose trials are made
with every draw, swap and access checked does the same. -/
theorem build_fails_only_in_objective (c : Config) (box : Box Float) (timed : Bool)
    (entropy : Entropy) (s : Evolution Float) (t : Solver Float)
    (default : c.populationSize = none) (built : (c.build box timed entropy).1 = .ok s)
    (run : Solver.Operated (Suits box) (.evolution s) t) :
    ∃ u : Evolution Float, t = .evolution u ∧
      u.state.population.Table box.dim ∧ c.variant.minPopulation ≤ u.state.population.size ∧
      (u.evaluated = true → u.state.energies.length = u.state.population.size ∧
        (Energy.argmin u.state.energies).1 < u.state.population.size) ∧
      ∀ o, Suits box o → ∀ calls,
        c.OnlyObjectiveFails (t.step o calls).1.result ∧
        (∀ asks budget, c.OnlyObjectiveFails (t.solve asks o calls budget).1.result) ∧
        (u.checked c.differential).step o calls =
          ((u.step o calls).1.lift (.checked c.differential), (u.step o calls).2) := by
  obtain ⟨u, rfl, reached⟩ := Built.kept.of_operated ⟨s, rfl, built_of_build default built⟩ run
  have sound := reached.sound
  have enough := sound.members.symm ▸ minPopulation_le_resolved default box
  refine ⟨u, rfl, reached.dim ▸ sound.table, enough, ?_, fun o suits calls => ⟨?_, ?_, ?_⟩⟩
  · intro evaluated
    have aligned := (sound.rounds evaluated).1.trans sound.members.symm
    have member : 0 < u.state.population.size := Nat.lt_of_lt_of_le (Nat.succ_pos _) enough
    exact ⟨aligned, Differential.argmin_lt_size member aligned⟩
  · exact .of_excuses fun e failed => reached.step_error suits failed
  · refine fun asks budget => .of_excuses fun e failed => ?_
    obtain ⟨v, n, ⟨w, rfl, reached'⟩, failed'⟩ :=
      (Built.kept.solveFrom suits ⟨u, rfl, reached⟩ asks _ calls []).2 e failed
    exact reached'.step_error suits failed'
  · exact sound.step_checked (reached.dim.symm ▸ reached.wide) (reached.dim.symm ▸ suits) calls

/-! ### A box with a fixed side -/

/-- Two dimensions, of which the second one is fixed. -/
def halfFixed : Box Float :=
  ⟨[⟨0.0, 1.0, by decide +kernel⟩, ⟨2.0, 2.0, by decide +kernel⟩]⟩

theorem build_halfFixed (entropy : Entropy) :
    ∃ s, (Config.standard.build halfFixed false entropy).1 = .ok s := by
  have installed : (Config.standard.install halfFixed false).isOk = true := by decide +kernel
  obtain ⟨t, ht⟩ := exists_ok_of_isOk installed
  have checked : (Evolution.checkStart t.dim (some halfFixed)
      (Config.standard.resolvedPopulation halfFixed)).isOk = true := by
    rw [(install_eq_ok ht).1]
    decide +kernel
  obtain ⟨u, hu⟩ := exists_ok_of_isOk checked
  exact ⟨_, build_of_checkStart ht hu rfl⟩

/-- An objective without any value. -/
def alwaysDown : Objective Float := .ofFallible fun _ => .error (.refused "down")

/-- A step on an objective without any value fails, and after a request to stop the next one fails
in no other way. -/
theorem build_fails_only_in_objective_halfFixed :
    ∃ s, (Config.standard.build halfFixed false .frozen).1 = .ok s ∧
      ∃ u : Evolution Float,
        ((Solver.evolution s).step alwaysDown 0).1.after.cancel = .evolution u ∧
        4 ≤ u.state.population.size ∧
        ∀ e, (u.step alwaysDown 0).1.result = .error e → e.OfEvaluation := by
  obtain ⟨s, built⟩ := build_halfFixed .frozen
  have suits : Suits halfFixed alwaysDown := rfl
  obtain ⟨u, hu, -, enough, -, fails⟩ := build_fails_only_in_objective Config.standard halfFixed
    false .frozen s _ rfl built (.asked _ (.stepped 0 .start suits))
  have only := (fails _ suits 0).1
  rw [hu] at only
  refine ⟨s, built, u, hu, enough, fun e failed => only.returned e failed ?_⟩
  cases broken : e.fault? with
  | none => rfl
  | some f =>
      have fault : e = .fault f := by
        cases e <;> cases broken
        rfl
      rw [fault] at failed
      cases (only.unbroken f failed).2

end Config
end BoxSearch

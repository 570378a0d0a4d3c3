import BoxSearch.Proofs.Criterion.Memoryless
import BoxSearch.Proofs.EvaluationMap.Matched
import BoxSearch.Proofs.Evolution.Accounting
import BoxSearch.Proofs.Evolution.Inside

/-!
# Generations that cannot fail

A generation has many ways to fail, and each of them has its cause in one of the things
that a user puts in.  This file excludes the causes one by one, and what is left is a
generation that comes to the question whether the run ends.

* `Objective.Unfailing`, `Constraints.Unfailing`, `Strategy.Unfailing` — the objective has a
  value everywhere, the repair keeps the dimension and the penalty has a value, the strategy
  has a trial for every member of a population that is large enough for it.  All variants of
  differential evolution are unfailing strategies (`Differential.unfailing`).
* `Sound` — a run with such plug-ins and an orderly map, whose counters are those of whole
  rounds of its population.
* `Sound.step` — a step of a sound run is the question whether the run ends, asked of a
  sound run with one generation more.
-/

namespace BoxSearch

variable {α : Type}

/-! ## Plug-ins -/

/-- The objective has a value at every point, on whatever call. -/
def Objective.Unfailing (o : Objective α) : Prop := ∀ n x, ∃ v, o.eval n x = .ok v

/-- Repairs keep the dimension, and penalties have values. -/
structure Constraints.Unfailing (c : Constraints α) : Prop where
  repair : c.KeepLength
  penalty : ∀ x v, ∃ w, c.applyPenalty x v = .ok w

theorem Constraints.unfailing_none : (Constraints.none : Constraints α).Unfailing :=
  ⟨fun _ => rfl, fun _ v => ⟨v, rfl⟩⟩

/-- The strategy has a trial for every member of a large enough table with its energies,
and the trial has the dimension of the members. -/
structure Strategy.Unfailing (dim : Nat) (strategy : Strategy α) : Prop where
  answers : ∀ n p es target g, strategy.minPopulation = .ok n → n ≤ p.size → p.Table dim →
    es.length = p.size → target < p.size → ∃ r, strategy.generate p es target g = .ok r
  fits : strategy.Fits dim

namespace Differential

variable [Scalar α]

/-- **Every variant of differential evolution is an unfailing strategy**: its check refuses
only what the population of a run is not. -/
theorem unfailing (d : Differential α) {dim : Nat} (pos : 0 < dim) :
    d.toStrategy.Unfailing dim where
  answers n p es target g hn large table hes htarget := by
    have minimum : n = d.variant.minPopulation := (Except.ok.inj hn).symm
    have passes : d.check p es target = .ok () :=
      check_eq_ok table pos (minimum ▸ large) htarget hes
    refine ⟨d.trial p es target g, ?_⟩
    simp only [toStrategy, generate, passes, bind, Except.bind]
  fits := d.fits dim

end Differential

/-! ## Clipping -/

namespace Box

variable [Scalar α]

theorem length_clipSides (sides : List (Interval α)) (x : Point α) :
    (clipSides sides x).length = x.length := by
  induction sides generalizing x with
  | nil => simp only [clipSides]
  | cons s sides ih =>
      cases x with
      | nil => rfl
      | cons v x => exact congrArg (· + 1) (ih x)

/-- Clipping keeps the dimension of a point. -/
theorem length_clip (b : Box α) (x : Point α) :
    (b.clip x).length = x.length := length_clipSides b.sides x

end Box

/-! ## Batches -/

namespace EvaluationMap

variable {o : Objective α} {m : EvaluationMap α}

theorem each_of_unfailing (unfailing : o.Unfailing) (index calls : Nat) (xs : List (Point α)) :
    ∃ vs : List Float, (each o index calls xs).1 = vs.map .ok := by
  induction xs generalizing index calls with
  | nil => exact ⟨[], rfl⟩
  | cons x xs ih =>
      obtain ⟨v, hv⟩ := unfailing calls x
      obtain ⟨vs, hvs⟩ := ih (index + 1) (calls + 1)
      refine ⟨v :: vs, ?_⟩
      rw [each_cons, hvs, Objective.evaluateAt, hv]
      rfl

/-- An orderly map answers on an objective that never fails. -/
theorem Orderly.answers (orderly : m.Orderly) (unfailing : o.Unfailing) (calls : Nat)
    (xs : List (Point α)) : ∃ vs, (m.evaluate o calls xs).1 = .ok vs := by
  obtain ⟨vs, hvs⟩ := each_of_unfailing unfailing 0 calls xs
  exact ⟨vs, by rw [orderly, hvs, gather_map_ok]⟩

end EvaluationMap

theorem Constraints.Unfailing.applyPenalties {c : Constraints α} (h : c.Unfailing)
    (pairs : List (Point α × Float)) : ∃ es, c.applyPenalties pairs = .ok es := by
  induction pairs with
  | nil => exact ⟨[], rfl⟩
  | cons p pairs ih =>
      obtain ⟨e, he⟩ := h.penalty p.1 p.2
      obtain ⟨es, hes⟩ := ih
      refine ⟨e :: es, ?_⟩
      rw [Constraints.applyPenalties, he, hes]
      rfl

/-- A batch succeeds when neither objective nor map nor penalty fails. -/
theorem Batch.evaluate_of_unfailing {o : Objective α} {m : EvaluationMap α} {c : Constraints α}
    (orderly : m.Orderly) (unfailing : o.Unfailing) (penalty : c.Unfailing) (name : String)
    (calls : Nat) (xs : List (Point α)) : ∃ es, (evaluate m name c o calls xs).1 = .ok es := by
  obtain ⟨vs, hvs⟩ := orderly.answers unfailing calls xs
  obtain ⟨es, hes⟩ := penalty.applyPenalties (xs.zip vs)
  have hl : vs.length = xs.length := orderly.length hvs
  refine ⟨es, ?_⟩
  unfold evaluate
  rcases hm : m.evaluate o calls xs with ⟨r, n⟩
  rw [hm] at hvs
  cases hvs
  simp only [if_pos hl, hes]

/-! ## Selection -/

/-- A selection between points of one dimension leaves a table. -/
theorem Population.Table.select {dim : Nat} {state : State α} {trials : List (Point α × Float)}
    (table : state.population.Table dim) (lengths : ∀ p ∈ trials, p.1.length = dim) :
    (Evolution.select state trials).population.Table dim := by
  refine ⟨table.width, fun x hx => ?_⟩
  rw [Evolution.rows_select] at hx
  obtain ⟨p, hp, rfl⟩ := List.mem_map.1 hx
  obtain ⟨i, hi⟩ := List.mem_iff_getElem?.1 hp
  obtain ⟨target, trial, htarget, htrial, rfl⟩ := List.getElem?_zipWith_eq_some.1 hi
  rcases Evolution.survivor_cases target trial with hs | hs
  · rw [hs]
    exact table.lengths _ (List.of_mem_zip (List.mem_of_getElem? htarget)).1
  · rw [hs]
    exact lengths _ (List.mem_of_getElem? htrial)

/-! ## Sound runs -/

namespace Evolution

variable [Scalar α] {s t : Evolution α} {o : Objective α} {m : EvaluationMap α}
variable {strategy : Strategy α} {size calls : Nat}

/-- A run that has all that a generation needs, none of which can fail: `size` members, as
many as the strategy asks for, and counters of whole rounds. -/
structure Sound (strategy : Strategy α) (m : EvaluationMap α) (size : Nat) (s : Evolution α) :
    Prop where
  /-- a population was drawn -/
  ready : s.ready = true
  /-- the trials are those of the strategy -/
  plan : s.strategy = some strategy
  /-- which never fails -/
  unfailing : strategy.Unfailing s.dim
  /-- the batches are worked off by the map -/
  batches : s.map = some m
  /-- in their order -/
  orderly : m.Orderly
  /-- there is a criterion -/
  watch : s.watch.isSome = true
  /-- repair and penalty never fail -/
  constraints : s.constraints.Unfailing
  /-- the members have the dimension of the problem -/
  table : s.state.population.Table s.dim
  /-- there is this number of them -/
  members : s.state.population.size = size
  /-- the strategy accepts it -/
  enough : ∃ n, strategy.minPopulation = .ok n ∧ n ≤ size
  /-- an evaluated population has its energies, and all rounds were whole -/
  rounds : s.evaluated = true → s.state.energies.length = size ∧
    s.state.evaluations = size * (1 + s.state.generation)
  /-- before that nothing was counted -/
  fresh : s.evaluated = false → s.state.evaluations = 0 ∧ s.state.generation = 0

namespace Sound

theorem evaluateBatch (h : s.Sound strategy m size) (unfailing : o.Unfailing) (calls : Nat)
    (xs : List (Point α)) : ∃ es n, s.evaluateBatch m o calls xs = (.ok es, n) ∧
      es.length = xs.length := by
  obtain ⟨es, hes⟩ := Batch.evaluate_of_unfailing h.orderly unfailing h.constraints
    ("map '" ++ m.name ++ "'") calls xs
  rcases hb : s.evaluateBatch m o calls xs with ⟨r, n⟩
  have hr : r = .ok es := by
    rw [← hes]
    exact (congrArg Prod.fst hb).symm
  subst hr
  exact ⟨es, n, rfl, Batch.length_of_evaluate hes⟩

/-- A finished point has the dimension of the problem. -/
theorem length_finish (h : s.Sound strategy m size) {x : Point α} (hx : x.length = s.dim) :
    (s.finish x).length = s.dim := by
  have repaired : (s.constraints.applyRepair x).length = s.dim :=
    (h.constraints.repair x).trans hx
  unfold finish clip
  cases s.box with
  | none => exact repaired
  | some b => exact (b.length_clip _).trans repaired

/-- The state of a run may be exchanged for another one with the same members and counters
of whole rounds. -/
theorem withState (h : s.Sound strategy m size) {state : State α} (evaluated : Bool)
    (g : Generator) (table : state.population.Table s.dim) (members : state.population.size = size)
    (rounds : evaluated = true → state.energies.length = size ∧
      state.evaluations = size * (1 + state.generation))
    (fresh : evaluated = false → state.evaluations = 0 ∧ state.generation = 0) :
    Sound strategy m size { s with state, evaluated, generator := g } :=
  ⟨h.ready, h.plan, h.unfailing, h.batches, h.orderly, h.watch, h.constraints, table, members,
    h.enough, rounds, fresh⟩

/-- And the criterion for another one. -/
theorem withWatch (h : s.Sound strategy m size) (watch : Option Watch)
    (some : watch.isSome = true) : Sound strategy m size { s with watch } :=
  ⟨h.ready, h.plan, h.unfailing, h.batches, h.orderly, some, h.constraints, h.table, h.members,
    h.enough, h.rounds, h.fresh⟩

theorem running (h : s.Sound strategy m size) : s.running.Sound strategy m size :=
  h.withState s.evaluated s.generator h.table h.members h.rounds h.fresh

/-! ## The pieces of a step -/

theorem checkReady (h : s.Sound strategy m size) (dimension : o.checkDimension s.dim = .ok ()) :
    s.checkReady o = .ok (strategy, m) := by
  obtain ⟨n, hn, hle⟩ := h.enough
  exact checkReady_eq_ok_iff.2
    ⟨h.ready, h.plan, h.watch, h.batches, dimension, n, hn, h.members ▸ hle⟩

/-- The first population with its energies: one evaluation per member is counted. -/
theorem commitFirst (h : s.Sound strategy m size) (fresh : s.evaluated = false) {es : List Float}
    (hl : es.length = s.firstRows.length) :
    (s.commitFirst s.firstRows es).Sound strategy m size := by
  obtain ⟨unspent, first⟩ := h.fresh fresh
  have count : s.firstRows.length = size := (List.length_map _).trans h.members
  refine h.withState true s.generator ⟨h.table.width, ?_⟩ count ?_ nofun
  · intro x hx
    obtain ⟨y, hy, rfl⟩ := List.mem_map.1 hx
    exact h.length_finish (h.table.lengths y hy)
  · intro _
    refine ⟨hl.trans count, ?_⟩
    show s.state.evaluations + s.firstRows.length = size * (1 + s.state.generation)
    rw [unspent, first, count, Nat.zero_add, Nat.add_zero, Nat.mul_one]

/-- The first batch succeeds, and counts one evaluation per member. -/
theorem evaluateFirst (h : s.Sound strategy m size) (unfailing : o.Unfailing) (calls : Nat) :
    (s.evaluateFirst m o calls).1.result = .ok () ∧
      (s.evaluateFirst m o calls).1.after.Sound strategy m size ∧
      (s.evaluateFirst m o calls).1.after.evaluated = true ∧
      (s.evaluateFirst m o calls).1.after.state.generation = s.state.generation := by
  cases fresh : s.evaluated with
  | true =>
      rw [evaluateFirst_of_evaluated fresh]
      exact ⟨rfl, h, fresh, rfl⟩
  | false =>
      obtain ⟨es, n, hb, hl⟩ := h.evaluateBatch unfailing calls s.firstRows
      obtain ⟨hr, ha⟩ := evaluateFirst_of_batch_ok fresh hb
      rw [ha]
      exact ⟨hr, h.commitFirst fresh hl, rfl, rfl⟩

/-- Every member gets a trial, and the trials have the dimension of the problem. -/
theorem trials (h : s.Sound strategy m size) (evaluated : s.evaluated = true)
    (targets : List Nat) (htargets : ∀ i ∈ targets, i < size) (g : Generator) :
    ∃ points g', s.trials strategy targets g = .ok (points, g') ∧
      ∀ x ∈ points, x.length = s.dim := by
  induction targets generalizing g with
  | nil => exact ⟨[], g, rfl, nofun⟩
  | cons i targets ih =>
      obtain ⟨n, hn, hle⟩ := h.enough
      have aligned : s.state.energies.length = s.state.population.size :=
        (h.rounds evaluated).1.trans h.members.symm
      obtain ⟨⟨x, g₁⟩, hx⟩ := h.unfailing.answers n s.state.population s.state.energies i g hn
        (h.members ▸ hle) h.table aligned (h.members ▸ htargets i (List.mem_cons_self ..))
      obtain ⟨points, g₂, hp, lengths⟩ := ih (fun j hj => htargets j (List.mem_cons_of_mem _ hj)) g₁
      refine ⟨s.finish x :: points, g₂, ?_, ?_⟩
      · simp only [Evolution.trials, hx, hp, bind, Except.bind]
      · exact List.forall_mem_cons.2
          ⟨h.length_finish (h.unfailing.fits _ _ _ _ _ _ h.table hx), lengths⟩

theorem allTrials (h : s.Sound strategy m size) (evaluated : s.evaluated = true) :
    ∃ points g, s.allTrials strategy = .ok (points, g) ∧ ∀ x ∈ points, x.length = s.dim :=
  h.trials evaluated _ (fun _ hi => h.members ▸ List.mem_range.1 hi) _

/-- A selection leaves a sound run sound, and counts one evaluation per member and one
generation. -/
theorem bred (h : s.Sound strategy m size) (evaluated : s.evaluated = true)
    {points : List (Point α)} (g : Generator) {es : List Float}
    (lengths : ∀ x ∈ points, x.length = s.dim)
    (hl : (points.zip es).length = s.state.population.rows.length) :
    (s.bred points g es).Sound strategy m size := by
  obtain ⟨hes, counted⟩ := h.rounds evaluated
  have aligned : s.state.population.rows.length = s.state.energies.length :=
    h.members.trans hes.symm
  have kept : (select s.state (points.zip es)).population.size = size :=
    (size_select aligned hl).trans h.members
  refine h.withState s.evaluated g (h.table.select fun p hp => lengths _ (List.of_mem_zip hp).1)
    kept ?_ ?_
  · intro _
    constructor
    · rw [energies_select, List.length_map, ← List.length_map (f := (·.1)), ← rows_select]
      exact kept
    · show s.state.evaluations + (points.zip es).length = size * (1 + (s.state.generation + 1))
      rw [counted, hl, show s.state.population.rows.length = size from h.members, ← Nat.mul_succ,
        Nat.succ_eq_add_one, Nat.add_assoc]
  · intro fresh
    cases fresh.symm.trans evaluated

/-- **A step of a sound run comes to the question whether the run ends**, asked of a sound
run with one generation more and the same criterion, limits and token. -/
theorem step (h : s.Sound strategy m size) (unfailing : o.Unfailing)
    (dimension : o.checkDimension s.dim = .ok ()) (going : s.state.isTerminated = false)
    (calls : Nat) :
    ∃ t : Evolution α, (s.step o calls).1.result = t.checkStop.result ∧
      (s.step o calls).1.after = t.checkStop.after ∧ t.Sound strategy m size ∧
      t.evaluated = true ∧ t.state.generation = s.state.generation + 1 ∧
      t.state.status = .running ∧ t.dim = s.dim ∧ t.watch = s.watch ∧ t.limits = s.limits ∧
      t.token = s.token := by
  obtain ⟨hf, first, evaluated, generation⟩ := h.evaluateFirst unfailing calls
  obtain ⟨n, hr, ha⟩ := step_of_first_ok (h.checkReady dimension) going hf
  have frame : (s.evaluateFirst m o calls).1.after.dim = s.dim ∧
      (s.evaluateFirst m o calls).1.after.watch = s.watch ∧
      (s.evaluateFirst m o calls).1.after.limits = s.limits ∧
      (s.evaluateFirst m o calls).1.after.token = s.token := by
    rcases evaluateFirst_ok hf with ⟨_, ha⟩ | ⟨_, es, _, ha⟩
    · rw [ha]
      exact ⟨rfl, rfl, rfl, rfl⟩
    · rw [ha]
      exact ⟨rfl, rfl, rfl, rfl⟩
  generalize (s.evaluateFirst m o calls).1.after = u at hr ha first evaluated generation frame
  have begun := first.running
  obtain ⟨points, g, ht, lengths⟩ := begun.allTrials evaluated
  obtain ⟨es, k, hb, _⟩ := begun.evaluateBatch unfailing n points
  obtain ⟨hr', ha'⟩ := evolve_of_batch_ok ht hb
  have bred := begun.bred evaluated g lengths (length_of_batch ht (by rw [hb]))
  exact ⟨_, hr.trans hr', ha.trans ha', bred, evaluated, congrArg (· + 1) generation, rfl,
    frame.1, frame.2.1, frame.2.2.1, frame.2.2.2⟩

end Sound

/-! ## The start of a run -/

/-- What can be drawn: there are dimensions and members, and the box has the dimension of
the problem. -/
theorem drawn_of_checkStart {dim : Nat} {box : Option (Box α)}
    (h : checkStart dim box size = .ok ()) :
    0 < dim ∧ 0 < size ∧ (drawBox dim box).dim = dim := by
  simp only [checkStart, bind, Except.bind] at h
  split at h
  · cases h
  next nonzero =>
    split at h
    · cases h
    next nonempty =>
      refine ⟨by omega, by omega, ?_⟩
      cases box with
      | none => exact List.length_replicate
      | some b =>
          by_cases hd : b.dim = dim
          · exact hd
          · simp only [checkBox, if_neg hd] at h
            cases h

/-- A solver that was made ready has a sound run before it. -/
theorem sound_prepare {box : Option (Box α)} {seed : Seed} {n : Nat}
    (prepared : (s.prepare box size seed).result = .ok ()) (plan : s.strategy = some strategy)
    (unfailing : strategy.Unfailing s.dim) (minimum : strategy.minPopulation = .ok n)
    (accepted : n ≤ size) (batches : s.map = some m) (orderly : m.Orderly)
    (watch : s.watch.isSome = true) (constraints : s.constraints.Unfailing) :
    (s.prepare box size seed).after.Sound strategy m size := by
  cases hc : checkStart s.dim box size with
  | error e =>
      simp only [prepare, hc] at prepared
      cases prepared
  | ok u =>
      obtain ⟨_, _, dim⟩ := drawn_of_checkStart hc
      obtain ⟨table, count⟩ := s.init.table_draw size (drawBox s.dim box) seed.generator
      rw [dim] at table
      simp only [prepare, hc, Reply.done]
      refine ⟨rfl, plan, unfailing, batches, orderly, (Option.isSome_map ..).trans watch,
        constraints, table, count, ⟨n, minimum, accepted⟩, ?_, fun _ => ⟨rfl, rfl⟩⟩
      intro evaluated
      cases evaluated

end Evolution
end BoxSearch

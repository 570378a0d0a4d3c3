import BoxSearch.Benchmark.Functions
import BoxSearch.Proofs.Evolution.Unfailing
import BoxSearch.Proofs.Solver.Slices

/-!
# Where the caps end a run

The caps of a run are asked after a generation, and after its criterion.  The first
generation spends two batches, that of the drawn population and that of its trials, and each
later one spends one more; so in a run of differential evolution, where all batches are as
large as the population, the caps on generations and on evaluations can be compared.

* `Limits.last?` — the generation at which the caps end a run, in closed form;
  `reason?_eq_none_iff` and `reason?_of_last` say that it is the first one at which a cap is
  reached, and which of the two is named then.
* `solve_capped` — when nothing else can fail, a call without a budget ends the run of a
  faultless criterion at that generation or before, and with a criterion that never fires it
  ends the run exactly there.
* `solve_uncounted` — a criterion that is not faultless can break the run in its first
  generation, whatever the caps are.
-/

namespace BoxSearch

/-! ## The closed form -/

namespace Limits

/-- The generations that a cap on evaluations leaves to a run of `size` members: the rounds
that reach the cap, less the one of the first population, but at least the first
generation, after which the cap is asked. -/
def generationsWithin (size evaluations : Nat) : Nat :=
  max 1 ((evaluations + size - 1) / size - 1)

/-- The generation at which the caps end a run of `size` members, if there is a cap. -/
def last? (l : Limits) (size : Nat) : Option Nat :=
  Option.merge min (l.generations.map (max 1)) (l.evaluations.map (generationsWithin size))

theorem le_rounds_iff {size evaluations g : Nat} (pos : 0 < size) (begun : 0 < g) :
    evaluations ≤ size * (1 + g) ↔ generationsWithin size evaluations ≤ g := by
  have rounds : (evaluations + size - 1) / size ≤ 1 + g ↔
      evaluations + size - 1 ≤ size * (1 + g) + (size - 1) := Nat.div_le_iff_le_mul_add_pred pos
  unfold generationsWithin
  omega

theorem generationsWithin_pos (size evaluations : Nat) : 0 < generationsWithin size evaluations :=
  Nat.lt_of_lt_of_le Nat.one_pos (Nat.le_max_left ..)

variable {α : Type} {l : Limits} {state : State α} {size L : Nat}

/-- Where the last generation comes from: the cap on evaluations alone, the cap on
generations alone, or the one of both that is reached first. -/
theorem last?_cases (hL : l.last? size = some L) :
    (∃ E, l.generations = .none ∧ l.evaluations = some E ∧ generationsWithin size E = L) ∨
    (∃ G, l.generations = some G ∧ l.evaluations = .none ∧ max 1 G = L) ∨
    (∃ G E, l.generations = some G ∧ l.evaluations = some E ∧
      min (max 1 G) (generationsWithin size E) = L) := by
  unfold last? at hL
  rcases hG : l.generations with _ | G <;> rcases hE : l.evaluations with _ | E <;>
    simp only [hG, hE, Option.map_none, Option.map_some, Option.merge, reduceCtorEq,
      Option.some.injEq] at hL
  · exact .inl ⟨E, rfl, rfl, hL⟩
  · exact .inr (.inl ⟨G, rfl, rfl, hL⟩)
  · exact .inr (.inr ⟨G, E, rfl, rfl, hL⟩)

/-- The caps are asked for the first time after the first generation. -/
theorem last?_pos (hL : l.last? size = some L) : 0 < L := by
  obtain ⟨E, -, -, rfl⟩ | ⟨G, -, -, rfl⟩ | ⟨G, E, -, -, rfl⟩ := last?_cases hL
  · exact generationsWithin_pos size E
  · exact Nat.lt_of_lt_of_le Nat.one_pos (Nat.le_max_left ..)
  · exact Nat.lt_min.2 ⟨Nat.lt_of_lt_of_le Nat.one_pos (Nat.le_max_left ..),
      generationsWithin_pos size E⟩

/-- Caps that are counted in 64 bits leave no more generations than a call can make. -/
theorem last?_le_unlimited (hL : l.last? size = some L) (pos : 0 < size)
    (generations : ∀ G, l.generations = some G → G < UInt64.size)
    (evaluations : ∀ E, l.evaluations = some E → E < UInt64.size) : L ≤ Solver.unlimited := by
  have within (E : Nat) (hE : l.evaluations = some E) :
      generationsWithin size E ≤ Solver.unlimited := by
    have counted := evaluations E hE
    have rounds : (E + size - 1) / size ≤ E := by
      rw [Nat.div_le_iff_le_mul_add_pred pos]
      have := Nat.le_mul_of_pos_left E pos
      omega
    unfold generationsWithin Solver.unlimited
    simp only [UInt64.size] at counted ⊢
    omega
  have among (G : Nat) (hG : l.generations = some G) : max 1 G ≤ Solver.unlimited := by
    have counted := generations G hG
    unfold Solver.unlimited
    simp only [UInt64.size] at counted ⊢
    omega
  obtain ⟨E, -, hE, rfl⟩ | ⟨G, hG, -, rfl⟩ | ⟨G, E, hG, -, rfl⟩ := last?_cases hL
  · exact within E hE
  · exact among G hG
  · exact (Nat.min_le_left ..).trans (among G hG)

/-- The text about a cap that is reached. -/
def reached? (what : String) (cap : Option Nat) (spent : Nat) : Option String :=
  match cap with
  | some n => if n ≤ spent then some s!"Maximum {what} reached: {n}" else .none
  | .none => .none

theorem reason?_eq (l : Limits) (state : State α) :
    l.reason? state = (reached? "generations" l.generations state.generation).or
      (reached? "evaluations" l.evaluations state.evaluations) := rfl

theorem reached?_eq_none_iff {what : String} {cap : Option Nat} {spent : Nat} :
    reached? what cap spent = .none ↔ ∀ n, cap = some n → spent < n := by
  cases cap with
  | none => simp [reached?]
  | some n => simp [reached?]

theorem reached?_of_le {what : String} {n spent : Nat} (h : n ≤ spent) :
    reached? what (some n) spent = some s!"Maximum {what} reached: {n}" := if_pos h

/-- **No cap is reached before the last generation.** -/
theorem reason?_eq_none_iff (hL : l.last? size = some L) (pos : 0 < size)
    (begun : 0 < state.generation)
    (rounds : state.evaluations = size * (1 + state.generation)) :
    l.reason? state = .none ↔ state.generation < L := by
  rw [reason?_eq, Option.or_eq_none_iff, reached?_eq_none_iff, reached?_eq_none_iff, rounds]
  have turn (n : Nat) : size * (1 + state.generation) < n ↔
      state.generation < generationsWithin size n := by
    rw [← Nat.not_le, le_rounds_iff pos begun, Nat.not_le]
  obtain ⟨E, hG, hE, rfl⟩ | ⟨G, hG, hE, rfl⟩ | ⟨G, E, hG, hE, rfl⟩ := last?_cases hL
  all_goals rw [hG, hE]
  · simp only [reduceCtorEq, false_implies, implies_true, true_and, Option.some.injEq, forall_eq',
      turn]
  · simp only [reduceCtorEq, false_implies, implies_true, and_true, Option.some.injEq, forall_eq']
    omega
  · simp only [Option.some.injEq, forall_eq', turn]
    omega

/-- What is named as the reason of an end by the caps: the cap on generations if it can be
named, else the one on evaluations. -/
structure Names (l : Limits) (L : Nat) (reason : String) : Prop where
  /-- the cap on generations ends the run at this generation -/
  generations : ∀ G, l.generations = some G → max 1 G = L →
    reason = s!"Maximum generations reached: {G}"
  /-- it ends it later, or there is none -/
  evaluations : (∀ G, l.generations = some G → max 1 G ≠ L) →
    ∃ E, l.evaluations = some E ∧ reason = s!"Maximum evaluations reached: {E}"

/-- Where the cap on generations is not the one that ends the run, the cap on evaluations
is, and it does so first. -/
theorem evaluations_of_last (hL : l.last? size = some L)
    (later : ∀ G, l.generations = some G → max 1 G ≠ L) :
    (∃ E, l.evaluations = some E ∧ generationsWithin size E = L) ∧
      ∀ G, l.generations = some G → L < max 1 G := by
  obtain ⟨E, hG, hE, hEL⟩ | ⟨G, hG, -, hGL⟩ | ⟨G, E, hG, hE, least⟩ := last?_cases hL
  · exact ⟨⟨E, hE, hEL⟩, fun G hG' => by rw [hG] at hG'; cases hG'⟩
  · exact absurd hGL (later G hG)
  · have beyond := later G hG
    refine ⟨⟨E, hE, by omega⟩, fun G' hG' => ?_⟩
    cases hG.symm.trans hG'
    omega

/-- **At the last generation a cap is reached**, and this is the one that is named. -/
theorem reason?_of_last (hL : l.last? size = some L) (pos : 0 < size)
    (begun : 0 < state.generation)
    (rounds : state.evaluations = size * (1 + state.generation)) (here : state.generation = L) :
    ∃ reason, l.reason? state = some reason ∧ l.Names L reason := by
  by_cases first : ∃ G, l.generations = some G ∧ max 1 G = L
  · obtain ⟨G, hG, hGL⟩ := first
    refine ⟨s!"Maximum generations reached: {G}", ?_, ?_, fun later => absurd hGL (later G hG)⟩
    · rw [reason?_eq, hG, reached?_of_le (by omega), Option.some_or]
      rfl
    · intro G' hG' _
      cases hG.symm.trans hG'
      rfl
  · have later : ∀ G, l.generations = some G → max 1 G ≠ L := fun G hG hGL => first ⟨G, hG, hGL⟩
    obtain ⟨⟨E, hE, hEL⟩, early⟩ := evaluations_of_last hL later
    have unreached : reached? "generations" l.generations state.generation = .none :=
      reached?_eq_none_iff.2 fun G hG => by
        have := early G hG
        omega
    have spent : E ≤ state.evaluations := by
      rw [rounds, le_rounds_iff pos begun, hEL, here]
    refine ⟨s!"Maximum evaluations reached: {E}", ?_, fun G hG hGL => absurd hGL (later G hG),
      fun _ => ⟨E, hE, rfl⟩⟩
    rw [reason?_eq, unreached, Option.none_or, hE, reached?_of_le spent]
    rfl

end Limits

/-! ## Criteria that can be asked -/

section

variable {α : Type} [Scalar α] {state : State α} {w w' : Watch} {reason : Option String}

/-- A faultless criterion has an answer, and stays what it is. -/
theorem askWatch_of_faultless (faultless : w.criterion.faultless = true) (state : State α) :
    ∃ reason w', askWatch state (some w) = .ok (reason, some w') ∧ w'.criterion = w.criterion := by
  have answers := Watch.fault?_of_faultless faultless state
  refine ⟨if (w.ask state).1 then some (w.ask state).2.reason else none, (w.ask state).2, ?_,
    w.criterion_ask state⟩
  simp only [askWatch, Watch.answer, answers]

/-- The criterion that never fires gives no reason. -/
theorem reason_of_never (never : w.criterion = .test .never)
    (h : askWatch state (some w) = .ok (reason, some w')) : reason = none := by
  cases w with
  | test t m =>
      cases never
      cases h
      rfl
  | any members fired => cases never
  | all members => cases never

end

/-! ## The run -/

namespace Solver

variable {α : Type} [Scalar α] {s : Evolution α} {o : Objective α} {m : EvaluationMap α}
variable {strategy : Strategy α} {size calls L : Nat} {w : Watch}

/-- How the caps leave a run of `size` members: it has ended, at the last generation or
before, after whole rounds; and where nothing but a cap could end it, it has ended at the
last generation, for the reason of a cap. -/
structure Capped (l : Limits) (size L : Nat) (c : Criterion) (t : Evolution α) : Prop where
  ended : t.state.isTerminated = true
  generation : t.state.generation ≤ L
  evaluations : t.state.evaluations = size * (1 + t.state.generation)
  never : c = .test .never → t.state.generation = L ∧
    ∃ reason, t.state.status = .terminated reason ∧ l.Names L reason

/-- A run that can be made to its end: nothing in it can fail, it has not ended, nobody asked
it to stop, and its criterion is faultless. -/
structure Clear (o : Objective α) (strategy : Strategy α) (m : EvaluationMap α) (size : Nat)
    (w : Watch) (s : Evolution α) : Prop where
  sound : s.Sound strategy m size
  nonempty : 0 < size
  dimension : o.checkDimension s.dim = .ok ()
  going : s.state.isTerminated = false
  fresh : s.token.cancelled = false
  watch : s.watch = some w
  faultless : w.criterion.faultless = true

/-- **One generation of a clear run**: either it was the end of the run, in keeping with the
caps, or the caps leave room for another one. -/
theorem Clear.step (clear : Clear o strategy m size w s) (unfailing : o.Unfailing)
    (hL : s.limits.last? size = some L) (room : s.state.generation < L) (calls : Nat) :
    ((s.step o calls).1.result = .ok true ∧
        Capped s.limits size L w.criterion (s.step o calls).1.after) ∨
      ∃ w', (s.step o calls).1.result = .ok false ∧ w'.criterion = w.criterion ∧
        Clear o strategy m size w' (s.step o calls).1.after ∧
        (s.step o calls).1.after.limits = s.limits ∧
        (s.step o calls).1.after.state.generation = s.state.generation + 1 ∧
        s.state.generation + 1 < L := by
  obtain ⟨t, hr, ha, sound, evaluated, generation, status, dim, watch, limits, token⟩ :=
    clear.sound.step unfailing clear.dimension clear.going calls
  obtain ⟨reason, w', hask, same⟩ := askWatch_of_faultless clear.faultless t.state
  have hask' : askWatch t.state t.watch = .ok (reason, some w') := by
    rw [watch, clear.watch, hask]
  obtain ⟨hr', ha'⟩ := Evolution.checkStop_of_askWatch hask'
  have rounds := (sound.rounds evaluated).2
  have begun : 0 < t.state.generation := by omega
  have open_iff := Limits.reason?_eq_none_iff (limits ▸ hL) clear.nonempty begun rounds
  rw [hr, ha, hr', ha']
  cases hreason : reason.or (t.limits.reason? t.state) with
  | some text =>
      have after : ({ t with watch := some w' } : Evolution α).concluded reason =
          { t with watch := some w', state := { t.state with status := .terminated text } } := by
        unfold Evolution.concluded
        rw [hreason]
      rw [after]
      refine Or.inl ⟨rfl, rfl, ?_, rounds, fun never => ?_⟩
      · show t.state.generation ≤ L
        omega
      · have none := reason_of_never never hask
        rw [none, Option.none_or] at hreason
        have here : t.state.generation = L := by
          by_contra elsewhere
          rw [open_iff.2 (by omega)] at hreason
          cases hreason
        obtain ⟨text', htext, names⟩ :=
          Limits.reason?_of_last (limits ▸ hL) clear.nonempty begun rounds here
        rw [htext] at hreason
        cases hreason
        exact ⟨here, text, rfl, limits ▸ names⟩
  | none =>
      have after : ({ t with watch := some w' } : Evolution α).concluded reason =
          { t with watch := some w' } := by
        unfold Evolution.concluded
        rw [hreason]
      rw [after]
      have room' := open_iff.1 (Option.or_eq_none_iff.1 hreason).2
      have going : t.state.isTerminated = false := by
        rw [State.isTerminated, status]
        rfl
      exact Or.inr ⟨w', rfl, same, ⟨sound.withWatch (some w') rfl, clear.nonempty,
        dim ▸ clear.dimension, going, token ▸ clear.fresh, rfl, same ▸ clear.faultless⟩, limits,
        generation, by omega⟩

/-- A clear run that has room for as many generations as the caps leave to it ends in
keeping with them. -/
theorem Clear.solveFrom (clear : Clear o strategy m size w s) (unfailing : o.Unfailing)
    (hL : s.limits.last? size = some L) (room : s.state.generation < L) (left : Nat)
    (enough : L ≤ s.state.generation + left) (calls : Nat) (past : List (Event α)) :
    (Solver.solveFrom (fun _ => false) o left calls past (.evolution s)).1.result = .ok () ∧
      ∃ t, (Solver.solveFrom (fun _ => false) o left calls past (.evolution s)).1.after =
        .evolution t ∧ Capped s.limits size L w.criterion t := by
  induction left generalizing s w calls past with
  | zero => omega
  | succ left ih =>
      have due : (Solver.evolution s).turn (left + 1) = .due :=
        turn_eq_due_iff.2 ⟨clear.going, clear.fresh, by omega⟩
      rw [solveFrom_due due]
      have heeds : heed (fun _ => false) ((Solver.evolution s).step o calls).1 =
          .evolution (s.step o calls).1.after := by
        rw [heed, if_neg (by simp)]
        rfl
      have result : ((Solver.evolution s).step o calls).1.result = (s.step o calls).1.result := rfl
      unfold solveOn
      rw [heeds, result]
      rcases clear.step unfailing hL room calls with
        ⟨hr, capped⟩ | ⟨w', hr, same, next, hl, hg, room'⟩
      · rw [hr]
        exact ⟨rfl, _, rfl, capped⟩
      · rw [hr]
        obtain ⟨success, t, ha, capped⟩ := ih next (hl ▸ hL) (hg ▸ room') (by omega)
          ((Solver.evolution s).step o calls).2
          (((Solver.evolution s).step o calls).1.events.reverse ++ past)
        exact ⟨success, t, ha, hl ▸ same ▸ capped⟩

/-- **Where the caps end a run.**  Take a solver that was made ready, with a strategy, a map,
an objective and constraints that do not fail, a population that the strategy accepts, a
criterion whose windows can be counted, and a cap on the generations, on the evaluations, or
on both.  A call of `solve` without a budget that nobody interrupts ends the run, at the last
generation that the caps leave or before; with a criterion that never fires it ends it
exactly there, and names the cap on generations if that is the one. -/
theorem solve_capped (s : Evolution α) (box : Option (Box α)) (size : Nat) (seed : Seed)
    (o : Objective α) (calls : Nat) (strategy : Strategy α) (m : EvaluationMap α) (w : Watch)
    (n L : Nat) (prepared : (s.prepare box size seed).result = .ok ())
    (plan : s.strategy = some strategy) (unfailing : strategy.Unfailing s.dim)
    (minimum : strategy.minPopulation = .ok n) (accepted : n ≤ size) (batches : s.map = some m)
    (orderly : m.Orderly) (constraints : s.constraints.Unfailing) (watch : s.watch = some w)
    (faultless : w.criterion.faultless = true) (values : o.Unfailing)
    (dimension : o.checkDimension s.dim = .ok ())
    (generations : ∀ G, s.limits.generations = some G → G < UInt64.size)
    (evaluations : ∀ E, s.limits.evaluations = some E → E < UInt64.size)
    (hL : s.limits.last? size = some L) :
    ((Solver.evolution (s.prepare box size seed).after).solve (fun _ => false) o calls none).1.result
        = .ok () ∧
      ∃ t, ((Solver.evolution (s.prepare box size seed).after).solve (fun _ => false) o calls
          none).1.after = .evolution t ∧
        t.state.isTerminated = true ∧ t.state.generation ≤ L ∧
        (w.criterion = .test .never →
          t.state.generation = L ∧ t.state.evaluations = size * (1 + L) ∧
          ∃ reason, t.state.status = .terminated reason ∧ s.limits.Names L reason) := by
  have nonempty : 0 < size := by
    cases hc : Evolution.checkStart s.dim box size with
    | error e =>
        simp only [Evolution.prepare, hc] at prepared
        cases prepared
    | ok u => exact (Evolution.drawn_of_checkStart hc).2.1
  have sound := Evolution.sound_prepare prepared plan unfailing minimum accepted batches orderly
    (watch ▸ rfl) constraints
  obtain ⟨generator, population, after⟩ := Evolution.prepare_ok prepared
  have room := Limits.last?_le_unlimited hL nonempty generations evaluations
  have first : 0 < L := Limits.last?_pos hL
  rw [after] at sound ⊢
  have clear : Clear o strategy m size w.reset
      { s with box, generator, state := .start population, ready := true, evaluated := false,
               token := .fresh, watch := s.watch.map Watch.reset } :=
    ⟨sound, nonempty, dimension, rfl, rfl, by rw [watch]; rfl, w.criterion_reset.symm ▸ faultless⟩
  obtain ⟨success, t, ha, capped⟩ := clear.solveFrom values hL first unlimited
    (room.trans (Nat.le_add_left ..)) calls []
  refine ⟨success, t, ha, capped.ended, capped.generation, fun never => ?_⟩
  obtain ⟨here, reason, ended, names⟩ := capped.never (w.criterion_reset.trans never)
  exact ⟨here, here ▸ capped.evaluations, reason, ended, names⟩

/-! ### Five members on the sphere -/

/-- A solver in the plane with caps and a criterion. -/
def cappedPlane (l : Limits) (c : Criterion) : Evolution Float :=
  { Evolution.standard 2 false with watch := some (.ofCriterion c), limits := l }

theorem prepare_cappedPlane (l : Limits) (c : Criterion) :
    ((cappedPlane l c).prepare none 5 (.number 1)).result = .ok () := by
  have drawn : (Evolution.checkStart 2 (none : Option (Box Float)) 5).isOk = true := by
    decide +kernel
  obtain ⟨u, hu⟩ := exists_ok_of_isOk drawn
  have ready : Evolution.checkStart (cappedPlane l c).dim none 5 = .ok u := hu
  simp only [Evolution.prepare, ready, Reply.done]

/-- Eighteen evaluations are four rounds of five members, so the cap on them ends the run
with the third generation, before the cap on generations does. -/
theorem solve_capped_eighteenEvaluations :
    ∃ t, ((Solver.evolution ((cappedPlane ⟨some 7, some 18⟩ (.test .never)).prepare none 5
        (.number 1)).after).solve (fun _ => false) (.ofFunction Benchmark.sphere) 0 none).1.after =
          .evolution t ∧
      t.state.generation = 3 ∧ t.state.evaluations = 20 ∧
      t.state.status = .terminated "Maximum evaluations reached: 18" := by
  have run := solve_capped (cappedPlane ⟨some 7, some 18⟩ (.test .never)) none 5 (.number 1)
    (.ofFunction Benchmark.sphere) 0 (Differential.toStrategy ⟨.standard, .standard, 0.9⟩) .serial
    (.ofCriterion (.test .never)) 4 3 (prepare_cappedPlane ..) rfl
    (Differential.unfailing _ (by decide)) rfl (by decide) rfl EvaluationMap.serial_orderly
    Constraints.unfailing_none rfl rfl (fun _ x => ⟨_, rfl⟩) rfl
    (fun G hG => by cases hG; decide) (fun E hE => by cases hE; decide) rfl
  obtain ⟨_, t, ha, _, _, never⟩ := run
  obtain ⟨generation, evaluations, reason, status, names⟩ := never rfl
  have later : ∀ G, (some 7 : Option Nat) = some G → max 1 G ≠ 3 := by
    intro G hG
    cases hG
    decide
  obtain ⟨E, hE, rfl⟩ := names.evaluations later
  cases hE
  exact ⟨t, ha, generation, evaluations, status⟩

/-! ## Windows that cannot be counted -/

/-- **A criterion that cannot be asked breaks the run** in its first generation, whatever the
caps are. -/
theorem solve_of_fault {f : Fault} (sound : s.Sound strategy m size) (values : o.Unfailing)
    (dimension : o.checkDimension s.dim = .ok ()) (going : s.state.isTerminated = false)
    (fresh : s.token.cancelled = false) (watch : s.watch = some w)
    (fault : ∀ state : State α, w.fault? state = some f) (calls : Nat) :
    ((Solver.evolution s).solve (fun _ => false) o calls none).1.result = .error (.fault f) := by
  obtain ⟨t, hr, _, _, _, _, _, _, watch', _⟩ := sound.step values dimension going calls
  have asked : askWatch t.state t.watch = .error (.fault f) := by
    rw [watch', watch]
    simp only [askWatch, Watch.answer, fault]
  have broken : ((Solver.evolution s).step o calls).1.result = .error (.fault f) := by
    show (s.step o calls).1.result = _
    rw [hr, Evolution.checkStop, asked]
    rfl
  have due : (Solver.evolution s).turn (unlimited - 1 + 1) = .due :=
    turn_eq_due_iff.2 ⟨going, fresh, by omega⟩
  have budget : unlimited = unlimited - 1 + 1 := rfl
  unfold solve
  rw [Option.getD_none, budget, solveFrom_due due, solveOn, broken]

/-- Three generations at most, and yet no end: the window of a test of change over the
largest number of generations there is has one entry more than can be counted. -/
theorem capped_run_breaks :
    (cappedPlane ⟨some 3, none⟩ (.test (.change 1.0 18446744073709551615))).limits.last? 5 = some 3 ∧
      ((cappedPlane ⟨some 3, none⟩ (.test (.change 1.0 18446744073709551615))).prepare none 5
        (.number 1)).result = .ok () ∧
      ((Solver.evolution ((cappedPlane ⟨some 3, none⟩
        (.test (.change 1.0 18446744073709551615))).prepare none 5 (.number 1)).after).solve
          (fun _ => false) (.ofFunction Benchmark.sphere) 0 none).1.result =
        .error (.fault .overflow) := by
  generalize hc : Criterion.test (.change 1.0 18446744073709551615) = c
  have prepared := prepare_cappedPlane ⟨some 3, none⟩ c
  have values : (Objective.ofFunction Benchmark.sphere).Unfailing := fun _ x => ⟨_, rfl⟩
  have sound : ((cappedPlane ⟨some 3, none⟩ c).prepare none 5 (.number 1)).after.Sound
      (Differential.toStrategy ⟨.standard, .standard, 0.9⟩) .serial 5 :=
    Evolution.sound_prepare prepared rfl (Differential.unfailing _ Nat.two_pos) rfl (by decide) rfl
      EvaluationMap.serial_orderly rfl Constraints.unfailing_none
  obtain ⟨generator, population, after⟩ := Evolution.prepare_ok prepared
  rw [after] at sound ⊢
  refine ⟨rfl, prepared, solve_of_fault sound values rfl rfl rfl rfl ?_ 0⟩
  subst hc
  exact fun _ => rfl

end Solver
end BoxSearch

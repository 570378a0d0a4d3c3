import BoxSearch.Proofs.Compass.BestKept
import BoxSearch.Proofs.Ensemble.Dispatch
import BoxSearch.Proofs.Sampling.Table
import BoxSearch.Proofs.Solver.Course
import BoxSearch.Proofs.Solver.Marks
import BoxSearch.Proofs.Solver.Settings
import Mathlib.Algebra.BigOperators.Group.List.Basic
import Mathlib.Tactic.Ring

/-!
# The mesh of a compass search

The points that a compass search could probe from where it stands form a mesh, and the step
lengths are its widths.  A generation that improves moves along the mesh, and one that stalls makes
it finer, by halving all widths together.  So the widths tell how many generations stalled.

* `Charted` — what a search has committed and how fine its mesh is, read off its course;
* `Charted.move` — one generation adds one entry to the course, and preserves this;
* `Paced` — the mesh was made finer only where it was still too wide;
* `Meshed.of_ran` — a run keeps all this, with failures and other calls between the generations;
* `endedOnce_or_marked` — a run is taken up again after its end only if somebody recorded a request
  to stop there.
-/

namespace BoxSearch
namespace Compass

variable {α : Type} [Scalar α] {start s t : Compass α} {o : Objective α} {calls : Nat} {b : Bool}

/-! ## Probes -/

/-- **The probes of a generation**: two for each free coordinate, one step length up and one
down. -/
theorem of_probes_eq_ok {points : List (Point α)} (h : s.probes = .ok points) :
    points.length = 2 * s.freeCoordinates.length ∧
      ∀ j ∈ s.freeCoordinates, ∃ v l, s.state.bestSolution[j]? = some v ∧ s.steps[j]? = some l ∧
        ∀ sign : α, sign = Scalar.ofNat 1 ∨ sign = -Scalar.ofNat 1 →
          s.finish (s.state.bestSolution.set j (v + sign * l)) ∈ points := by
  unfold probes at h
  cases hm : s.freeCoordinates.mapM s.probesAlong with
  | error c =>
      rw [hm] at h
      cases h
  | ok pairs =>
      rw [hm] at h
      cases h
      have along {j : Nat} {pair : List (Point α)} (hp : s.probesAlong j = .ok pair) :
          ∃ v l, s.state.bestSolution[j]? = some v ∧ s.steps[j]? = some l ∧
            pair = [s.finish (s.state.bestSolution.set j (v + Scalar.ofNat 1 * l)),
              s.finish (s.state.bestSolution.set j (v + -Scalar.ofNat 1 * l))] := by
        unfold probesAlong entryAt at hp
        cases hv : s.state.bestSolution[j]? with
        | none => simp [hv, bind, Except.bind] at hp
        | some v =>
            cases hl : s.steps[j]? with
            | none => simp [hv, hl, bind, Except.bind] at hp
            | some l =>
                simp only [hv, hl, bind, Except.bind, Except.ok.injEq] at hp
                exact ⟨v, l, rfl, rfl, hp.symm⟩
      obtain ⟨length, values⟩ := getElem?_of_mapM_ok hm
      constructor
      · have two : ∀ pair ∈ pairs, pair.length = 2 := by
          intro pair hpair
          obtain ⟨j, _, hj⟩ := exists_of_mem_mapM hm hpair
          obtain ⟨v, l, _, _, rfl⟩ := along hj
          rfl
        rw [List.length_flatten, List.map_congr_left two, List.map_const', List.sum_replicate,
          length, Nat.mul_comm]
        rfl
      · intro j hj
        obtain ⟨i, hi⟩ := List.mem_iff_getElem?.1 hj
        obtain ⟨pair, hp, hpair⟩ := values i j hi
        obtain ⟨v, l, hv, hl, rfl⟩ := along hp
        refine ⟨v, l, hv, hl, ?_⟩
        intro sign hsign
        refine List.mem_flatten.2 ⟨_, List.mem_of_getElem? hpair, ?_⟩
        rcases hsign with rfl | rfl <;> simp

/-! ## What a generation records -/

theorem milestones_evaluateStart :
    (s.evaluateStart o calls).1.events.filterMap Event.generation? = [] := by
  cases hs : s.evaluated with
  | true => simp [evaluateStart_of_evaluated hs, Reply.done]
  | false =>
      cases hr : s.state.population.rows with
      | nil => simp [evaluateStart_of_empty hs hr, Reply.refuse]
      | cons row rows =>
          rcases hb : s.evaluateBatch o calls [s.finish row] with ⟨e | es, n⟩
          · simp [evaluateStart_of_batch_error hs hr hb, Reply.refuse]
          · simp only [evaluateStart, hs, hr, hb, Bool.false_eq_true, if_false, Reply.done]
            exact Batch.generation_records

/-- What a search has reached, as it is recorded after a generation. -/
def summary (s : Compass α) : Record α :=
  ⟨s.state.evaluations, s.state.bestSolution, s.state.bestEnergy⟩

/-- Probes that succeed complete one generation. -/
theorem explore_completed (h : (s.explore o calls).1.result = .ok b) :
    ∃ points es, s.probes = .ok points ∧ (s.evaluateBatch o calls points).1 = .ok es ∧
      (s.move points es).checkStop.result = .ok b ∧
      (s.explore o calls).1.after = (s.move points es).checkStop.after ∧
      (s.explore o calls).1.events.filterMap Event.generation? = [(s.move points es).summary] := by
  obtain ⟨points, _, hp, _⟩ := explore_ok h
  rcases hb : s.evaluateBatch o calls points with ⟨e | es, n⟩
  · rw [explore_of_batch_error hp hb] at h
    cases h
  · obtain ⟨hr, ha⟩ := explore_of_batch_ok hp hb
    refine ⟨points, es, hp, by rw [hb], hr ▸ h, ha, ?_⟩
    simp only [explore, hp, hb, commitGeneration, Reply.preceded, checkStop_spends_nothing.1,
      List.append_nil, List.filterMap_append, Batch.generation_records]
    rfl

/-- **A step that succeeds** found the run ended, or it completed one generation. -/
theorem step_completed (h : (s.step o calls).1.result = .ok b) :
    (s.state.isTerminated = true ∧ s.step o calls = (.done s true [], calls)) ∨
      s.state.isTerminated = false ∧ (s.evaluateStart o calls).1.result = .ok () ∧
        ∃ t points es n, t = (s.evaluateStart o calls).1.after.running ∧ t.probes = .ok points ∧
          (t.evaluateBatch o n points).1 = .ok es ∧
          (t.move points es).checkStop.result = .ok b ∧
          (s.step o calls).1.after = (t.move points es).checkStop.after ∧
          (s.step o calls).1.milestones = [(t.move points es).summary] ∧
          ∃ rest, (s.step o calls).1.committed =
            (s.evaluateStart o calls).1.events.filterMap Event.evaluated? ++ rest := by
  have milestones := Reply.milestones_of_ok h
  have committed := Reply.committed_of_ok h
  obtain ⟨hc, ⟨ended, _⟩ | ⟨going, hf, _⟩⟩ := step_ok h
  · exact Or.inl ⟨ended, step_of_ended hc ended⟩
  · rw [step_result] at h
    rw [milestones, committed, step_of_advance_ok h]
    obtain ⟨n, ha⟩ := advance_eq_of_start_ok hc going hf
    rw [ha] at h ⊢
    obtain ⟨points, es, hp, hb, hs, after, completed⟩ := explore_completed h
    refine Or.inr ⟨going, hf, _, points, es, n, rfl, hp, hb, hs, after, ?_, ?_⟩
    · simp only [Reply.preceded, List.filterMap_append, milestones_evaluateStart, completed,
        List.nil_append]
    · exact ⟨_, List.filterMap_append⟩

/-! ## Finer meshes -/

/-- The step lengths after a number of halvings. -/
def halved (count : Nat) (steps : List α) : List α := (List.map (· * Scalar.half))^[count] steps

theorem halved_succ (count : Nat) (steps : List α) :
    halved (count + 1) steps = (halved count steps).map (· * Scalar.half) :=
  Function.iterate_succ_apply' ..

/-- The search on a mesh that is finer by a number of halvings. -/
def refined (s : Compass α) (count : Nat) : Compass α :=
  { s with steps := halved count s.steps }

/-- Two searches have free coordinates and tolerance in common. -/
structure Alongside (start s : Compass α) : Prop where
  /-- the dimension is the same -/
  dim : s.dim = start.dim
  /-- and so is the box -/
  box : s.box = start.box
  /-- and so is the tolerance -/
  tolerance : s.tolerance = start.tolerance

namespace Alongside

theorem freeCoordinates (h : Alongside start s) : s.freeCoordinates = start.freeCoordinates := by
  have free : s.isFree = start.isFree := by
    funext j
    simp only [isFree, h.box]
  simp only [Compass.freeCoordinates, free, h.dim]

/-- With the same step lengths as well they converge alike. -/
theorem converged (h : Alongside start s) (steps : s.steps = start.steps) :
    s.converged = start.converged := by
  simp only [Compass.converged, h.freeCoordinates, h.tolerance, steps]

theorem refined (h : Alongside start s) (count : Nat) : Alongside (start.refined count) s :=
  ⟨h.dim, h.box, h.tolerance⟩

theorem move (h : Alongside start s) (points : List (Point α)) (es : List Float) :
    Alongside start (s.move points es) := by
  simp only [Compass.move]
  split <;> exact ⟨h.dim, h.box, h.tolerance⟩

theorem step (h : Alongside start s) (o : Objective α) (calls : Nat) :
    Alongside start (s.step o calls).1.after := by
  have same := settings_step s o calls
  have dim : (s.step o calls).1.after.dim = s.dim := by
    simpa only [settings] using congrArg Compass.dim same
  have box : (s.step o calls).1.after.box = s.box := by
    simpa only [settings] using congrArg Compass.box same
  have tolerance : (s.step o calls).1.after.tolerance = s.tolerance := by
    simpa only [settings] using congrArg Compass.tolerance same
  exact ⟨dim.trans h.dim, box.trans h.box, tolerance.trans h.tolerance⟩

end Alongside

/-- The question whether the run ends leaves the mesh as it is, and a run goes on only if its mesh
is too wide. -/
theorem checkStop_asked (h : s.checkStop.result = .ok b) :
    s.checkStop.after.steps = s.steps ∧ Alongside s s.checkStop.after ∧
      (∃ status, s.checkStop.after.state = { s.state with status }) ∧
      (b = false → s.converged = false) := by
  obtain ⟨reason, watch, _, stop, after⟩ := checkStop_ok h
  rw [after]
  constructor
  · unfold concluded
    split <;> rfl
  constructor
  · unfold concluded
    split <;> exact ⟨rfl, rfl, rfl⟩
  constructor
  · unfold concluded
    split
    · exact ⟨_, rfl⟩
    · exact ⟨s.state.status, rfl⟩
  · intro going
    rw [going, eq_comm, Option.isSome_eq_false_iff, Option.isNone_iff_eq_none,
      Option.or_eq_none_iff, ownReason?, Option.or_eq_none_iff] at stop
    simpa using stop.2.1

/-! ## The chart of a run -/

/-- What a search has committed, and how fine its mesh is, by its course since it was made
ready. -/
structure Charted (start : Compass α) (records : List (Record α)) (s : Compass α) : Prop where
  /-- the course leads to the best pair -/
  last : ∃ before r, records = before ++ [r] ∧ r.point = s.state.bestSolution ∧
    r.energy = s.state.bestEnergy
  /-- there is an entry for the start point and one for each generation -/
  counted : records.length = s.state.generation + 1
  /-- the best energy goes down, or the best pair stays -/
  descending : Descending records
  /-- the mesh is finer by one halving for each generation that brought no improvement -/
  steps : s.steps = halved (stalls records) start.steps
  /-- the population is the best point -/
  rows : s.state.population.rows = [s.state.bestSolution]
  /-- its energy is the best one -/
  energies : s.state.energies = [s.state.bestEnergy]
  /-- the start point was evaluated, and in each generation two probes for each free
  coordinate -/
  spent : s.state.evaluations = 1 + 2 * start.freeCoordinates.length * s.state.generation

/-- The mesh was made finer only where that was due. -/
structure Paced (start : Compass α) (records : List (Record α)) (s : Compass α) : Prop where
  /-- after the first time it was still too wide -/
  late : ∀ k, stalls records = k + 1 → k = 0 ∨ (start.refined k).converged = false
  /-- there are several generations only if there are free coordinates -/
  again : 1 < s.state.generation → start.freeCoordinates ≠ []

namespace Charted

variable {records : List (Record α)} {points : List (Point α)} {es : List Float}

/-- The start point begins a course. -/
theorem commitStart {x : Point α} {f : Float} (n : Nat) (steps : s.steps = start.steps)
    (single : s.state.population.rows.length = 1) (one : s.state.energies.length = 1)
    (first : s.state.generation = 0) (unspent : s.state.evaluations = 0) :
    Charted start [⟨n, x, f⟩] (s.commitStart x f) := by
  obtain ⟨row, hrow⟩ := List.length_eq_one_iff.1 single
  obtain ⟨energy, henergy⟩ := List.length_eq_one_iff.1 one
  constructor
  · exact ⟨[], _, rfl, rfl, rfl⟩
  · simp [Compass.commitStart, first]
  · exact List.isChain_singleton _
  · exact steps
  · simp [Compass.commitStart, Population.setRow, hrow]
  · simp [Compass.commitStart, henergy]
  · simp [Compass.commitStart, first, unspent]

/-- In a state in which no generation is completed no generation brought no improvement. -/
theorem stalls_eq_zero (h : Charted start records s) (first : s.state.generation = 0) :
    stalls records = 0 := by
  obtain ⟨r, rfl⟩ := List.length_eq_one_iff.1 (first ▸ h.counted)
  rfl

/-- A generation stalls unless its best probe is below the best energy. -/
theorem stalls_move (h : Charted start records s) (points : List (Point α)) (es : List Float) :
    stalls (records ++ [(s.move points es).summary]) =
      stalls records + if (Energy.argmin es).2 < s.state.bestEnergy then 0 else 1 := by
  obtain ⟨before, r, rfl, _, energy⟩ := h.last
  rw [List.append_assoc, List.singleton_append, stalls_concat, energy]
  unfold Compass.move
  by_cases improves : (Energy.argmin es).2 < s.state.bestEnergy
  · simp only [if_pos improves, summary]
  · simp only [if_neg improves, summary, if_neg (Double.lt_irrefl s.state.bestEnergy)]

/-- **A generation adds one entry to the course.**  If the best probe is below the best energy the
search moves there, and otherwise it halves the step lengths. -/
theorem move (h : Charted start records s) (alongside : Alongside start s)
    (count : points.length = 2 * s.freeCoordinates.length) (es : List Float) :
    Charted start (records ++ [(s.move points es).summary]) (s.move points es) := by
  have stalled := h.stalls_move points es
  have spent : s.state.evaluations + points.length =
      1 + 2 * start.freeCoordinates.length * (s.state.generation + 1) := by
    rw [h.spent, count, alongside.freeCoordinates]
    ring
  have counted : (records ++ [(s.move points es).summary]).length =
      s.state.generation + 1 + 1 := by
    rw [List.length_append, h.counted]
    rfl
  obtain ⟨before, r, rfl, point, energy⟩ := h.last
  have join (x : Record α) : before ++ [r] ++ [x] = before ++ [r, x] := by simp
  unfold Compass.move at counted stalled ⊢
  by_cases improves : (Energy.argmin es).2 < s.state.bestEnergy
  · simp only [if_pos improves] at counted stalled ⊢
    have lower : (Energy.argmin es).2 < r.energy := energy ▸ improves
    constructor
    · exact ⟨_, _, rfl, rfl, rfl⟩
    · exact counted
    · rw [join]
      exact h.descending.concat (Or.inl lower)
    · exact h.steps.trans (congrArg (halved · start.steps) stalled.symm)
    · simp [Population.setRow, h.rows]
    · simp [h.energies]
    · exact spent
  · simp only [if_neg improves] at counted stalled ⊢
    constructor
    · exact ⟨_, _, rfl, rfl, rfl⟩
    · exact counted
    · rw [join]
      exact h.descending.concat (Or.inr ⟨point.symm, energy.symm⟩)
    · refine Eq.trans ?_ (congrArg (halved · start.steps) stalled.symm)
      simp only [halved_succ, ← h.steps]
    · exact h.rows
    · exact h.energies
    · exact spent

/-- Only the step lengths and what is committed matter, and the status does not. -/
theorem of_same (h : Charted start records s) (steps : t.steps = s.steps) (status : Status)
    (state : t.state = { s.state with status }) : Charted start records t where
  last := by rw [state]; exact h.last
  counted := by rw [state]; exact h.counted
  descending := h.descending
  steps := steps.trans h.steps
  rows := by rw [state]; exact h.rows
  energies := by rw [state]; exact h.energies
  spent := by rw [state]; exact h.spent

end Charted

namespace Paced

variable {records : List (Record α)}

/-- Before the first generation nothing was due. -/
theorem begin (charted : Charted start records s) (first : s.state.generation = 0) :
    Paced start records s := by
  constructor
  · intro k hk
    cases hk.symm.trans (charted.stalls_eq_zero first)
  · intro later
    omega

/-- Only the number of generations matters. -/
theorem of_same (h : Paced start records s) (status : Status)
    (state : t.state = { s.state with status }) : Paced start records t where
  late := h.late
  again := by rw [state]; exact h.again

/-- A generation is due if it is the first one or finds a mesh that is too wide. -/
theorem move (h : Paced start records s) (charted : Charted start records s)
    (alongside : Alongside start s) (due : s.state.generation = 0 ∨ s.converged = false)
    (points : List (Point α)) (es : List Float) :
    Paced start (records ++ [(s.move points es).summary]) (s.move points es) := by
  constructor
  · intro k hk
    rw [charted.stalls_move] at hk
    by_cases improves : (Energy.argmin es).2 < s.state.bestEnergy
    · rw [if_pos improves, Nat.add_zero] at hk
      exact h.late k hk
    · rw [if_neg improves] at hk
      obtain rfl : stalls records = k := Nat.succ.inj hk
      rcases due with first | wide
      · exact Or.inl (charted.stalls_eq_zero first)
      · exact Or.inr ((alongside.refined _).converged charted.steps ▸ wide)
  · rw [generation_move]
    intro later none
    rcases due with first | wide
    · omega
    · rw [Compass.converged, alongside.freeCoordinates, none] at wide
      cases wide

end Paced

/-! ## The end of a run -/

/-- A call that runs no generation takes up a run that has ended only if it records a request to
stop. -/
theorem ended_of_handled {allowed : Constraints α → Prop} {u : Solver α}
    (h : (Solver.compass s).Handled allowed u) :
    u = (Solver.compass s).markCancelled ∨ u.state.isTerminated = s.state.isTerminated := by
  cases h with
  | marked => exact Or.inl rfl
  | guessed hu =>
      obtain ⟨s', hg, rfl⟩ := Evolution.exists_of_map_eq_ok hu
      obtain ⟨_, _, rfl⟩ := setInitialGuess_eq_ok hg
      exact Or.inr rfl
  | populated hu =>
      cases hu
      exact Or.inr rfl
  | _ => exact Or.inr rfl

theorem milestones_of_isTerminated (o : Objective α) (calls : Nat)
    (ended : s.state.isTerminated = true) : (s.step o calls).1.milestones = [] := by
  cases hr : (s.step o calls).1.result with
  | error e => exact Reply.milestones_of_error hr
  | ok b =>
      rcases step_completed hr with ⟨_, hs⟩ | ⟨going, _⟩
      · rw [hs]
        rfl
      · cases going.symm.trans ended

theorem isTerminated_of_step_ok (success : (s.step o calls).1.result = .ok true) :
    (s.step o calls).1.after.state.isTerminated = true := by
  cases going : s.state.isTerminated with
  | true =>
      rw [(step_of_isTerminated o calls going).1]
      exact going
  | false => exact (step_going going success).2

/-- **A run is taken up again after its end only by a record of a request to stop.**  As long as
there is none, no generation is committed after the one that ended the run, and it stays ended. -/
theorem endedOnce_or_marked {allowed : Constraints α → Prop} {u : Solver α}
    {rs : List (Reply (Solver α) α Bool)} (run : Solver.Ran allowed (.compass s) rs u) :
    (∃ s', u = .compass s' ∧ EndedOnce rs ∧
      ((∃ r ∈ rs, r.result = .ok true) → s'.state.isTerminated = true)) ∨
    ∃ before t after, rs = before ++ after ∧ Solver.Ran allowed (.compass s) before t ∧
      t.state.isTerminated = true ∧ Solver.Ran allowed t.markCancelled after u := by
  induction run with
  | start => exact Or.inl ⟨s, rfl, List.Pairwise.nil, by simp⟩
  | stepped o calls _ returned ih =>
      rcases ih with ⟨s', rfl, once, stays⟩ | ⟨before, t, after, rfl, first, ended, again⟩
      · refine Or.inl ⟨(s'.step o calls).1.after, rfl,
          List.pairwise_append.2 ⟨once, List.pairwise_singleton _ _, ?_⟩, ?_⟩
        · intro r hr later hlater ended
          rw [List.mem_singleton.1 hlater]
          exact milestones_of_isTerminated o calls (stays ⟨r, hr, ended⟩)
        · rintro ⟨r, hr, ended⟩
          rcases List.mem_append.1 hr with hr | hr
          · have terminated := stays ⟨r, hr, ended⟩
            rw [(step_of_isTerminated o calls terminated).1]
            exact terminated
          · rw [List.mem_singleton.1 hr] at ended
            exact isTerminated_of_step_ok ended
      · exact Or.inr ⟨before, t, _, by rw [List.append_assoc], first, ended,
          again.stepped o calls returned⟩
  | handled run hu ih =>
      rcases ih with ⟨s', rfl, once, stays⟩ | ⟨before, t, after, rfl, first, ended, again⟩
      · obtain ⟨s'', rfl, _⟩ := exists_of_handled hu
        rcases ended_of_handled hu with marked | same
        · cases ended : s'.state.isTerminated with
          | true =>
              refine Or.inr ⟨_, .compass s', [], (List.append_nil _).symm, run, ended, ?_⟩
              rw [marked]
              exact .start
          | false => exact Or.inl ⟨s'', rfl, once, fun h => by cases ended.symm.trans (stays h)⟩
        · exact Or.inl ⟨s'', rfl, once, fun h => same.trans (stays h)⟩
      · exact Or.inr ⟨before, t, after, rfl, first, ended, again.handled hu⟩

/-! ## A run -/

/-- What a run has come to, by the replies to its generations. -/
structure Meshed (start : Compass α) (rs : List (Reply (Solver α) α Bool)) (s : Compass α) :
    Prop where
  /-- the mesh lies in the same box -/
  alongside : Alongside start s
  /-- before the start point has its energy, there is a start point and nothing else -/
  fresh : s.evaluated = false → s.steps = start.steps ∧ s.state.population.rows.length = 1 ∧
    s.state.energies.length = 1 ∧ s.state.generation = 0
  /-- from then on generations were completed as the course says -/
  begun : s.evaluated = true → Charted start (course rs) s ∧ 0 < s.state.generation
  /-- and, unless the run was taken up again after it ended, all of them were due -/
  paced : s.evaluated = true → EndedOnce rs → Paced start (course rs) s
  /-- a run that no generation has ended has a mesh that is too wide -/
  wide : (∀ r ∈ rs, r.result ≠ .ok true) → s.evaluated = true → s.converged = false
  /-- without free coordinates every generation ends the run -/
  closed : start.freeCoordinates = [] → ∀ r ∈ rs, r.result ≠ .ok false

namespace Meshed

variable {rs : List (Reply (Solver α) α Bool)} {allowed : Constraints α → Prop} {u : Solver α}

theorem of_same (h : Meshed start rs s) (alongside : Alongside s t)
    (evaluated : t.evaluated = s.evaluated) (steps : t.steps = s.steps) (status : Status)
    (state : t.state = { s.state with status }) : Meshed start rs t where
  alongside := ⟨alongside.dim.trans h.alongside.dim, alongside.box.trans h.alongside.box,
    alongside.tolerance.trans h.alongside.tolerance⟩
  fresh hs := by
    rw [steps, state]
    exact h.fresh (evaluated ▸ hs)
  begun hs := by
    obtain ⟨charted, pos⟩ := h.begun (evaluated ▸ hs)
    exact ⟨charted.of_same steps status state, by rw [state]; exact pos⟩
  paced hs once := by
    exact (h.paced (evaluated ▸ hs) once).of_same status state
  wide unended hs := by
    rw [alongside.converged steps]
    exact h.wide unended (evaluated ▸ hs)
  closed := h.closed

/-- A call that runs no generation leaves the mesh as it is; at most there is another start
point. -/
theorem handled (h : Meshed start rs s) (hu : (Solver.compass s).Handled allowed u) :
    ∃ s', u = .compass s' ∧ Meshed start rs s' := by
  have here : Alongside s s := ⟨rfl, rfl, rfl⟩
  cases hu with
  | guessed ht =>
      obtain ⟨s', hg, rfl⟩ := Evolution.exists_of_map_eq_ok ht
      obtain ⟨hs, _, rfl⟩ := setInitialGuess_eq_ok hg
      obtain ⟨steps, single, one, first⟩ := h.fresh hs
      refine ⟨_, rfl, ⟨⟨h.alongside.dim, h.alongside.box, h.alongside.tolerance⟩, fun _ => ?_,
        ?_, ?_, ?_, h.closed⟩⟩
      · exact ⟨steps, by simpa [Population.setRow] using single, one, first⟩
      · intro begun
        cases hs.symm.trans begun
      · intro begun
        cases hs.symm.trans begun
      · intro _ begun
        cases hs.symm.trans begun
  | populated ht =>
      cases ht
      exact ⟨s, rfl, h⟩
  | strategy x => exact ⟨s, rfl, h⟩
  | init x => exact ⟨s, rfl, h⟩
  | marked => exact ⟨_, rfl, h.of_same ⟨rfl, rfl, rfl⟩ rfl rfl .cancelled rfl⟩
  | _ => exact ⟨_, rfl, h.of_same ⟨rfl, rfl, rfl⟩ rfl rfl s.state.status rfl⟩

/-- A generation that fails leaves no trace. -/
theorem step_error (h : Meshed start rs s) {e : SolverError}
    (failed : (s.step o calls).1.result = .error e) :
    Meshed start (rs ++ [((Solver.compass s).step o calls).1]) (s.step o calls).1.after := by
  have failed' : ((Solver.compass s).step o calls).1.result = .error e := failed
  have same := course_concat_of_silent rs (Reply.committed_of_error failed')
    (Reply.milestones_of_error failed')
  rw [Compass.step_error failed]
  refine ⟨h.alongside, h.fresh, fun hs => same ▸ h.begun hs, fun hs once => ?_,
    fun unended => h.wide fun r hr => unended r (List.mem_append_left _ hr), fun none => ?_⟩
  · rw [same]
    exact h.paced hs (List.pairwise_append.1 once).1
  · intro r hr
    rcases List.mem_append.1 hr with hr | hr
    · exact h.closed none r hr
    · rw [List.mem_singleton.1 hr, failed']
      exact nofun

/-- What a generation finds when its probes are due: the course up to there, and, in a run that was
not taken up again, a mesh that is too wide unless this is the first generation. -/
theorem begin (h : Meshed start rs s) (kept : Kept rs s)
    (hf : (s.evaluateStart o calls).1.result = .ok ()) {r : Reply (Solver α) α Bool}
    {rest : List (Record α)} (recorded : r.committed =
      (s.evaluateStart o calls).1.events.filterMap Event.evaluated? ++ rest) :
    ∃ records, Charted start records (s.evaluateStart o calls).1.after ∧
      course (rs ++ [r]) = records ++ r.milestones ∧
      Alongside start (s.evaluateStart o calls).1.after ∧
      (EndedOnce rs → (∀ r ∈ rs, r.result ≠ .ok true) →
        Paced start records (s.evaluateStart o calls).1.after ∧
          ((s.evaluateStart o calls).1.after.state.generation = 0 ∨
            (s.evaluateStart o calls).1.after.converged = false)) := by
  rcases evaluateStart_recorded hf with ⟨hs, same⟩ | ⟨hs, x, f, after, first⟩
  · obtain ⟨first, later, hrs, _⟩ := kept.begun hs
    rw [same]
    refine ⟨course rs, (h.begun hs).1, course_concat (by simp [hrs]) r, h.alongside, ?_⟩
    intro once unended
    exact ⟨h.paced hs once, Or.inr (h.wide unended hs)⟩
  · obtain ⟨steps, single, one, none⟩ := h.fresh hs
    obtain ⟨hrs, failed, unspent, _⟩ := kept.fresh hs
    have nothing : rs.flatMap Reply.milestones = [] := by
      rw [List.flatMap_eq_nil_iff]
      intro r' hr'
      cases hr : r'.result with
      | ok b => exact absurd hr (failed r' hr' b)
      | error e => exact Reply.milestones_of_error hr
    have charted := Charted.commitStart (x := x) (f := f) (s.state.evaluations + 1) steps single
      one none unspent
    rw [after]
    refine ⟨_, charted, ?_, ⟨h.alongside.dim, h.alongside.box, h.alongside.tolerance⟩, ?_⟩
    · simp [course, hrs, nothing, recorded, first]
    · intro _ _
      exact ⟨Paced.begin charted none, Or.inl none⟩

/-- **A generation that succeeds adds its entry to the course**, unless the run had ended. -/
theorem step_ok (h : Meshed start rs s) (kept : Kept rs s)
    (success : (s.step o calls).1.result = .ok b) :
    Meshed start (rs ++ [((Solver.compass s).step o calls).1]) (s.step o calls).1.after := by
  rcases step_completed success with ⟨ended, hs⟩ |
    ⟨going, hf, t, points, es, n, rfl, hp, hb, asked, after, milestones, rest, committed⟩
  · -- the run had ended, so nothing is added
    have silent : ((Solver.compass s).step o calls).1 = .done (.compass s) true [] := by
      show (s.step o calls).1.lift Solver.compass = _
      rw [hs]
      rfl
    have same : course (rs ++ [((Solver.compass s).step o calls).1]) = course rs := by
      rw [silent]
      exact course_concat_of_silent rs rfl rfl
    have stays : (s.step o calls).1.after = s := by rw [hs]; rfl
    rw [stays]
    refine ⟨h.alongside, h.fresh, fun evaluated => same ▸ h.begun evaluated,
      fun evaluated once => ?_, fun unended => ?_, fun none => ?_⟩
    · rw [same]
      exact h.paced evaluated (List.pairwise_append.1 once).1
    · refine absurd ?_ (unended _ (List.mem_append_right _ (List.mem_singleton_self _)))
      rw [silent]
      rfl
    · intro r hr
      rcases List.mem_append.1 hr with hr | hr
      · exact h.closed none r hr
      · rw [List.mem_singleton.1 hr, silent]
        exact nofun
  · have milestones' : ((Solver.compass s).step o calls).1.milestones =
        [((s.evaluateStart o calls).1.after.running.move points es).summary] := milestones
    obtain ⟨records, charted, hcourse, alongside, due⟩ := h.begin kept hf
      (show ((Solver.compass s).step o calls).1.committed = _ ++ rest from committed)
    have running : Charted start records (s.evaluateStart o calls).1.after.running :=
      charted.of_same rfl .running rfl
    have beside : Alongside start (s.evaluateStart o calls).1.after.running :=
      ⟨alongside.dim, alongside.box, alongside.tolerance⟩
    obtain ⟨steps, frame, ⟨status, state⟩, wide⟩ := checkStop_asked asked
    have evaluated : (s.step o calls).1.after.evaluated = true := by
      rw [after, evaluated_checkStop, evaluated_move]
      exact evaluated_evaluateStart hf
    refine ⟨h.alongside.step o calls, fun hs => ?_, fun _ => ⟨?_, ?_⟩, fun _ once => ?_,
      fun unended _ => ?_, fun none => ?_⟩
    · cases hs.symm.trans evaluated
    · rw [hcourse, milestones', after]
      exact (running.move beside (of_probes_eq_ok hp).1 es).of_same steps status state
    · rw [after, state, generation_move]
      exact Nat.succ_pos _
    · obtain ⟨paced, due⟩ := due (List.pairwise_append.1 once).1
        (once.of_concat (by rw [milestones']; exact List.cons_ne_nil _ _))
      rw [hcourse, milestones', after]
      have begun : Paced start records (s.evaluateStart o calls).1.after.running :=
        paced.of_same .running rfl
      exact (begun.move running beside due points es).of_same status state
    · rw [after, frame.converged steps]
      refine wide (Bool.eq_false_iff.2 ?_)
      rintro rfl
      exact unended _ (List.mem_append_right _ (List.mem_singleton_self _)) success
    · intro r hr
      rcases List.mem_append.1 hr with hr | hr
      · exact h.closed none r hr
      · rw [List.mem_singleton.1 hr]
        intro going
        have wider := wide (Except.ok.inj (success.symm.trans going))
        rw [Compass.converged, (beside.move points es).freeCoordinates, none] at wider
        cases wider

/-- **A run keeps the books of its mesh.** -/
theorem of_ran (start_kept : Kept [] s) (h : Meshed s [] s)
    (run : Solver.Ran allowed (.compass s) rs u) : ∃ s', u = .compass s' ∧ Meshed s rs s' := by
  induction run with
  | start => exact ⟨s, rfl, h⟩
  | stepped o calls before _ ih =>
      obtain ⟨s', rfl, meshed⟩ := ih
      obtain ⟨s'', hs'', kept⟩ := kept_of_ran start_kept before
      cases hs''
      refine ⟨_, rfl, ?_⟩
      cases hr : (s'.step o calls).1.result with
      | ok b => exact meshed.step_ok kept hr
      | error e => exact meshed.step_error hr
  | handled _ hu ih =>
      obtain ⟨s', rfl, meshed⟩ := ih
      exact meshed.handled hu

/-- A search that was made ready has its first mesh, as wide as a fraction of the box. -/
theorem prepared {box : Option (Box α)} {size : Nat} {seed : Seed}
    (h : (s.prepare box size seed).result = .ok ()) :
    Meshed (s.prepare box size seed).after [] (s.prepare box size seed).after ∧
      (s.prepare box size seed).after.steps =
        (Evolution.drawBox s.dim box).span.map (· * s.initialStep) ∧
      (s.prepare box size seed).after.tolerance = s.tolerance := by
  unfold prepare at h ⊢
  split at h
  · cases h
  next nonzero =>
    rw [if_neg nonzero]
    cases hc : Evolution.checkBox s.dim box with
    | error e =>
        rw [hc] at h
        cases h
    | ok checked =>
        have single := (Sampling.table_uniform 1 (Evolution.drawBox s.dim box)
          seed.generator).2
        refine ⟨⟨⟨rfl, rfl, rfl⟩, fun _ => ⟨rfl, single, ?_, rfl⟩, nofun, nofun, nofun,
          nofun⟩, rfl, rfl⟩
        exact List.length_replicate.trans single

end Meshed

end Compass
end BoxSearch

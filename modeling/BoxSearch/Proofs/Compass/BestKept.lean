import BoxSearch.Proofs.Compass.Accounting
import BoxSearch.Proofs.Solver.Committed

/-!
# Which evaluations the best energy of a compass search answers for

A compass search takes the energy of its start point as the best one, whatever it is, and moves
on to a probe only if the probe is strictly below.  No number is below a missing one.  So a
search whose start point has an energy never loses the lowest one that it evaluates, and a
search whose start point has none stays there, whatever it evaluates.

* `Keeps` — what the best pair of a search is after some evaluations, the first of which is
  that of its start point;
* `Keeps.move` — a generation of probes preserves it;
* `kept_step`, `kept_of_ran` — so do a step, whatever becomes of it, and a run;
* `best_le_committed_iff` — the best energy is at most every committed number exactly if the
  start point has an energy or no probe has one;
* `start_without_energy_is_kept` — a search that evaluates a number and keeps none.
-/

namespace BoxSearch

/-- A record of some numbered evaluations is one of them. -/
theorem mem_numbered_iff {α : Type} {first : Nat} {xs : List (Point α × Float)} {r : Record α} :
    r ∈ numbered first xs ↔
      ∃ k : Nat, xs[k]? = some (r.point, r.energy) ∧ r.evaluations = first + k := by
  rw [numbered, List.mem_iff_getElem?]
  refine exists_congr fun k => ?_
  rw [List.getElem?_mapIdx, Option.map_eq_some_iff]
  constructor
  · rintro ⟨x, hx, rfl⟩
    exact ⟨hx, rfl⟩
  · rintro ⟨hx, hr⟩
    exact ⟨_, hx, by rw [← hr]⟩

namespace Compass

variable {α : Type} {first : Record α} {later : List (Record α)}

/-! ## The best pair -/

/-- The best pair of a state after some evaluations, the first of which is that of the start
point. -/
structure Keeps (first : Record α) (later : List (Record α)) (state : State α) : Prop where
  /-- it is a point that was evaluated, with its energy -/
  pair : ∃ r ∈ first :: later, state.bestSolution = r.point ∧ state.bestEnergy = r.energy
  /-- if the start point has an energy, then it is the lowest one -/
  lowest : first.energy.isNaN = false → state.bestEnergy.isNaN = false ∧
    ∀ r ∈ first :: later, r.energy.isNaN = false → state.bestEnergy ≤ r.energy
  /-- otherwise it is the start point still -/
  stuck : first.energy.isNaN = true →
    state.bestSolution = first.point ∧ state.bestEnergy = first.energy

/-- Nothing but the best pair matters. -/
theorem Keeps.of_same {state state' : State α} (h : Keeps first later state)
    (solution : state'.bestSolution = state.bestSolution)
    (energy : state'.bestEnergy = state.bestEnergy) : Keeps first later state' where
  pair := by rw [solution, energy]; exact h.pair
  lowest := by rw [energy]; exact h.lowest
  stuck := by rw [solution, energy]; exact h.stuck

variable [Scalar α] {s t : Compass α} {o : Objective α} {calls : Nat} {b : Bool}

namespace Keeps

/-- The start point is the best one, whatever its energy is. -/
theorem commitStart (s : Compass α) (n : Nat) (x : Point α) (f : Float) :
    Keeps ⟨n, x, f⟩ [] (s.commitStart x f).state where
  pair := ⟨_, List.mem_singleton_self _, rfl, rfl⟩
  lowest number := by
    refine ⟨number, fun r hr _ => ?_⟩
    rw [List.mem_singleton.1 hr]
    exact Double.le_refl_iff.2 number
  stuck _ := ⟨rfl, rfl⟩

/-- **A generation of probes keeps the lowest energy, or the start point.** -/
theorem move (h : Keeps first later s.state) {points : List (Point α)} {es : List Float}
    (n : Nat) (hl : es.length = points.length) :
    Keeps first (later ++ numbered n (points.zip es)) (s.move points es).state := by
  have lowest := Energy.isLowest_argmin es
  have energy_mem {r : Record α} (hr : r ∈ numbered n (points.zip es)) : r.energy ∈ es := by
    obtain ⟨k, hk, _⟩ := mem_numbered_iff.1 hr
    exact (List.of_mem_zip (List.mem_of_getElem? hk)).2
  simp only [Compass.move]
  by_cases improves : (Energy.argmin es).2 < s.state.bestEnergy
  · rw [if_pos improves]
    have place : (Energy.argmin es).1 < points.length :=
      hl ▸ Energy.argmin_lt_length_of_lt improves
    have best := (Double.lt_iff.1 improves).2.1
    have moved : (⟨n + (Energy.argmin es).1, points.getD (Energy.argmin es).1 [],
        (Energy.argmin es).2⟩ : Record α) ∈ numbered n (points.zip es) := by
      refine mem_numbered_iff.2 ⟨(Energy.argmin es).1, ?_, rfl⟩
      rw [List.getElem?_zip_eq_some]
      have below := Double.lt_of_lt_of_le improves (Double.le_infinity best)
      exact ⟨by simp [place], Energy.getElem?_argmin below⟩
    refine ⟨⟨_, List.mem_cons_of_mem _ (List.mem_append_right _ moved), rfl, rfl⟩, ?_, ?_⟩
    · intro number
      refine ⟨lowest.number, fun r hr hn => ?_⟩
      rw [← List.cons_append, List.mem_append] at hr
      rcases hr with hr | hr
      · exact Double.le_of_lt (Double.lt_of_lt_of_le improves ((h.lowest number).2 r hr hn))
      · exact lowest.below _ (energy_mem hr) hn
    · -- a probe is never below a missing energy
      intro missing
      rw [(h.stuck missing).2, missing] at best
      cases best
  · rw [if_neg improves]
    obtain ⟨r, hr, solution, energy⟩ := h.pair
    refine ⟨⟨r, ?_, solution, energy⟩, ?_, h.stuck⟩
    · rw [← List.cons_append]
      exact List.mem_append_left _ hr
    · intro number
      obtain ⟨best, all⟩ := h.lowest number
      refine ⟨best, fun r hr hn => ?_⟩
      rw [← List.cons_append, List.mem_append] at hr
      rcases hr with hr | hr
      · exact all r hr hn
      · exact Double.le_trans ((Double.not_lt_iff lowest.number best).1 improves)
          (lowest.below _ (energy_mem hr) hn)

end Keeps

/-! ## What a step records -/

/-- The start point is recorded when it gets its energy, and not again. -/
theorem evaluateStart_recorded (h : (s.evaluateStart o calls).1.result = .ok ()) :
    (s.evaluated = true ∧ s.evaluateStart o calls = (.done s () [], calls)) ∨
      (s.evaluated = false ∧ ∃ x f, (s.evaluateStart o calls).1.after = s.commitStart x f ∧
        (s.evaluateStart o calls).1.events.filterMap Event.evaluated? =
          [⟨s.state.evaluations + 1, x, f⟩]) := by
  rcases evaluateStart_ok h with ⟨hs, _⟩ | ⟨hs, row, rows, _, hr, _, _⟩
  · exact Or.inl ⟨hs, evaluateStart_of_evaluated hs⟩
  · rcases hb : s.evaluateBatch o calls [s.finish row] with ⟨e | es, n⟩
    · rw [evaluateStart_of_batch_error hs hr hb] at h
      cases h
    · obtain ⟨f, rfl⟩ := List.length_eq_one_iff.1 (length_of_evaluateBatch hb)
      refine Or.inr ⟨hs, s.finish row, f, ?_⟩
      simp only [evaluateStart, hs, hr, hb, Bool.false_eq_true, if_false, Reply.done,
        Batch.evaluated_records, List.headD_cons]
      exact ⟨trivial, rfl⟩

/-- The probes of a generation are recorded, all of them. -/
theorem explore_recorded (h : (s.explore o calls).1.result = .ok b) :
    ∃ points es, es.length = points.length ∧
      (s.explore o calls).1.after = (s.move points es).checkStop.after ∧
      (s.explore o calls).1.events.filterMap Event.evaluated? =
        numbered (s.state.evaluations + 1) (points.zip es) := by
  obtain ⟨points, _, hp, _⟩ := explore_ok h
  rcases hb : s.evaluateBatch o calls points with ⟨e | es, n⟩
  · rw [explore_of_batch_error hp hb] at h
    cases h
  · refine ⟨points, es, length_of_evaluateBatch hb, (explore_of_batch_ok hp hb).2, ?_⟩
    simp only [explore, hp, hb, commitGeneration, Reply.preceded, checkStop_spends_nothing.1,
      List.append_nil, List.filterMap_append, Batch.evaluated_records]
    exact List.append_nil _

theorem best_checkStop : s.checkStop.after.state.bestSolution = s.state.bestSolution ∧
    s.checkStop.after.state.bestEnergy = s.state.bestEnergy := by
  unfold checkStop
  cases askWatch s.state s.watch with
  | error e => exact ⟨rfl, rfl⟩
  | ok answer =>
      obtain ⟨reason, watch⟩ := answer
      dsimp only
      split <;> exact ⟨rfl, rfl⟩

/-- A generation that succeeds found the run ended, or it recorded the start point, if that was
not done before, and the probes around the best point. -/
theorem step_recorded (h : (s.step o calls).1.result = .ok b) :
    (s.state.isTerminated = true ∧ s.step o calls = (.done s true [], calls)) ∨
      s.state.isTerminated = false ∧ (s.evaluateStart o calls).1.result = .ok () ∧
        ∃ t points es, t = (s.evaluateStart o calls).1.after.running ∧
          es.length = points.length ∧
          (s.step o calls).1.after = (t.move points es).checkStop.after ∧
          (s.step o calls).1.events.filterMap Event.evaluated? =
            (s.evaluateStart o calls).1.events.filterMap Event.evaluated? ++
              numbered (t.state.evaluations + 1) (points.zip es) := by
  obtain ⟨hc, ⟨ended, _⟩ | ⟨going, hf, _⟩⟩ := step_ok h
  · exact Or.inl ⟨ended, step_of_ended hc ended⟩
  · rw [step_result] at h
    rw [step_of_advance_ok h]
    obtain ⟨n, ha⟩ := advance_eq_of_start_ok hc going hf
    rw [ha] at h ⊢
    obtain ⟨points, es, hl, after, recorded⟩ := explore_recorded h
    refine Or.inr ⟨going, hf, _, points, es, rfl, hl, after, ?_⟩
    rw [← recorded, ← List.filterMap_append]
    rfl

/-! ## A run -/

/-- What the generations of a run committed, and the best pair that is left of it. -/
structure Kept (rs : List (Reply (Solver α) α Bool)) (s : Compass α) : Prop where
  /-- before the start point has its energy, no generation has succeeded -/
  fresh : s.evaluated = false → rs.flatMap Reply.committed = [] ∧
    (∀ r ∈ rs, ∀ b, r.result ≠ .ok b) ∧ s.state.evaluations = 0 ∧ s.state.isTerminated = false
  /-- from then on the best pair is kept -/
  begun : s.evaluated = true → ∃ first later, rs.flatMap Reply.committed = first :: later ∧
    first.evaluations = 1 ∧ Keeps first later s.state

variable {rs : List (Reply (Solver α) α Bool)}

theorem Kept.of_begun (evaluated : s.evaluated = true)
    (h : ∃ first later, rs.flatMap Reply.committed = first :: later ∧ first.evaluations = 1 ∧
      Keeps first later s.state) : Kept rs s where
  fresh hn := by cases hn.symm.trans evaluated
  begun _ := h

/-- **A generation that succeeds keeps the best pair.** -/
theorem kept_step_ok (h : Kept rs s) (success : (s.step o calls).1.result = .ok b) :
    Kept (rs ++ [((Solver.compass s).step o calls).1]) (s.step o calls).1.after := by
  have reply : ((Solver.compass s).step o calls).1.committed =
      (s.step o calls).1.events.filterMap Event.evaluated? := Reply.committed_of_ok success
  have committed : (rs ++ [((Solver.compass s).step o calls).1]).flatMap Reply.committed =
      rs.flatMap Reply.committed ++ (s.step o calls).1.events.filterMap Event.evaluated? := by
    rw [List.flatMap_append, List.flatMap_singleton, reply]
  rcases step_recorded success with ⟨ended, hs⟩ | ⟨_, hf, t, points, es, rfl, hl, after, recorded⟩
  · -- the run had ended, so the start point has its energy
    have evaluated : s.evaluated = true := by
      by_contra hn
      have going := (h.fresh (Bool.eq_false_iff.2 hn)).2.2.2
      cases going.symm.trans ended
    obtain ⟨first, later, hrs, one, keeps⟩ := h.begun evaluated
    have same : (s.step o calls).1.after = s := by rw [hs]; rfl
    have silent : (s.step o calls).1.events.filterMap Event.evaluated? = [] := by rw [hs]; rfl
    rw [same]
    refine .of_begun evaluated ⟨first, later, ?_, one, keeps⟩
    rw [committed, silent, List.append_nil, hrs]
  · have evaluated : (s.step o calls).1.after.evaluated = true := by
      rw [after, evaluated_checkStop, evaluated_move]
      exact evaluated_evaluateStart hf
    refine .of_begun evaluated ?_
    rw [committed, recorded, after]
    rcases evaluateStart_recorded hf with ⟨hs, begin⟩ | ⟨hs, x, f, begin, start⟩
    · obtain ⟨first, later, hrs, one, keeps⟩ := h.begun hs
      have same : (s.evaluateStart o calls).1.after = s := by rw [begin]; rfl
      have silent : (s.evaluateStart o calls).1.events.filterMap Event.evaluated? = [] := by
        rw [begin]
        rfl
      rw [same, silent, hrs]
      have going : Keeps first later s.running.state := keeps.of_same rfl rfl
      have moved := going.move (s.running.state.evaluations + 1) hl
      exact ⟨first, _, rfl, one, moved.of_same best_checkStop.1 best_checkStop.2⟩
    · obtain ⟨hrs, _, unspent, _⟩ := h.fresh hs
      rw [begin, start, hrs, unspent]
      have keeps : Keeps ⟨1, x, f⟩ [] (s.commitStart x f).running.state :=
        (Keeps.commitStart s 1 x f).of_same rfl rfl
      have moved := keeps.move ((s.commitStart x f).running.state.evaluations + 1) hl
      exact ⟨⟨1, x, f⟩, _, rfl, rfl, moved.of_same best_checkStop.1 best_checkStop.2⟩

/-- **A generation keeps the best pair**, whatever becomes of it. -/
theorem kept_step (h : Kept rs s) (o : Objective α) (calls : Nat) :
    Kept (rs ++ [((Solver.compass s).step o calls).1]) (s.step o calls).1.after := by
  cases hr : (s.step o calls).1.result with
  | ok b => exact kept_step_ok h hr
  | error e =>
      have failed : ((Solver.compass s).step o calls).1.result = .error e := hr
      have committed : (rs ++ [((Solver.compass s).step o calls).1]).flatMap Reply.committed =
          rs.flatMap Reply.committed := by
        rw [List.flatMap_append, List.flatMap_singleton, Reply.committed_of_error failed,
          List.append_nil]
      rw [step_error hr]
      refine ⟨fun hs => ?_, fun hs => committed ▸ h.begun hs⟩
      obtain ⟨hrs, none, unspent, going⟩ := h.fresh hs
      refine ⟨committed.trans hrs, fun r hr' b => ?_, unspent, going⟩
      rcases List.mem_append.1 hr' with hr' | hr'
      · exact none r hr' b
      · rw [List.mem_singleton.1 hr', failed]
        exact nofun

variable {allowed : Constraints α → Prop} {u : Solver α}

/-- A call that runs no generation leaves a search its evaluations and its best pair, though the
start point may be another one before it has its energy. -/
theorem exists_of_handled (h : (Solver.compass s).Handled allowed u) :
    ∃ s', u = .compass s' ∧ s'.evaluated = s.evaluated ∧
      s'.state.evaluations = s.state.evaluations ∧ s'.state.bestEnergy = s.state.bestEnergy ∧
      (s.evaluated = true → s'.state.bestSolution = s.state.bestSolution) ∧
      (s.state.isTerminated = false → s'.state.isTerminated = false) := by
  cases h with
  | populated hu =>
      cases hu
      exact ⟨s, rfl, rfl, rfl, rfl, fun _ => rfl, id⟩
  | guessed hu =>
      obtain ⟨s', hg, rfl⟩ := Evolution.exists_of_map_eq_ok hu
      obtain ⟨fresh, _, rfl⟩ := setInitialGuess_eq_ok hg
      exact ⟨_, rfl, rfl, rfl, rfl, fun hs => (by cases fresh.symm.trans hs), id⟩
  | marked => exact ⟨_, rfl, rfl, rfl, rfl, fun _ => rfl, fun _ => rfl⟩
  | _ => exact ⟨_, rfl, rfl, rfl, rfl, fun _ => rfl, id⟩

/-- **A run keeps the best pair.** -/
theorem kept_of_ran (h : Kept [] s) (run : Solver.Ran allowed (.compass s) rs u) :
    ∃ s', u = .compass s' ∧ Kept rs s' := by
  induction run with
  | start => exact ⟨s, rfl, h⟩
  | stepped o calls _ _ ih =>
      obtain ⟨s', rfl, kept⟩ := ih
      exact ⟨_, rfl, kept_step kept o calls⟩
  | handled _ hu ih =>
      obtain ⟨s', rfl, kept⟩ := ih
      obtain ⟨s'', rfl, evaluated, spent, energy, solution, going⟩ := exists_of_handled hu
      refine ⟨s'', rfl, fun hs => ?_, fun hs => ?_⟩
      · obtain ⟨hrs, none, unspent, running⟩ := kept.fresh (evaluated ▸ hs)
        exact ⟨hrs, none, spent.trans unspent, going running⟩
      · rw [evaluated] at hs
        obtain ⟨first, later, hrs, one, keeps⟩ := kept.begun hs
        exact ⟨first, later, hrs, one, keeps.of_same (solution hs) energy⟩

/-- A search that was made ready has committed nothing. -/
theorem kept_prepare {box : Option (Box α)} {size : Nat} {seed : Seed}
    (prepared : (s.prepare box size seed).result = .ok ()) :
    Kept [] (s.prepare box size seed).after := by
  obtain ⟨steps, population, ha⟩ := prepare_ok prepared
  rw [ha]
  exact ⟨fun _ => ⟨rfl, nofun, rfl, rfl⟩, nofun⟩

/-- **A compass search keeps the lowest energy that it commits, unless its start point has
none.**  Make a search ready, and let its user run generations on any objectives, which may
succeed or fail, step by step or by solving, with requests to stop, start points and settings
between them.  As soon as a generation has succeeded, there is a first evaluation that was
committed, that of the start point, and the best pair is one of those that were committed.  If
the start point has an energy, then the best energy is a number, and at most every number that
was committed.  If it has none, then the start point is the best point still and the best energy
is missing.  So the best energy is at most every number that was committed exactly if the start
point has an energy or no probe has one. -/
theorem best_le_committed_iff {box : Option (Box α)} {size : Nat} {seed : Seed}
    (prepared : (s.prepare box size seed).result = .ok ())
    (run : Solver.Ran allowed (.compass (s.prepare box size seed).after) rs u)
    (success : ∃ r ∈ rs, ∃ b, r.result = .ok b) :
    ∃ s' first later, u = .compass s' ∧ rs.flatMap Reply.committed = first :: later ∧
      first.evaluations = 1 ∧
      (∃ r ∈ first :: later,
        s'.state.bestSolution = r.point ∧ s'.state.bestEnergy = r.energy) ∧
      (first.energy.isNaN = false → s'.state.bestEnergy.isNaN = false) ∧
      (first.energy.isNaN = true →
        s'.state.bestSolution = first.point ∧ s'.state.bestEnergy.isNaN = true) ∧
      ((∀ r ∈ first :: later, r.energy.isNaN = false → s'.state.bestEnergy ≤ r.energy) ↔
        first.energy.isNaN = false ∨ ∀ r ∈ later, r.energy.isNaN = true) := by
  obtain ⟨s', rfl, kept⟩ := kept_of_ran (kept_prepare prepared) run
  have evaluated : s'.evaluated = true := by
    by_contra hn
    obtain ⟨r, hr, b, hb⟩ := success
    exact (kept.fresh (Bool.eq_false_iff.2 hn)).2.1 r hr b hb
  obtain ⟨first, later, hrs, one, keeps⟩ := kept.begun evaluated
  have stuck (missing : first.energy.isNaN = true) : s'.state.bestEnergy.isNaN = true := by
    rw [(keeps.stuck missing).2]
    exact missing
  refine ⟨s', first, later, rfl, hrs, one, keeps.pair, fun number => (keeps.lowest number).1,
    fun missing => ⟨(keeps.stuck missing).1, stuck missing⟩, ?_⟩
  cases hn : first.energy.isNaN with
  | false => exact iff_of_true (keeps.lowest hn).2 (Or.inl rfl)
  | true =>
      simp only [Bool.true_eq_false, false_or]
      constructor
      · intro below r hr
        by_contra number
        have le := below r (List.mem_cons_of_mem _ hr) (Bool.eq_false_iff.2 number)
        cases (Double.le_iff.1 le).1.symm.trans (stuck hn)
      · intro missing r hr number
        rcases List.mem_cons.1 hr with rfl | hr
        · cases number.symm.trans hn
        · cases number.symm.trans (missing r hr)

/-! ### A start point without an energy -/

/-- The square of a coordinate, where it is one. -/
def square : Objective Float := .ofFunction fun x => x.headD 0 * x.headD 0

/-- The same, but far from the origin there is no energy. -/
def squareNearby : Objective Float :=
  .ofFunction fun x => if 900 < x.headD 0 then Double.nan else x.headD 0 * x.headD 0

/-- The reply of a search on a line to its first generation. -/
def firstReply (o : Objective Float) : Reply (Solver Float) Float Bool :=
  ((Solver.compass onePoint).step o 0).1

/-- On the square a search keeps the lowest of the three energies that it evaluates in its first
generation, which is not that of the start point. -/
theorem best_le_committed_iff_onePoint :
    ∃ s' first later, (firstReply square).after = .compass s' ∧
      [firstReply square].flatMap Reply.committed = first :: later ∧ later.length = 2 ∧
      (∀ r ∈ first :: later, r.energy.isNaN = false → s'.state.bestEnergy ≤ r.energy) ∧
      s'.state.bestEnergy < first.energy := by
  obtain ⟨_, prepared⟩ := exists_ok_of_isOk
    (r := ((standard 1).prepare none 1 (.number 1)).result) (by decide +kernel)
  obtain ⟨b, success⟩ := exists_ok_of_isOk (r := (firstReply square).result) (by decide +kernel)
  have run : Solver.Ran (fun _ => True) (.compass onePoint) [firstReply square]
      (firstReply square).after :=
    .stepped square 0 .start fun c h => by cases success.symm.trans h
  have numbers : ([firstReply square].flatMap Reply.committed).map (·.energy.isNaN) =
      [false, false, false] := by decide +kernel
  obtain ⟨s', first, later, hs, committed, _, _, _, _, below⟩ :=
    best_le_committed_iff prepared run ⟨_, List.mem_singleton_self _, b, success⟩
  rw [committed, List.map_cons, List.cons.injEq] at numbers
  have improved : ([firstReply square].flatMap Reply.committed).head?.all
      (fun r => decide ((firstReply square).after.state.bestEnergy < r.energy)) = true := by
    decide +kernel
  rw [committed, hs] at improved
  refine ⟨s', first, later, hs, committed, ?_, below.2 (Or.inl numbers.1), ?_⟩
  · simpa using congrArg List.length numbers.2
  · exact of_decide_eq_true improved

/-- **A search whose start point has no energy keeps none.**  The lower probe of the first
generation has an energy, and still the best energy is missing after it. -/
theorem start_without_energy_is_kept :
    ((standard 1).prepare none 1 (.number 1)).result.isOk = true ∧
      (∃ b, (firstReply squareNearby).result = .ok b) ∧
      ∃ r ∈ [firstReply squareNearby].flatMap Reply.committed, r.energy.isNaN = false ∧
        ¬ (firstReply squareNearby).after.state.bestEnergy ≤ r.energy := by
  refine ⟨by decide +kernel, exists_ok_of_isOk (by decide +kernel), ?_⟩
  have lost : ([firstReply squareNearby].flatMap Reply.committed).any (fun r =>
      !r.energy.isNaN && !decide ((firstReply squareNearby).after.state.bestEnergy ≤ r.energy)) =
        true := by decide +kernel
  obtain ⟨r, hr, hl⟩ := List.any_eq_true.1 lost
  exact ⟨r, hr, by simpa using hl⟩

end Compass
end BoxSearch

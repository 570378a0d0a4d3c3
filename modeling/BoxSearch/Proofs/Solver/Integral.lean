import BoxSearch.Proofs.Config.Building
import BoxSearch.Proofs.Evolution.Finished
import BoxSearch.Proofs.Repair.Rounding
import BoxSearch.Proofs.Solver.Committed

/-!
# Runs over whole numbers

A configuration may mark coordinates that are to be whole numbers.  The solver that is built of
it rounds them inside their intervals and then clips the point into the box.  Where each of these
intervals has a whole number the clip takes nothing back, so a run stays on whole numbers.

* `Repair.Integral` — a point has whole numbers of the intervals at its marked places, or nothing
  that is a number;
* `Box.integral_finished` — every point has it after rounding and clipping;
* `Solver.Pursued` — where all calls of a user lead, with runs that are begun again and
  checkpoints that are put back;
* `Config.whole_wherever_pursued` — what rounding is to do for a point, that neither it nor the
  clip after it changes anything the second time, and that runs stay on whole numbers.
-/

namespace BoxSearch

open Double (IsWhole)

/-! ## One coordinate -/

namespace Interval

variable {s : Interval Float}

/-- The end of a fixed interval that has a whole number is this number. -/
theorem isWhole_lower_of_fixed (h : s.Finite) (fixed : s.isFree = false) (some : s.HasWhole) :
    IsWhole s.lower := by
  obtain ⟨n, low, high⟩ := some
  have ends : ¬ s.lower < s.upper := fun free => by
    rw [(s.isFree_iff).2 free] at fixed
    cases fixed
  rw [Double.lt_iff_value h.lower h.upper, not_lt] at ends
  exact ⟨h.lower, n, le_antisymm low (high.trans ends)⟩

end Interval

namespace Repair

variable {s : Interval Float}

/-- A whole number of the interval, or no number. -/
def IntegralIn (s : Interval Float) (v : Float) : Prop :=
  v.isNaN = true ∨ (IsWhole v ∧ s.lower ≤ v ∧ v ≤ s.upper)

/-- **The clip takes no whole number back**, if the interval has one. -/
theorem integralIn_clamp_wholeIn (h : s.Finite) (some : s.HasWhole) (x : Float) :
    IntegralIn s (s.clamp (wholeIn s x)) := by
  cases free : s.isFree with
  | false =>
      rw [Interval.clamp_of_fixed free]
      exact .inr ⟨Interval.isWhole_lower_of_fixed h free some,
        Double.le_refl_iff.2 s.number_lower, s.lower_le_upper⟩
  | true =>
      have inside : s.clamp (wholeIn s x) = wholeIn s x := by
        obtain ⟨-, ⟨below, above⟩ | ⟨-, none⟩⟩ := rounded_wholeIn h x
        · exact Interval.clamp_of_free free below above
        · exact absurd some none
      rw [inside]
      cases number : x.isNaN with
      | true => exact .inl (isNaN_wholeIn number)
      | false => exact .inr ⟨isWhole_wholeIn h number, between_wholeIn h some number⟩

/-! ## Points -/

/-- The marked coordinates of a point are whole numbers of their intervals, or no numbers. -/
def Integral (mask : List Bool) (b : Box Float) (x : Point Float) : Prop :=
  ∀ (i : ℕ) (s : Interval Float) (v : Float),
    mask[i]? = some true → b.sides[i]? = some s → x[i]? = some v → IntegralIn s v

/-- Each interval with a mark has a whole number. -/
def Integrable (mask : List Bool) (b : Box Float) : Prop :=
  ∀ (i : ℕ) (s : Interval Float), mask[i]? = some true → b.sides[i]? = some s → s.HasWhole

end Repair

namespace Box

variable {b : Box Float} {mask : List Bool}

/-- **A point has whole numbers after rounding and clipping.** -/
theorem integral_finished (finite : b.Finite) (integrable : Repair.Integrable mask b)
    (length : mask.length = b.dim) (x : Point Float) :
    Repair.Integral mask b (b.clip (Repair.wholeMarked (mask.zip b.sides) x)) := by
  intro i s v marked side member
  have place : i < x.length := by
    have := (List.getElem?_eq_some_iff.1 member).1
    rwa [length_clip, Repair.length_wholeMarked] at this
  rw [clip_wholeMarked length, getElem?_along (getElem?_marks marked side)
    (List.getElem?_eq_getElem place)] at member
  cases member
  exact Repair.integralIn_clamp_wholeIn (finite s (List.mem_of_getElem? side))
    (integrable i s marked side) _

end Box

/-! ## Runs -/

namespace Solver

/-- All that a user does with a solver leads to another one: generations, calls of `solve`, calls
that run no generation, where constraints that are set are of a certain kind, runs that are begun
again in the same box, and checkpoints of what was reached that are put back. -/
inductive Pursued {α : Type} [Scalar α] (allowed : Constraints α → Prop) (box : Option (Box α))
    (s : Solver α) : Solver α → Prop
  /-- nothing was done -/
  | start : Pursued allowed box s s
  /-- the last call was a step -/
  | stepped {t : Solver α} (o : Objective α) (calls : Nat) (before : Pursued allowed box s t) :
      Pursued allowed box s (t.step o calls).1.after
  /-- the last call solved with the solver -/
  | solved {t : Solver α} (asks : Event α → Bool) (o : Objective α) (calls : Nat)
      (budget : Option Nat) (before : Pursued allowed box s t) :
      Pursued allowed box s (t.solve asks o calls budget).1.after
  /-- the last call ran no generation -/
  | handled {t u : Solver α} (before : Pursued allowed box s t) (h : t.Handled allowed u) :
      Pursued allowed box s u
  /-- the last call made it ready, or that failed -/
  | prepared {t : Solver α} (size : Nat) (seed : Seed) (before : Pursued allowed box s t) :
      Pursued allowed box s (t.prepare box size seed).after
  /-- the last call put a checkpoint back -/
  | restored {t u : Solver α} (earlier : Pursued allowed box s t)
      (before : Pursued allowed box s u) : Pursued allowed box s (u.restore t.checkpoint).2

end Solver

namespace Evolution

variable {b : Box Float} {mask : List Bool} {s t : Evolution Float}

/-- A run in a box that rounds marked coordinates, and has whole numbers there. -/
structure Integral (b : Box Float) (mask : List Bool) (s : Evolution Float) : Prop where
  /-- the box -/
  box : s.box = some b
  /-- the rounding -/
  repair : s.constraints.repair = some (Repair.wholeMarked (mask.zip b.sides))
  /-- what was evaluated is rounded -/
  finishes : s.Finishes (Repair.Integral mask b)

namespace Integral

theorem step (h : s.Integral b mask) (o : Objective Float) (calls : Nat) :
    (s.step o calls).1.after.Integral b mask := by
  have same := same_of_settings (settings_step s o calls)
  exact ⟨same.2.1.trans h.box, (congrArg Constraints.repair same.2.2.2.2.1).trans h.repair,
    h.finishes.step o calls⟩

/-- Calls that run no generation change no point that was evaluated. -/
theorem handled (h : s.Integral b mask) {u : Solver Float}
    (hu : (Solver.evolution s).Handled
      (fun c => c.repair = some (Repair.wholeMarked (mask.zip b.sides))) u) :
    ∃ t, u = .evolution t ∧ t.Integral b mask := by
  obtain ⟨box, repair, finishes⟩ := h
  cases hu with
  | token x => exact ⟨_, rfl, box, repair, finishes.marks s.watch x s.state.status finishes.ended⟩
  | marked => exact ⟨_, rfl, box, repair, finishes.marks s.watch s.token .cancelled nofun⟩
  | populated hp =>
      obtain ⟨t, ht, rfl⟩ := exists_of_map_eq_ok hp
      have next := finishes.setInitialPopulation ht
      obtain ⟨_, _, _, rfl⟩ := setInitialPopulation_eq_ok ht
      exact ⟨_, rfl, box, repair, next⟩
  | guessed hx =>
      obtain ⟨t, ht, rfl⟩ := exists_of_map_eq_ok hx
      have next := finishes.setInitialGuess ht
      obtain ⟨_, _, rfl⟩ := setInitialGuess_eq_ok ht
      exact ⟨_, rfl, box, repair, next⟩
  | constraints c hc =>
      have finish (x : Point Float) :
          Evolution.finish { s with constraints := c } x = s.finish x := by
        simp only [Evolution.finish, Constraints.applyRepair, hc, repair, Evolution.clip]
      exact ⟨_, rfl, box, hc, finishes.withState finish finishes.begun finishes.ended
        finishes.points⟩
  | _ =>
      exact ⟨_, rfl, box, repair, finishes.withState (fun _ => rfl) finishes.begun finishes.ended
        finishes.points⟩

theorem prepare (h : s.Integral b mask) (size : Nat) (seed : Seed) :
    (s.prepare (some b) size seed).after.Integral b mask := by
  have next := h.finishes.prepare size seed
  rw [h.box] at next
  have same : (s.prepare (some b) size seed).after.constraints = s.constraints ∧
      (s.prepare (some b) size seed).after.box = some b := by
    unfold Evolution.prepare
    cases checkStart s.dim (some b) size with
    | error e => exact ⟨rfl, h.box⟩
    | ok u => exact ⟨rfl, rfl⟩
  exact ⟨same.2, (congrArg Constraints.repair same.1).trans h.repair, next⟩

/-- What one run has evaluated may be put into another one. -/
theorem restored (h : s.Integral b mask) (earlier : t.Integral b mask) :
    Integral b mask { s with
      state := t.state, generator := t.generator, evaluated := t.evaluated } :=
  ⟨h.box, h.repair, h.finishes.withState (fun _ => rfl) earlier.finishes.begun
    earlier.finishes.ended earlier.finishes.points⟩

theorem kept : Solver.Kept (fun _ => True) fun u => ∃ t, u = .evolution t ∧ t.Integral b mask where
  step := by
    rintro _ o calls _ ⟨t, rfl, h⟩
    exact ⟨_, rfl, h.step o calls⟩
  token := by
    rintro _ token ⟨t, rfl, h⟩
    exact h.handled (.token token)
  marked := by
    rintro _ ⟨t, rfl, h⟩
    exact h.handled .marked

/-- **Wherever a user's calls lead, what was evaluated is rounded.** -/
theorem pursued (h : s.Integral b mask) {u : Solver Float}
    (run : Solver.Pursued (fun c => c.repair = some (Repair.wholeMarked (mask.zip b.sides)))
      (some b) (.evolution s) u) : ∃ t, u = .evolution t ∧ t.Integral b mask := by
  induction run with
  | start => exact ⟨s, rfl, h⟩
  | stepped o calls _ ih => exact kept.step calls trivial ih
  | solved asks o calls budget _ ih => exact (kept.solveFrom trivial ih asks _ calls []).1
  | handled _ hu ih =>
      obtain ⟨t, rfl, ht⟩ := ih
      exact ht.handled hu
  | prepared size seed _ ih =>
      obtain ⟨t, rfl, ht⟩ := ih
      exact ⟨_, rfl, ht.prepare size seed⟩
  | restored _ _ ih ih' =>
      obtain ⟨t, rfl, ht⟩ := ih
      obtain ⟨t', rfl, ht'⟩ := ih'
      exact ⟨_, rfl, ht'.restored ht⟩

end Integral

end Evolution

/-! ## Runs that are built -/

/-- The members and the best point have whole numbers at the marked places. -/
def State.Integral (mask : List Bool) (b : Box Float) (s : State Float) : Prop :=
  (∀ x ∈ s.population.rows, Repair.Integral mask b x) ∧ Repair.Integral mask b s.bestSolution

namespace Config

variable {c : Config} {b : Box Float} {mask : List Bool} {timed : Bool} {entropy : Entropy}
variable {s : Evolution Float}

/-- **A solver that is built rounds marked coordinates, and clips into its box.** -/
theorem started_of_build (length : mask.length = b.dim) (hm : c.integrality = some mask)
    (h : (c.build b timed entropy).1 = .ok s) :
    s.box = some b ∧ s.constraints.repair = some (Repair.wholeMarked (mask.zip b.sides)) ∧
      s.evaluated = false ∧ s.state.generation = 0 ∧ s.state.isTerminated = false := by
  obtain ⟨t, _, installed, prepared, start⟩ := build_eq_ok h
  obtain ⟨generator, population, after⟩ := Evolution.prepare_ok prepared
  have repair : t.constraints.repair = some (Repair.wholeMarked (mask.zip b.sides)) := by
    have set := (install_eq_ok installed).2.2.2.2
    unfold constraints at set
    rw [hm] at set
    simp only [Repair.integrality_eq length] at set
    rw [← Except.ok.inj set]
    rfl
  rw [after] at start
  rcases start with rfl | ⟨x, guessed⟩
  · exact ⟨rfl, repair, rfl, rfl, rfl⟩
  · obtain ⟨_, _, rfl⟩ := Evolution.setInitialGuess_eq_ok guessed
    exact ⟨rfl, repair, rfl, rfl, rfl⟩

theorem finish_of_build (length : mask.length = b.dim) (hm : c.integrality = some mask)
    (h : (c.build b timed entropy).1 = .ok s) (x : Point Float) :
    s.finish x = b.clip (Repair.wholeMarked (mask.zip b.sides) x) := by
  obtain ⟨box, repair, -⟩ := started_of_build length hm h
  simp only [Evolution.finish, Evolution.clip, Constraints.applyRepair, box, repair]

theorem integral_of_build (finite : b.Finite) (integrable : Repair.Integrable mask b)
    (length : mask.length = b.dim) (hm : c.integrality = some mask)
    (h : (c.build b timed entropy).1 = .ok s) : s.Integral b mask := by
  obtain ⟨box, repair, fresh, start, going⟩ := started_of_build length hm h
  refine ⟨box, repair, fun x => ?_, nofun, fun pos => ?_, fun ended => ?_, fun evaluated => ?_⟩
  · rw [finish_of_build length hm h]
    exact Box.integral_finished finite integrable length x
  · omega
  · cases going.symm.trans ended
  · cases fresh.symm.trans evaluated

/-- **Runs over whole numbers.**  Let a box have finite ends, and a mask one mark for each of its
sides.  Then there is a repair for the mask.  It leaves the coordinates without a mark of a finite
point as they are; each of the others becomes a whole number of its interval that is as near as any,
or the last whole number below the upper end if the interval has none.  On every point the repair
does nothing the second time, and neither do repair and clip together, also where the two are at
odds because an interval has no whole number, or is fixed at none.

A solver that is built of a configuration with this mask finishes its points in this way.  If each
marked interval has a whole number, then wherever a user's calls lead, with other plug-ins and
penalties, runs begun again in the box, and checkpoints that are put back, after a step that
succeeds, and as soon as a generation is completed, all marked coordinates of the members and of
the best point are whole numbers of their intervals, or no numbers. -/
theorem whole_wherever_pursued (b : Box Float) (finite : b.Finite) (mask : List Bool)
    (length : mask.length = b.dim) :
    ∃ r : Repair Float, Repair.integrality mask b = .ok r ∧
      (∀ x : Point Float, x.length = b.dim → FinitePoint x →
        (r.apply x).length = b.dim ∧
        ∀ (i : ℕ) (marked : Bool) (side : Interval Float) (v : Float),
          mask[i]? = some marked → b.sides[i]? = some side → x[i]? = some v →
            ∃ w, (r.apply x)[i]? = some w ∧ (marked = false → w = v) ∧
              (marked = true → Repair.NearestWhole side v w)) ∧
      (∀ x, r.apply (r.apply x) = r.apply x) ∧
      (∀ x, b.clip (r.apply (b.clip (r.apply x))) = b.clip (r.apply x)) ∧
      ∀ (c : Config) (timed : Bool) (entropy : Entropy) (s : Evolution Float),
        c.integrality = some mask → (c.build b timed entropy).1 = .ok s →
          (∀ x, s.finish x = b.clip (r.apply x) ∧ s.finish (s.finish x) = s.finish x) ∧
          (Repair.Integrable mask b → ∀ t,
            Solver.Pursued (fun k => k.repair = some r.apply) (some b) (.evolution s) t →
              (∀ o calls ended, (t.step o calls).1.result = .ok ended →
                (t.step o calls).1.after.state.Integral mask b) ∧
              (0 < t.state.generation → t.state.Integral mask b)) := by
  refine ⟨.whole (mask.zip b.sides), Repair.integrality_eq length, fun x hx finiteX => ?_,
    fun x => ?_, fun x => ?_, fun c timed entropy s hm built => ⟨fun x => ?_, fun integrable t run => ?_⟩⟩
  · refine ⟨(Repair.length_wholeMarked _ x).trans hx, fun i marked side v hi hs hv => ?_⟩
    have place := getElem?_along (f := Repair.wholeAt) (Box.getElem?_marks hi hs) hv
    rw [← Repair.wholeMarked_eq_along] at place
    refine ⟨_, place, ?_, ?_⟩
    · rintro rfl
      exact Repair.wholeAt_false side v
    · rintro rfl
      rw [Repair.wholeAt_true]
      exact Repair.nearestWhole_wholeIn (finite side (List.mem_of_getElem? hs))
        (finiteX v (List.mem_of_getElem? hv))
  · exact Repair.wholeMarked_wholeMarked (fun p hp => finite.marked hp) x
  · exact Box.clip_wholeMarked_idem finite length x
  · have finish := finish_of_build length hm built
    refine ⟨finish x, ?_⟩
    rw [finish, finish]
    exact Box.clip_wholeMarked_idem finite length x
  · obtain ⟨u, rfl, kept⟩ := (integral_of_build finite integrable length hm built).pursued run
    refine ⟨fun o calls ended success => ?_, fun pos => ?_⟩
    · exact (kept.step o calls).finishes.points (kept.finishes.evaluated_of_step_ok success)
    · exact kept.finishes.points (kept.finishes.begun pos)

/-! ### Counting -/

/-- One or two, exactly three, and a part of one. -/
def countingBox : Box Float :=
  ⟨[⟨0.5, 2.5, by decide +kernel⟩, ⟨3, 3, by decide +kernel⟩, ⟨0, 0.75, by decide +kernel⟩]⟩

/-- All but the last coordinate are to be whole numbers. -/
def countingMask : List Bool := [true, true, false]

/-- Runs over such numbers. -/
def counting : Config :=
  { standard with populationSize := some 4, seed := some 1, integrality := some countingMask }

/-- The solver that is built. -/
def countingRun : Evolution Float :=
  (counting.build countingBox false).1.toOption.getD (.bare 3 false)

theorem build_counting : (counting.build countingBox false).1 = .ok countingRun := by
  obtain ⟨s, built⟩ := exists_ok_of_isOk (r := (counting.build countingBox false).1)
    (by decide +kernel)
  rw [countingRun, built]
  rfl

theorem countingBox_finite : countingBox.Finite := by
  have ends : ∀ s ∈ countingBox.sides,
      Double.isFinite s.lower = true ∧ Double.isFinite s.upper = true := by decide +kernel
  exact fun s hs => ⟨(ends s hs).1, (ends s hs).2⟩

theorem countingBox_integrable : Repair.Integrable countingMask countingBox := by
  intro i s marked side
  rcases i with _ | _ | _ | i
  · cases side
    exact ⟨1, by decide +kernel⟩
  · cases side
    exact ⟨3, by decide +kernel⟩
  · cases marked
  · cases marked

/-- The sum of the coordinates. -/
def total : Objective Float := .ofFunction fun x => x.foldl (· + ·) 0

/-- The run after a step, gone back to its start. -/
def countingAgain : Solver Float :=
  (((Solver.evolution countingRun).step total 0).1.after.restore
    (Solver.evolution countingRun).checkpoint).2

/-- The first number becomes the nearest one of its interval, and a run that went back to its start
steps on whole numbers. -/
theorem whole_wherever_pursued_counting :
    ∃ r, Repair.integrality countingMask countingBox = .ok r ∧
      (∃ w, (r.apply [7, 0, 0.5])[0]? = some w ∧
        Repair.NearestWhole ⟨0.5, 2.5, by decide +kernel⟩ 7 w) ∧
      r.apply (r.apply [7, 0, 0.5]) = r.apply [7, 0, 0.5] ∧
      countingRun.finish (countingRun.finish [7, 0, 0.5]) = countingRun.finish [7, 0, 0.5] ∧
      (countingAgain.step total 0).1.after.state.Integral countingMask countingBox := by
  obtain ⟨r, made, places, again, -, runs⟩ :=
    whole_wherever_pursued countingBox countingBox_finite countingMask rfl
  obtain ⟨finishes, whole⟩ := runs counting false .frozen countingRun rfl build_counting
  obtain ⟨ended, success⟩ := exists_ok_of_isOk
    (r := (countingAgain.step total 0).1.result) (by decide +kernel)
  have finite : FinitePoint [7, 0, 0.5] := by
    unfold FinitePoint
    decide +kernel
  obtain ⟨-, place⟩ := places [7, 0, 0.5] rfl finite
  obtain ⟨w, hw, -, nearest⟩ := place 0 true _ 7 rfl rfl rfl
  exact ⟨r, made, ⟨w, hw, nearest rfl⟩, again _, (finishes _).2,
    (whole countingBox_integrable countingAgain (.restored .start (.stepped total 0 .start))).1
      total 0 ended success⟩

end Config
end BoxSearch

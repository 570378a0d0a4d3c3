import BoxSearch.Proofs.Compass.Growth
import BoxSearch.Proofs.Compass.Halvings
import BoxSearch.Proofs.Evolution.Selection
import BoxSearch.Proofs.Solver.Steady

/-!
# The point at which a compass search ends

A compass search that ends because its mesh is fine enough has just halved the step lengths, since
otherwise it would have ended before.  So its last generation found nothing, and the best point is
a local optimum of the mesh on which that generation looked: none of the probes of this mesh has a
lower energy.

That the mesh was the reason is read off the status, where only its text stands.  The texts of the
criteria and of the hard caps begin with other letters.

* `Watch.not_opens_reason`, `Limits.opens_reason?` — how these texts begin;
* `Compass.converged_of_terminated` — so a run that ends with the reason of the mesh has converged;
* `Compass.stalled_of_converged` — a generation that makes the mesh fine enough finds nothing, and
  `Compass.optimal_of_stalled` — one that finds nothing leaves an optimum of its mesh;
* `Compass.optimal_of_terminated` — so does a run that ends with the reason of the mesh.
-/

namespace BoxSearch

/-! ## Who ended the run -/

/-- A text begins with a letter. -/
def Opens (c : Char) (text : String) : Prop := text.toList.head? = some c

instance (c : Char) (text : String) : Decidable (Opens c text) :=
  inferInstanceAs (Decidable (_ = _))

section

variable {c : Char} {a b : String}

theorem Opens.append (h : Opens c a) (b : String) : Opens c (a ++ b) := by
  unfold Opens at *
  rw [String.toList_append, List.head?_append, h, Option.some_or]

theorem Opens.unique {d : Char} (h : Opens c a) (h' : Opens d a) : c = d :=
  Option.some.inj (h.symm.trans h')

/-- A text in which several are joined begins as the first one does. -/
theorem not_opens_intercalate {texts : List String} (h : ∀ text ∈ texts, ¬ Opens c text)
    (foreign : c ≠ ' ') : ¬ Opens c (" and ".intercalate texts) := by
  unfold Opens
  rw [String.toList_intercalate]
  cases texts with
  | nil => simp
  | cons text texts =>
      have first : ¬ text.toList.head? = some c := h text List.mem_cons_self
      cases texts with
      | nil => simpa using first
      | cons next texts =>
          rw [List.map_cons, List.map_cons, List.intercalate_cons_cons, List.append_assoc,
            List.head?_append]
          cases ht : text.toList.head? with
          | some d => simpa [ht] using first
          | none =>
              intro begins
              exact foreign (Option.some.inj begins).symm

end

/-- The reasons of tests begin with other letters than that of a mesh. -/
theorem Test.opens_reason (t : Test) : ∃ c, c ≠ 'S' ∧ Opens c t.reason := by
  cases t with
  | maxGenerations n => exact ⟨'M', by decide, Opens.append (by decide) _⟩
  | maxEvaluations n => exact ⟨'M', by decide, Opens.append (by decide) _⟩
  | valueToReach target => exact ⟨'V', by decide, (Opens.append (by decide) _).append _⟩
  | change tolerance n => exact ⟨'B', by decide, (Opens.append (by decide) _).append _⟩
  | relativeChange tolerance n => exact ⟨'B', by decide, (Opens.append (by decide) _).append _⟩
  | collapse xtol ftol =>
      exact ⟨'P', by decide, (((Opens.append (by decide) _).append _).append _).append _⟩
  | energyDeviation tol atol =>
      exact ⟨'C', by decide, (((Opens.append (by decide) _).append _).append _).append _⟩
  | stagnation n => exact ⟨'N', by decide, (Opens.append (by decide) _).append _⟩
  | never => exact ⟨'n', by decide, by decide⟩

namespace Watch

mutual

theorem not_opens_reason : ∀ w : Watch, ¬ Opens 'S' w.reason
  | .test t _ => by
      obtain ⟨c, other, begins⟩ := t.opens_reason
      exact fun h => other (begins.unique h)
  | .any members (some i) => not_opens_reasonAt i members
  | .any members none => (by decide : ¬ Opens 'S' "none of the criteria fired")
  | .all members => by
      apply not_opens_intercalate (not_opens_reasons members)
      decide

theorem not_opens_reasonAt : ∀ (i : Nat) (ws : List Watch), ¬ Opens 'S' (reasonAt i ws)
  | _, [] => (by decide : ¬ Opens 'S' "none of the criteria fired")
  | 0, w :: _ => not_opens_reason w
  | i + 1, _ :: ws => not_opens_reasonAt i ws

theorem not_opens_reasons : ∀ ws : List Watch, ∀ text ∈ reasons ws, ¬ Opens 'S' text
  | [], _, h => nomatch h
  | w :: ws, text, h => by
      rcases List.mem_cons.1 h with rfl | h
      · exact not_opens_reason w
      · exact not_opens_reasons ws text h

end

end Watch

/-- No criterion speaks for the mesh when it is asked about a state. -/
theorem not_opens_of_askWatch {α : Type} [Scalar α] {state : State α} {watch after : Option Watch}
    {reason : String} (h : askWatch state watch = .ok (some reason, after)) :
    ¬ Opens 'S' reason := by
  unfold askWatch at h
  split at h
  · cases h
  split at h
  · cases h
  next stop w _ =>
    cases stop with
    | false => cases h
    | true =>
        cases h
        exact w.not_opens_reason

/-- The reasons of hard caps begin with another letter, too. -/
theorem Limits.opens_reason? {α : Type} {l : Limits} {s : State α} {r : String}
    (h : l.reason? s = some r) : Opens 'M' r := by
  have capped (what : String) (n : Nat) : Opens 'M' s!"Maximum {what} reached: {n}" :=
    ((Opens.append (by decide) what).append _).append _
  unfold reason? at h
  dsimp only at h
  rcases Option.or_eq_some_iff.1 h with h | ⟨_, h⟩
  all_goals
    split at h
    · split at h
      · cases h
        exact capped _ _
      · cases h
    · cases h

/-- Every point of a batch has a penalised value among its energies. -/
theorem Batch.exists_energy {α : Type} {c : Constraints α} {f : Point α → Float}
    {xs : List (Point α)} {es : List Float} (h : energies c f xs = some es) {x : Point α}
    (hx : x ∈ xs) : ∃ e ∈ es, c.applyPenalty x (f x) = .ok e := by
  have values := of_energies_eq_some h
  clear h
  induction values with
  | nil => cases hx
  | cons value _ ih =>
      rcases List.mem_cons.1 hx with rfl | hx
      · exact ⟨_, List.mem_cons_self, value⟩
      · obtain ⟨e, he, value⟩ := ih hx
        exact ⟨e, List.mem_cons_of_mem _ he, value⟩

namespace Compass

variable {α : Type} [Scalar α] {s t : Compass α} {o : Objective α} {f : Point α → Float}
variable {calls : Nat} {b : Bool}

theorem Alongside.convergedReason (h : Alongside s t) : t.convergedReason = s.convergedReason := by
  unfold Compass.convergedReason
  rw [h.tolerance]

theorem opens_convergedReason (s : Compass α) : Opens 'S' s.convergedReason :=
  Opens.append (by decide) _

/-- **A run ends with the reason of the mesh only if the mesh is fine enough.** -/
theorem converged_of_terminated (h : s.checkStop.result = .ok b)
    (going : s.state.isTerminated = false)
    (ended : s.checkStop.after.state.status = .terminated s.convergedReason) :
    s.converged = true := by
  obtain ⟨reason, watch, asked, _, after⟩ := checkStop_ok h
  rw [after, concluded] at ended
  split at ended
  · next r hr =>
    obtain rfl : r = s.convergedReason := Status.terminated.inj ended
    rcases Option.or_eq_some_iff.1 hr with rfl | ⟨_, own⟩
    · exact absurd s.opens_convergedReason (not_opens_of_askWatch asked)
    · by_contra wide
      have capped : s.limits.reason? s.state = some s.convergedReason := by
        simpa [ownReason?, show ({ s with watch } : Compass α).converged = false from
          Bool.eq_false_iff.2 wide] using own
      cases (Limits.opens_reason? capped).unique s.opens_convergedReason
  · have still : s.state.status = .terminated s.convergedReason := ended
    rw [State.isTerminated, still] at going
    cases going

/-! ## The last generation -/

/-- None of the probes from the best point on a mesh has a lower energy. -/
def Optimal (s : Compass α) (f : Point α → Float) (mesh : List α) : Prop :=
  ∀ j ∈ s.freeCoordinates, ∃ v h, s.state.bestSolution[j]? = some v ∧ mesh[j]? = some h ∧
    ∀ sign : α, sign = Scalar.ofNat 1 ∨ sign = -Scalar.ofNat 1 →
      ∃ e, s.constraints.applyPenalty (s.finish (s.state.bestSolution.set j (v + sign * h)))
          (f (s.finish (s.state.bestSolution.set j (v + sign * h)))) = .ok e ∧
        ¬ e < s.state.bestEnergy

/-- **A generation that makes the mesh fine enough found nothing**, since one that improves leaves
the mesh as it is. -/
theorem stalled_of_converged {points : List (Point α)} {es : List Float}
    (wide : s.converged = false) (fine : (s.move points es).converged = true) :
    ¬ (Energy.argmin es).2 < s.state.bestEnergy := by
  intro improves
  have same : (s.move points es).steps = s.steps := by
    simp only [Compass.move, if_pos improves]
  have here : Alongside s s := ⟨rfl, rfl, rfl⟩
  rw [(here.move points es).converged same, wide] at fine
  cases fine

/-- **A generation that finds nothing** leaves an optimum of its mesh, and halves the mesh. -/
theorem optimal_of_stalled {points : List (Point α)} {es : List Float}
    (probed : s.probes = .ok points) (valued : Batch.energies s.constraints f points = some es)
    (stalled : ¬ (Energy.argmin es).2 < s.state.bestEnergy) :
    (s.move points es).Optimal f s.steps ∧
      (s.move points es).steps = s.steps.map (· * Scalar.half) ∧
      (s.move points es).state.bestSolution = s.state.bestSolution ∧
      (s.move points es).state.bestEnergy = s.state.bestEnergy := by
  have none_below : ∀ e ∈ es, ¬ e < s.state.bestEnergy := by
    intro e he below
    have lowest := (Energy.isLowest_argmin es).below e he (Double.lt_iff.1 below).1
    exact stalled (Double.lt_of_le_of_lt lowest below)
  unfold Compass.move
  simp only [if_neg stalled, and_true]
  intro j hj
  obtain ⟨v, h, hv, hh, probes⟩ := (of_probes_eq_ok probed).2 j hj
  refine ⟨v, h, hv, hh, ?_⟩
  intro sign hsign
  obtain ⟨e, he, penalised⟩ := Batch.exists_energy valued (probes sign hsign)
  exact ⟨e, penalised, none_below e he⟩

/-- The question whether the run ends does not matter for that. -/
theorem Optimal.asked {mesh : List α} (h : s.Optimal f mesh)
    (asked : s.checkStop.result = .ok b) : s.checkStop.after.Optimal f mesh := by
  obtain ⟨reason, watch, _, _, after⟩ := checkStop_ok asked
  rw [after, concluded]
  split <;> exact h

theorem steps_evaluateStart (h : (s.evaluateStart o calls).1.result = .ok ()) :
    (s.evaluateStart o calls).1.after.steps = s.steps := by
  rcases evaluateStart_ok h with ⟨_, same⟩ | ⟨_, _, _, _, _, _, same⟩
  · rw [same]
  · rw [same]
    rfl

/-- A mesh that is too wide at the start of a run is so when its last generation begins. -/
theorem Meshed.wide_at_start {start : Compass α} {rs : List (Reply (Solver α) α Bool)}
    (h : Meshed start rs s) (unended : ∀ r ∈ rs, r.result ≠ .ok true)
    (wide : start.converged = false) (hf : (s.evaluateStart o calls).1.result = .ok ()) :
    (s.evaluateStart o calls).1.after.converged = false := by
  rcases evaluateStart_recorded hf with ⟨hs, same⟩ | ⟨hs, x, e, after, _⟩
  · rw [same]
    exact h.wide unended hs
  · have steps := (h.fresh hs).1
    rw [after]
    exact (h.alongside.converged steps).trans wide

/-- **A search that ends with the reason of the mesh ends at a local optimum.**  Make a search
ready on a mesh that is not fine enough from the start, and run generations, which may succeed or
fail, with changes of settings between them.  Let a generation on an objective that agrees with a
function be the first one to end the run, with the reason of the mesh.  Then the best pair is the
one that this generation found, no probe from the best point with the step lengths that it found
has a penalised energy below the best one, and these are twice the ones that it leaves wherever
halving is exact. -/
theorem optimal_of_terminated {allowed : Constraints α → Prop}
    {rs : List (Reply (Solver α) α Bool)} {box : Option (Box α)} {size : Nat}
    {seed : Seed} (prepared : (s.prepare box size seed).result = .ok ())
    (wide : ∃ j ∈ (s.prepare box size seed).after.freeCoordinates,
      ¬ (s.prepare box size seed).after.steps.getD j Scalar.zero < s.tolerance)
    (run : Solver.Ran allowed (.compass (s.prepare box size seed).after) rs (.compass t))
    (first : ∀ r ∈ rs, r.result ≠ .ok true) (going : t.state.isTerminated = false)
    (faithful : t.map.Faithful) (agrees : o.AgreesWith f)
    (success : (t.step o calls).1.result = .ok b)
    (ended : (t.step o calls).1.after.state.status =
      .terminated (t.step o calls).1.after.convergedReason) :
    ∃ u, (t.step o calls).1.after = u ∧ u.state.generation = t.state.generation + 1 ∧
      (u.state.bestSolution = (t.evaluateStart o calls).1.after.state.bestSolution ∧
        u.state.bestEnergy = (t.evaluateStart o calls).1.after.state.bestEnergy) ∧
      u.Optimal f t.steps ∧ u.steps = t.steps.map (· * Scalar.half) ∧
      ((∀ x : α, x * Scalar.half * Scalar.ofNat 2 = x) →
        t.steps = u.steps.map (· * Scalar.ofNat 2)) := by
  obtain ⟨meshed, _, tolerance⟩ := Meshed.prepared prepared
  obtain ⟨t', ht', meshed⟩ := Meshed.of_ran (kept_prepare prepared) meshed run
  cases ht'
  rcases step_completed success with ⟨terminated, _⟩ |
    ⟨_, hf, s', points, es, n, rfl, probed, valued, asked, after, _⟩
  · cases going.symm.trans terminated
  · have wide_start : (s.prepare box size seed).after.converged = false := by
      obtain ⟨j, hj, long⟩ := wide
      rw [converged, tolerance, List.all_eq_false]
      exact ⟨j, hj, by simpa using long⟩
    have wide_before : (t.evaluateStart o calls).1.after.running.converged = false :=
      meshed.wide_at_start first wide_start hf
    obtain ⟨steps, frame, ⟨status, state⟩, _⟩ := checkStop_asked asked
    have fine : ((t.evaluateStart o calls).1.after.running.move points es).converged = true := by
      apply converged_of_terminated asked
      · rw [State.isTerminated, (move_frame points es).2]
        rfl
      · rw [after] at ended
        rw [ended, frame.convergedReason]
    have stalled := stalled_of_converged wide_before fine
    have energies : Batch.energies (t.evaluateStart o calls).1.after.running.constraints f points =
        some es := by
      refine Batch.evaluate_of_faithful ?_ agrees valued
      show (t.evaluateStart o calls).1.after.map.Faithful
      rw [map_of_evaluateStart]
      exact faithful
    obtain ⟨optimal, halved, point, energy⟩ := optimal_of_stalled probed energies stalled
    have unmoved : (t.evaluateStart o calls).1.after.running.steps = t.steps :=
      steps_evaluateStart hf
    rw [unmoved] at optimal halved
    have shorter : (t.step o calls).1.after.steps = t.steps.map (· * Scalar.half) := by
      rw [after, steps, halved]
    refine ⟨_, rfl, ?_, ⟨?_, ?_⟩, ?_, shorter, fun doubling => ?_⟩
    · exact (step_going going success).1
    · rw [after, state]
      exact point
    · rw [after, state]
      exact energy
    · rw [after]
      exact optimal.asked asked
    · rw [shorter, List.map_map]
      exact (List.map_id'' doubling _).symm

/-! ### At the foot of the stairs -/

/-- The height at which a point of the stairs lies. -/
def stairHeight (x : Point Rat) : Float :=
  if x.headD 0 < -1 / 2 then 1 else if x.headD 0 < 1 / 2 then 2 else 3

theorem stairs_agreesWith : stairs.AgreesWith stairHeight := by
  intro n x v h
  simp only [stairs] at h
  split at h
  · cases h
  · cases h
    rfl

/-- The generations down the stairs as those of a compass search. -/
def footstep : Nat → Reply (Compass Rat) Rat Bool × Nat
  | 0 => (coarse.prepare (some slab) 1 (.number 2)).after.step stairs 0
  | n + 1 => (footstep n).1.after.step stairs (footstep n).2

theorem attempt_eq_footstep (n : Nat) :
    (Solver.compass (coarse.prepare (some slab) 1 (.number 2)).after).attempt stairs n =
      ((footstep n).1.lift Solver.compass, (footstep n).2) := by
  induction n with
  | zero => rfl
  | succ n ih =>
      rw [Solver.attempt, ih]
      rfl

theorem descent_eq_footstep (n : Nat) : descent n = (footstep n).1.lift Solver.compass := by
  rw [descent, attempt_eq_footstep]

theorem map_footstep (n : Nat) : (footstep n).1.after.map = .serial := by
  induction n with
  | zero => exact map_step _ stairs 0
  | succ n ih => exact (map_step _ stairs _).trans ih

/-- The run down the stairs ends at their foot with the reason of the mesh: the probes of its last
generation, a half to either side, are not below the best point. -/
theorem optimal_of_terminated_descent :
    ∃ u, (descent 2).after = .compass u ∧ u.state.bestEnergy = 1 ∧ u.freeCoordinates = [0] ∧
      u.Optimal stairHeight (footstep 1).1.after.steps ∧
      (footstep 1).1.after.steps = u.steps.map (· * 2) := by
  obtain ⟨failed, improved, ended⟩ := descent_results
  obtain ⟨_, prepared⟩ := exists_ok_of_isOk (r := (coarse.prepare (some slab) 1 (.number 2)).result)
    (by decide +kernel)
  have run : Solver.Ran (fun _ => True) (.compass (coarse.prepare (some slab) 1 (.number 2)).after)
      [descent 0, descent 1] (.compass (footstep 1).1.after) := by
    have last : (descent 1).after = .compass (footstep 1).1.after := by
      rw [descent_eq_footstep]
      rfl
    rw [← last]
    apply Solver.Ran.attempts _ stairs 1
    intro i hi c
    match i, hi with
    | 0, _ => exact ne_fault_of_test failed c
    | 1, _ => exact fun h => by cases improved.symm.trans h
  have first : ∀ r ∈ [descent 0, descent 1], r.result ≠ .ok true := by
    intro r hr
    rcases List.mem_pair.1 hr with rfl | rfl
    · exact ne_ok_of_test failed true
    · rw [improved]
      exact nofun
  have success : (footstep 2).1.result = .ok true := by
    rw [descent_eq_footstep] at ended
    exact ended
  have faithful : (footstep 1).1.after.map.Faithful := by
    rw [map_footstep]
    exact EvaluationMap.serial_orderly.faithful
  obtain ⟨u, hu, _, _, optimal, _, doubled⟩ := optimal_of_terminated prepared
    ⟨0, by decide +kernel, by decide +kernel⟩ run first (by decide +kernel) faithful
    stairs_agreesWith success (by decide +kernel)
  have shown : (footstep 2).1.after.state.bestEnergy = 1 ∧
      (footstep 2).1.after.freeCoordinates = [0] := by decide +kernel
  rw [show (footstep 2).1.after = u from hu] at shown
  refine ⟨u, ?_, shown.1, shown.2, optimal, ?_⟩
  · rw [descent_eq_footstep, ← hu]
    rfl
  · refine doubled fun x => ?_
    rw [half_eq]
    show x * (1 / 2) * ((2 : ℕ) : Rat) = x
    push_cast
    ring

end Compass

end BoxSearch

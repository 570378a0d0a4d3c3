import BoxSearch.Proofs.Solver.Growth

/-!
# Trying a generation again

A step that failed may be tried again, when the objective and the map may have
recovered, and the caller may have to try many times.  This file compares such a run
with the one in which nothing ever fails.

The comparison is a simulation between runs of different length.  A failed attempt of
the one run is no step of the other, but it need not leave the solver as it was: the
generation may have been begun, and in a run that is taken back from outside the
criterion may have seen it.  `Standing` names these traces.

* `Standing.step_error` — a further failure adds nothing to them;
* `Standing.step_ok` — a success wipes them out: result and solver are those of a
  step from the untouched solver on the function itself;
* `Standing.rolledBack_step` — a checkpoint wipes them out, but for the criterion;
* `retried_eq_faultless` — the run with failures and the run without them agree after
  every success.
-/

namespace BoxSearch
namespace Solver

variable {α : Type} [Scalar α]
variable {s t u a : Solver α} {o : Objective α} {f : Point α → Float}
variable {m m₀ : EvaluationMap α} {w w₀ w' : Option Watch}
variable {calls : Nat} {b : Bool} {e : SolverError}

/-! ## What failures leave behind -/

/-- The criterion of a solver is as it was, or it was asked about the next generation
already. -/
def Met (f : Point α → Float) (s : Solver α) (w₀ w : Option Watch) : Prop :=
  w = w₀ ∨ s.state.isTerminated = false ∧
    ∃ u reason, s.grownOn f = some u ∧ askWatch u.state w₀ = .ok (reason, w)

/-- What a solver with its criterion may have become by failures: its generation may
have been begun, and the criterion may have met it. -/
inductive Standing (f : Point α → Float) (s : Solver α) (w₀ : Option Watch)
    (m : EvaluationMap α) : Solver α → Prop
  /-- nothing of the generation is there -/
  | level {w : Option Watch} (met : Met f s w₀ w) : Standing f s w₀ m (s.withPlugs m w)
  /-- the points of the generation were due -/
  | begun {t : Solver α} {w : Option Watch} (going : s.state.isTerminated = false)
      (ht : s.begunOn f = some t) (met : Met f s w₀ w) : Standing f s w₀ m (t.withPlugs m w)

theorem Met.refl : Met f s w w := Or.inl rfl

theorem Met.isSome (h : Met f s w₀ w) : w.isSome = w₀.isSome := by
  rcases h with rfl | ⟨_, u, reason, _, hask⟩
  · rfl
  · exact isSome_of_askWatch hask

theorem Met.eq_of_ended (h : Met f s w₀ w) (ended : s.state.isTerminated = true) : w = w₀ := by
  rcases h with rfl | ⟨going, _⟩
  · rfl
  · rw [ended] at going
    cases going

/-- A criterion that met the generation before has the answer of one that did not. -/
theorem Met.ask (h : Met f s w₀ w) (hu : s.grownOn f = some u) {reason : Option String}
    (hask : askWatch u.state w = .ok (reason, w')) : askWatch u.state w₀ = .ok (reason, w') := by
  rcases h with rfl | ⟨_, v, reason', hv, hask'⟩
  · exact hask
  · rw [hu] at hv
    cases hv
    rw [askWatch_askWatch hask'] at hask
    cases hask
    exact hask'

theorem Equipped.of_isSome (h : s.Equipped w) (hw : w.isSome = w₀.isSome) : s.Equipped w₀ := by
  cases s with
  | evolution s => exact ⟨h.1, hw ▸ h.2⟩
  | compass s => exact h
  | ensemble f build ms => cases h

namespace Standing

/-- Another map may be installed at any time. -/
theorem setMap {m' : EvaluationMap α} (lone : s.Lone) (h : Standing f s w₀ m a) :
    Standing f s w₀ m' (a.setMap m').1 := by
  cases h with
  | level met =>
      rw [setMap_withPlugs lone]
      exact .level met
  | begun going ht met =>
      rw [setMap_withPlugs (lone_of_begunOn ht)]
      exact .begun going ht met

/-- **One more failure leaves nothing new behind.** -/
theorem step_error (h : Standing f s w₀ m a) (lone : s.Lone) (faithful : m.Faithful)
    (agrees : o.AgreesWith f) (failed : (a.step o calls).1.result = .error e)
    (returned : e.fault? = none) : Standing f s w₀ m (a.step o calls).1.after := by
  cases h with
  | level met =>
      rcases step_withPlugs_error lone faithful agrees failed returned with
        ha | ⟨going, t, ht, ha⟩
      · rw [ha]
        exact .level met
      · rw [ha]
        exact .begun going ht met
  | begun going ht met =>
      rcases step_withPlugs_error (lone_of_begunOn ht) faithful agrees failed returned with
        ha | ⟨_, t', ht', ha⟩
      · rw [ha]
        exact .begun going ht met
      · -- what was begun cannot be begun anew, so the failure came to the same place
        rw [begunOn_of_begunOn ht] at ht'
        cases ht'
        rw [ha]
        exact .begun going ht met

/-- The generation that a success has made, if the run had not ended. -/
theorem grown_of_step_ok (h : Standing f s w₀ m a) (lone : s.Lone) (faithful : m.Faithful)
    (agrees : o.AgreesWith f) (going : s.state.isTerminated = false)
    (success : (a.step o calls).1.result = .ok b) :
    s.Equipped w₀ ∧ ∃ u reason w', s.grownOn f = some u ∧
      askWatch u.state w₀ = .ok (reason, w') ∧ b = (reason.or u.ownReason?).isSome ∧
      (a.step o calls).1.after = (u.concluded reason).withPlugs m w' := by
  cases h with
  | level met =>
      have equipped := (equipped_of_step_ok lone success).of_isSome met.isSome
      obtain ⟨u, reason, w', hu, hask, hb, ha⟩ :=
        step_withPlugs_ok lone faithful agrees going success
      exact ⟨equipped, u, reason, w', hu, met.ask hu hask, hb, ha⟩
  | begun _ ht met =>
      have lone' := lone_of_begunOn ht
      have equipped := equipped_of_begunOn ht (equipped_of_step_ok lone' success)
      obtain ⟨u, reason, w', hu, hask, hb, ha⟩ :=
        step_withPlugs_ok lone' faithful agrees (going_of_begunOn ht) success
      rw [grownOn_of_begunOn ht] at hu
      exact ⟨equipped.of_isSome met.isSome, u, reason, w', hu, met.ask hu hask, hb, ha⟩

/-- A run that has ended was not touched. -/
theorem eq_of_ended (h : Standing f s w₀ m a) (ended : s.state.isTerminated = true) :
    a = s.withPlugs m w₀ := by
  cases h with
  | level met => rw [met.eq_of_ended ended]
  | begun going ht met =>
      rw [ended] at going
      cases going

/-- **A success wipes out what the failures before it left behind.**  Its result is
that of a step from the untouched solver on the function itself, and the solvers after
the two steps differ in their maps only. -/
theorem step_ok (h : Standing f s w₀ m a) (lone : s.Lone) (faithful : m.Faithful)
    (agrees : o.AgreesWith f) (dependable : m₀.Dependable)
    (success : (a.step o calls).1.result = .ok b) (calls₀ : Nat) :
    ∃ (u : Solver α) (w' : Option Watch), u.Lone ∧ (a.step o calls).1.after = u.withPlugs m w' ∧
      ((s.withPlugs m₀ w₀).step (.ofFunction f) calls₀).1.result = .ok b ∧
      ((s.withPlugs m₀ w₀).step (.ofFunction f) calls₀).1.after = u.withPlugs m₀ w' := by
  cases going : s.state.isTerminated with
  | true =>
      have ha := h.eq_of_ended going
      subst ha
      have equipped := equipped_of_step_ok lone success
      have ended : (s.withPlugs m w₀).state.isTerminated = true := by rw [state_withPlugs, going]
      obtain ⟨rfl, ha⟩ := step_ok_of_ended (lone_withPlugs lone) ended success
      obtain ⟨hr, ha₀⟩ := step_withPlugs_of_ended (m := m₀) (f := f) calls₀ equipped going
      exact ⟨s, w₀, lone, ha, hr, ha₀⟩
  | false =>
      obtain ⟨equipped, u, reason, w', hu, hask, rfl, ha⟩ :=
        h.grown_of_step_ok lone faithful agrees going success
      obtain ⟨hr, ha₀⟩ := step_withPlugs_of_grownOn calls₀ dependable equipped going hu hask
      exact ⟨u.concluded reason, w', lone_concluded (lone_of_grownOn hu), ha, hr, ha₀⟩

/-- What failures leave behind is taken back by a checkpoint, but for the criterion. -/
theorem rolledBack (h : Standing f s w₀ m a) (lone : s.Lone) :
    ∃ w, Met f s w₀ w ∧ a.rolledBack s = s.withPlugs m w := by
  cases h with
  | level met => exact ⟨_, met, by rw [rolledBack_withPlugs, rolledBack_self lone]⟩
  | begun going ht met => exact ⟨_, met, by rw [rolledBack_withPlugs, rolledBack_of_begunOn ht]⟩

/-- **A checkpoint wipes out everything but the criterion's memory**, whatever became
of the step after it. -/
theorem rolledBack_step (h : Standing f s w₀ m a) (lone : s.Lone) (faithful : m.Faithful)
    (agrees : o.AgreesWith f)
    (returned : ∀ e, (a.step o calls).1.result = .error e → e.fault? = none) :
    ∃ w, Met f s w₀ w ∧ (a.step o calls).1.after.rolledBack s = s.withPlugs m w := by
  cases hr : (a.step o calls).1.result with
  | error e => exact (h.step_error lone faithful agrees hr (returned e hr)).rolledBack lone
  | ok b =>
      cases going : s.state.isTerminated with
      | true =>
          have ha := h.eq_of_ended going
          have ended : a.state.isTerminated = true := by rw [ha, state_withPlugs, going]
          have lone' : a.Lone := ha ▸ lone_withPlugs lone
          rw [(step_ok_of_ended lone' ended hr).2]
          exact h.rolledBack lone
      | false =>
          obtain ⟨_, u, reason, w', hu, hask, _, ha⟩ :=
            h.grown_of_step_ok lone faithful agrees going hr
          refine ⟨w', Or.inr ⟨going, u, reason, hu, hask⟩, ?_⟩
          rw [ha, rolledBack_withPlugs, rolledBack_of_grownOn reason hu]

end Standing

/-! ## Runs with failures and without -/

/-- One try of a generation: the map is installed, and the objective is evaluated
through it, the evaluations made before being counted. -/
structure Attempt (α : Type) where
  /-- what dispatches the work -/
  map : EvaluationMap α
  /-- what is evaluated -/
  objective : Objective α
  /-- the evaluations made before -/
  calls : Nat

/-- What an attempt comes to. -/
def Attempt.reply (x : Attempt α) (s : Solver α) : Reply (Solver α) α Bool :=
  ((s.setMap x.map).1.step x.objective x.calls).1

/-- The solver after attempts one after the other, each of a certain kind; the list
holds the results of those that succeeded. -/
inductive Retried (kind : Attempt α → Prop) (s : Solver α) : List Bool → Solver α → Prop
  /-- nothing was tried -/
  | start : Retried kind s [] s
  /-- the last attempt failed -/
  | failed {bs : List Bool} {t : Solver α} {e : SolverError} (x : Attempt α)
      (before : Retried kind s bs t) (hx : kind x) (failed : (x.reply t).result = .error e)
      (returned : e.fault? = none) : Retried kind s bs (x.reply t).after
  /-- the last attempt succeeded -/
  | succeeded {bs : List Bool} {t : Solver α} {b : Bool} (x : Attempt α)
      (before : Retried kind s bs t) (hx : kind x) (success : (x.reply t).result = .ok b) :
      Retried kind s (bs ++ [b]) (x.reply t).after

/-- The run of a number of generations, none of which fails: the results, the solver
afterwards and the evaluations made. -/
def generations (o : Objective α) (s : Solver α) : Nat → Option (List Bool × Solver α × Nat)
  | 0 => some ([], s, 0)
  | n + 1 => (generations o s n).bind fun (bs, t, calls) =>
    match t.step o calls with
    | (⟨.ok b, u, _⟩, calls) => some (bs ++ [b], u, calls)
    | (⟨.error _, _, _⟩, _) => none

theorem generations_succ {n : Nat} {bs : List Bool}
    (h : generations o s n = some (bs, t, calls)) (success : (t.step o calls).1.result = .ok b) :
    generations o s (n + 1) =
      some (bs ++ [b], (t.step o calls).1.after, (t.step o calls).2) := by
  rw [generations, h, Option.bind_some]
  rcases hx : t.step o calls with ⟨⟨r, v, events⟩, k⟩
  rw [hx] at success
  cases success
  simp only [hx]

/-- An attempt through a map that does not mix up its answers, on an objective that has
the values of a function wherever it has any. -/
def Attempt.Honest (f : Point α → Float) (x : Attempt α) : Prop :=
  x.map.Faithful ∧ x.objective.AgreesWith f

/-- **The simulation.**  At any time a run with failures stands where the run without
them has come to by as many generations as there were successes. -/
theorem standing_of_retried {bs : List Bool} (lone : s.Lone) (dependable : m₀.Dependable)
    (h : Retried (Attempt.Honest f) s bs t) :
    ∃ (v : Solver α) (w : Option Watch) (calls : Nat), v.Lone ∧
      (∀ m, Standing f v w m (t.setMap m).1) ∧
      generations (.ofFunction f) (s.setMap m₀).1 bs.length =
        some (bs, v.withPlugs m₀ w, calls) := by
  induction h with
  | start =>
      refine ⟨s, s.watch, 0, lone, ?_, ?_⟩
      · intro m
        rw [setMap_eq_withPlugs lone]
        exact .level .refl
      · rw [List.length_nil, generations, setMap_eq_withPlugs lone]
  | failed x _ hx failed returned ih =>
      obtain ⟨v, w, calls, hv, standing, hg⟩ := ih
      refine ⟨v, w, calls, hv, ?_, hg⟩
      intro m
      exact ((standing x.map).step_error hv hx.1 hx.2 failed returned).setMap hv
  | succeeded x _ hx success ih =>
      obtain ⟨v, w, calls, hv, standing, hg⟩ := ih
      obtain ⟨u, w', hu, ha, hr, ha₀⟩ :=
        (standing x.map).step_ok hv hx.1 hx.2 dependable success calls
      have hg' := generations_succ hg hr
      rw [ha₀] at hg'
      refine ⟨u, w', _, hu, ?_, by rw [List.length_append]; exact hg'⟩
      intro m
      rw [Attempt.reply, ha, setMap_withPlugs hu]
      exact .level .refl

/-- **Failures that pass leave no trace.**  Take a run in which every generation is
tried until it succeeds, through faithful maps and on an objective that agrees with a
function wherever it answers.  Then the run on the function itself, through a map that
can be depended on, succeeds as often and with the same results, and after each success
the two have the same checkpoint: state, generator or step lengths, and the mark of the
evaluated start. -/
theorem retried_eq_faultless (s t : Solver α) (lone : s.Lone) (f : Point α → Float)
    (m₀ : EvaluationMap α) (dependable : m₀.Dependable) (bs : List Bool)
    (run : Retried (Attempt.Honest f) s bs t) (x : Attempt α) (honest : x.Honest f) (b : Bool)
    (success : (x.reply t).result = .ok b) :
    ∃ r calls,
      generations (.ofFunction f) (s.setMap m₀).1 (bs.length + 1) = some (bs ++ [b], r, calls) ∧
        (x.reply t).after.checkpoint = r.checkpoint := by
  obtain ⟨v, w, calls, hv, standing, hg⟩ := standing_of_retried lone dependable run
  obtain ⟨u, w', _, ha, hr, ha₀⟩ :=
    (standing x.map).step_ok hv honest.1 honest.2 dependable success calls
  refine ⟨_, _, generations_succ hg hr, ?_⟩
  rw [Attempt.reply, ha, ha₀, checkpoint_withPlugs, checkpoint_withPlugs]

/-! ### A generation that is tried three times -/

/-- Trials that are the members themselves. -/
def staying : Strategy Float where
  name := "staying"
  required := 0
  minPopulation := .ok 1
  generate population _ target g := .ok (population.row target, g)

/-- A population of one member on a line, drawn and not yet evaluated. -/
def oneMember : Solver Float :=
  .evolution { Evolution.standard 1 false with
    strategy := some staying
    state := .start ⟨1, [[3]]⟩
    ready := true }

/-- A map that loses all answers. -/
def losing : EvaluationMap Float where
  name := "losing"
  evaluate _ calls _ := (.ok [], calls)
  dispatch _ := []

theorem losing_faithful : losing.Faithful := by
  intro o calls xs vs h length
  cases h
  rw [List.length_eq_zero_iff.1 length.symm]
  exact .nil

/-- The sum of the squares of the coordinates. -/
def squares (x : Point Float) : Float := (x.map fun v => v * v).sum

theorem downAtFifth_agreesWith : Evolution.downAtFifth.AgreesWith squares := by
  intro n x v h
  simp only [Evolution.downAtFifth] at h
  split at h
  · cases h
  · cases h
    rfl

/-- The first try loses the answers, the second one is down between the two batches of
the first generation, the third one is not. -/
def tries : List (Attempt Float) :=
  [⟨losing, .ofFunction squares, 0⟩, ⟨.serial, Evolution.downAtFifth, 3⟩,
    ⟨.serial, Evolution.downAtFifth, 5⟩]

theorem tries_honest : ∀ x ∈ tries, x.Honest squares := by
  intro x hx
  simp only [tries, List.mem_cons, List.not_mem_nil, or_false] at hx
  rcases hx with rfl | rfl | rfl
  · exact ⟨losing_faithful, Objective.ofFunction_agreesWith squares⟩
  · exact ⟨EvaluationMap.serial_orderly.faithful, downAtFifth_agreesWith⟩
  · exact ⟨EvaluationMap.serial_orderly.faithful, downAtFifth_agreesWith⟩

/-- Two failures, the second of which leaves the first population evaluated, and then
a success that is the first generation of a run without failures. -/
theorem retried_eq_faultless_oneMember :
    ∃ t b r calls, Retried (Attempt.Honest squares) oneMember [] t ∧
      (tries[2].reply t).result = .ok b ∧
      generations (.ofFunction squares) (oneMember.setMap .serial).1 1 = some ([b], r, calls) ∧
      (tries[2].reply t).after.checkpoint = r.checkpoint := by
  obtain ⟨e₀, h₀, _, returned₀⟩ :=
    exists_error_of_test (r := (tries[0].reply oneMember).result) (by decide +kernel)
  obtain ⟨e₁, h₁, _, returned₁⟩ :=
    exists_error_of_test (r := (tries[1].reply (tries[0].reply oneMember).after).result)
      (by decide +kernel)
  obtain ⟨b, success⟩ := exists_ok_of_isOk
    (r := (tries[2].reply (tries[1].reply (tries[0].reply oneMember).after).after).result)
    (by decide +kernel)
  have honest (i : Nat) (hi : i < 3) : tries[i].Honest squares :=
    tries_honest _ (List.getElem_mem hi)
  have run := ((Retried.start (s := oneMember)).failed tries[0] (honest 0 (by decide)) h₀
    returned₀).failed tries[1] (honest 1 (by decide)) h₁ returned₁
  obtain ⟨r, calls, hg, hc⟩ := retried_eq_faultless oneMember _ trivial squares .serial
    EvaluationMap.serial_orderly.dependable [] run tries[2] (honest 2 (by decide)) b success
  exact ⟨_, b, r, calls, run, success, hg, hc⟩

end Solver
end BoxSearch

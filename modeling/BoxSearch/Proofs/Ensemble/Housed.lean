import BoxSearch.Proofs.Ensemble.BestPair
import BoxSearch.Proofs.Solver.Inside
import BoxSearch.Proofs.Solver.Settings

/-!
# When the best pair of an ensemble is that of a member

An ensemble takes over the pair of its lowest member, and so its best point is one that a
member visited, in the box that the members search in.  But the pair that it starts with is that
of no member, and it has it as long as no member has an energy below infinity.

* `Housed` — a tree of solvers whose best points are in a box as soon as their energies are
  known, with `Housed.step` for a generation and `Housed.of_ran` for a run;
* `housed_builder` — a plan with a box builds such members;
* `best_pair_held_iff` — the best pair is that of a member exactly if a member has an energy
  below infinity, or has the first pair itself, and in the first case the box holds its point;
* `first_pair_is_kept` — a generation after which no member has the best pair.
-/

namespace BoxSearch

/-! ## Members in a box -/

namespace Evolution

variable {b : Box Float} {s t : Evolution Float}

/-- What holds a run in its box is in what it commits and in its settings. -/
theorem Walled.of_same (h : s.Walled b) (settings : t.settings = s.settings)
    (state : t.state = s.state) (evaluated : t.evaluated = s.evaluated) : t.Walled b := by
  obtain ⟨dim, box, strategy, _, constraints, _⟩ := same_of_settings settings
  exact {
    box := box.trans h.box
    dim := h.dim.trans dim.symm
    strategy := by rw [strategy, dim]; exact h.strategy
    repair := by rw [constraints]; exact h.repair
    table := by rw [state, dim]; exact h.table
    drawn := by rw [evaluated, state]; exact h.drawn
    begun := by rw [evaluated, state]; exact h.begun
    ended := by rw [state]; exact h.ended
    inside := by rw [evaluated, state]; exact h.inside }

end Evolution

namespace Compass

variable {b : Box Float} {s t : Compass Float}

theorem Walled.of_same (h : s.Walled b) (settings : t.settings = s.settings)
    (state : t.state = s.state) (evaluated : t.evaluated = s.evaluated) : t.Walled b := by
  have dim : t.dim = s.dim := congrArg (·.dim) settings
  have box : t.box = s.box := congrArg (·.box) settings
  have constraints : t.constraints = s.constraints := congrArg (·.constraints) settings
  exact {
    box := box.trans h.box
    dim := h.dim.trans dim.symm
    repair := by rw [constraints]; exact h.repair
    table := by rw [state, dim]; exact h.table
    single := by rw [state]; exact h.single
    begun := by rw [evaluated, state]; exact h.begun
    ended := by rw [state]; exact h.ended
    inside := by rw [evaluated, state]; exact h.inside }

end Compass

namespace Solver

variable {b : Box Float} {s t u : Solver Float} {f : Frame Float} {build : Builder Float}
variable {ms ns : List (Solver Float)} {m : Solver Float} {o : Objective Float} {calls : Nat}
variable {allowed : Constraints Float → Prop} {rs : List (Reply (Solver Float) Float Bool)}

theorem evaluated_of_checkpoint (h : t.checkpoint = s.checkpoint) :
    t.evaluated = s.evaluated := by
  cases s <;> cases t <;> simp_all [checkpoint, evaluated]

namespace Walled

theorem of_same (h : s.Walled b) (checkpoint : t.checkpoint = s.checkpoint)
    (settings : t.settings = s.settings) : t.Walled b := by
  cases h with
  | evolution h =>
      cases t with
      | evolution t =>
          obtain ⟨state, _, evaluated⟩ := Checkpoint.evolution.inj checkpoint
          exact .evolution (h.of_same (Solver.evolution.inj settings) state evaluated)
      | compass t => cases checkpoint
      | ensemble => cases checkpoint
  | compass h =>
      cases t with
      | evolution t => cases checkpoint
      | compass t =>
          obtain ⟨state, _, evaluated⟩ := Checkpoint.compass.inj checkpoint
          exact .compass (h.of_same (Solver.compass.inj settings) state evaluated)
      | ensemble => cases checkpoint

/-- Another repair that keeps the dimension keeps a solver in its box. -/
theorem setConstraints (h : s.Walled b) {c : Constraints Float} (repair : c.KeepLength) :
    (s.setConstraints c).Walled b := by
  cases h with
  | evolution h =>
      exact .evolution ⟨h.box, h.dim, h.strategy, repair, h.table, h.drawn, h.begun, h.ended,
        h.inside⟩
  | compass h =>
      exact .compass ⟨h.box, h.dim, repair, h.table, h.single, h.begun, h.ended, h.inside⟩

/-- A generation that has any effect has evaluated the first points. -/
theorem evaluated_or_eq_step (h : s.Walled b) (o : Objective Float) (calls : Nat) :
    (s.step o calls).1.after.evaluated = true ∨ (s.step o calls).1.after = s := by
  cases h with
  | @evolution s h =>
      rcases Evolution.after_step s o calls with
        ha | ⟨_, m, t, _, _, hf, rfl, ha | ⟨_, _, _, _, _, _, ha⟩⟩
      · exact Or.inr (congrArg Solver.evolution ha)
      · refine Or.inl ((congrArg Evolution.evaluated ha).trans ?_)
        exact Evolution.evaluated_evaluateFirst hf
      · refine Or.inl ((congrArg Evolution.evaluated ha).trans ?_)
        rw [Evolution.evaluated_checkStop]
        exact Evolution.evaluated_evaluateFirst hf
  | @compass s h =>
      cases hr : (s.step o calls).1.result with
      | ok ended => exact Or.inl (Compass.evaluated_step h (.inr ⟨ended, hr⟩))
      | error e => exact Or.inr (congrArg Solver.compass (Compass.step_error hr))

end Walled

/-! ## Trees of solvers -/

/-- A tree of solvers whose best points lie in a box as soon as their energies are known. -/
inductive Housed (b : Box Float) : Solver Float → Prop
  /-- a solver without members that is kept in the box -/
  | alone {s : Solver Float} (walled : s.Walled b)
      (known : s.state.bestEnergy < Double.infinity → s.evaluated = true) : Housed b s
  /-- an ensemble of such trees -/
  | ensemble {f : Frame Float} {build : Builder Float} {ms : List (Solver Float)}
      (best : f.state.bestEnergy < Double.infinity → b.Holds f.state.bestSolution)
      (members : ∀ m ∈ ms, Housed b m) : Housed b (.ensemble f build ms)

/-- Members with the checkpoints and the settings of others are those members, as far as
anything about them is asked here. -/
theorem exists_same_member (checkpoint : checkpoints ns = checkpoints ms)
    (settings : settingsAll ns = settingsAll ms) {n : Solver Float} (hn : n ∈ ns) :
    ∃ m ∈ ms, n.checkpoint = m.checkpoint ∧ n.settings = m.settings := by
  obtain ⟨i, hi⟩ := List.mem_iff_getElem?.1 hn
  have checkpoint := congrArg (·[i]?) checkpoint
  have settings := congrArg (·[i]?) settings
  simp only [checkpoints_eq_map, settingsAll_eq_map, List.getElem?_map, hi, Option.map_some]
    at checkpoint settings
  obtain ⟨m, hm, same⟩ := Option.map_eq_some_iff.1 checkpoint.symm
  rw [hm] at settings
  exact ⟨m, List.mem_of_getElem? hm, same.symm, Option.some.inj settings⟩

/-- So are the members that a generation which failed has taken back. -/
theorem exists_same_restored (f : Frame Float) (o : Objective Float) (calls : Nat)
    {n : Solver Float}
    (hn : n ∈ (restoreAll (Dispatch.afters ms (replies f ms (moves o ms) calls))
      (checkpoints ms)).2) :
    ∃ m ∈ ms, n.checkpoint = m.checkpoint ∧ n.settings = m.settings := by
  have settings : settingsAll (Dispatch.afters ms (replies f ms (moves o ms) calls)) =
      settingsAll ms := by
    rw [settingsAll_eq_map, settingsAll_eq_map]
    exact map_afters f calls (settings_moves o ms)
  exact exists_same_member (checkpoints_restoreAll_afters (keepShape_moves o ms))
    ((settingsAll_restoreAll _ _).trans settings) hn

/-- What the moves of the members keep, they keep together, however they were dispatched. -/
theorem forall_mem_afters {P : Solver Float → Prop}
    {moves : List (Dispatch.Move (Solver Float) Float)} (f : Frame Float) (calls : Nat)
    (each : ∀ m ∈ ms, P m)
    (kept : ∀ (i : Nat) m move, ms[i]? = some m → moves[i]? = some move → P m →
      ∀ calls, P (move calls).1.after) :
    ∀ m ∈ Dispatch.afters ms (replies f ms moves calls), P m := by
  intro n hn
  obtain ⟨i, hi⟩ := List.mem_iff_getElem?.1 hn
  cases hr : (replies f ms moves calls).lookup i with
  | none =>
      rw [Dispatch.getElem?_afters_of_none hr] at hi
      exact each n (List.mem_of_getElem? hi)
  | some r =>
      obtain ⟨m, flag, move, c, hm, _, hmove, rfl⟩ := of_lookup_replies hr
      have housed := each m (List.mem_of_getElem? hm)
      rw [Dispatch.getElem?_afters_of_some hm hr] at hi
      cases hi
      cases flag with
      | true => exact housed
      | false => exact kept i m move hm hmove housed c

namespace Housed

/-- The best point is in the box, if its energy is known. -/
theorem best (h : s.Housed b) (known : s.state.bestEnergy < Double.infinity) :
    b.Holds s.state.bestSolution := by
  cases h with
  | alone walled evaluated => exact (walled.inside (evaluated known)).best
  | ensemble best _ => exact best known

theorem of_same (h : s.Housed b) (checkpoint : t.checkpoint = s.checkpoint)
    (settings : t.settings = s.settings) : t.Housed b := by
  induction h generalizing t with
  | @alone s walled known =>
      refine .alone (walled.of_same checkpoint settings) fun lower => ?_
      rw [state_eq_of_checkpoint checkpoint] at lower
      exact (evaluated_of_checkpoint checkpoint).trans (known lower)
  | @ensemble f build ms best members ih =>
      cases t with
      | ensemble g build' ns =>
          obtain ⟨state, _, same⟩ := Checkpoint.ensemble.inj checkpoint
          obtain ⟨_, _, settings⟩ := Solver.ensemble.inj settings
          refine .ensemble (state ▸ best) fun n hn => ?_
          obtain ⟨m, hm, checkpoint, settings⟩ := exists_same_member same settings hn
          exact ih m hm checkpoint settings
      | evolution t => cases checkpoint
      | compass t => cases checkpoint

/-- A repair that keeps the dimension leaves every member in its box. -/
theorem setConstraints (h : s.Housed b) {c : Constraints Float} (repair : c.KeepLength) :
    (s.setConstraints c).Housed b := by
  induction h with
  | alone walled known =>
      refine .alone (walled.setConstraints repair) ?_
      cases walled <;> exact known
  | @ensemble f build ms best members ih =>
      refine .ensemble best ?_
      clear members
      induction ms with
      | nil => exact nofun
      | cons m ms rest =>
          obtain ⟨first, later⟩ := List.forall_mem_cons.1 ih
          exact List.forall_mem_cons.2 ⟨first, rest later⟩

/-- **A generation keeps the best points in the box**, at every depth and whatever becomes of
it. -/
theorem step (h : s.Housed b) (o : Objective Float) (calls : Nat) :
    (s.step o calls).1.after.Housed b := by
  induction h generalizing calls with
  | @alone s walled known =>
      rcases walled.evaluated_or_eq_step o calls with evaluated | same
      · exact .alone (walled.step o calls) fun _ => evaluated
      · rw [same]
        exact .alone walled known
  | @ensemble f build ms best members ih =>
      have moved : ∀ m ∈ Dispatch.afters ms (replies f ms (moves o ms) calls), m.Housed b := by
        refine forall_mem_afters f calls members fun i m move hm hmove _ calls => ?_
        rw [getElem?_moves, hm] at hmove
        cases hmove
        exact ih m (List.mem_of_getElem? hm) calls
      rw [Solver.step]
      rcases hc : f.checkReady o with e | u
      · rw [stepEnsemble_of_refused hc]
        exact .ensemble best members
      cases going : f.state.isTerminated with
      | true =>
          rw [stepEnsemble_of_ended hc going]
          exact .ensemble best members
      | false =>
          rcases hv : Dispatch.verdicts f.map.name ms.length
              (replies f ms (moves o ms) calls) with e | flags
          · rw [(stepEnsemble_of_verdicts_error build hc going hv).2]
            refine .ensemble best fun n hn => ?_
            obtain ⟨m, hm, checkpoint, settings⟩ := exists_same_restored f o calls hn
            exact (members m hm).of_same checkpoint settings
          · rw [(stepEnsemble_of_verdicts_ok build hc going hv).2]
            refine .ensemble ?_ moved
            rcases f.conclude_best flags
                ((Dispatch.afters ms (replies f ms (moves o ms) calls)).map state) with
              ⟨p, hp, _, solution, energy⟩ | ⟨_, solution, energy⟩
            · obtain ⟨m, hm, rfl⟩ := List.mem_map.1 hp
              rw [solution, energy]
              exact (moved m hm).best
            · rw [solution, energy]
              exact best

/-- **A run keeps the best points in the box**, as long as the repairs that are set keep the
dimension. -/
theorem of_ran (repair : ∀ c, allowed c → c.KeepLength)
    (h : (Solver.ensemble f build ms).Housed b) (run : Ran allowed (.ensemble f build ms) rs u) :
    (∃ g build' ns, u = .ensemble g build' ns) ∧ u.Housed b := by
  induction run with
  | start => exact ⟨⟨_, _, _, rfl⟩, h⟩
  | stepped o calls _ _ ih =>
      obtain ⟨⟨g, build', ns, rfl⟩, housed⟩ := ih
      exact ⟨exists_ensemble_step, housed.step o calls⟩
  | handled _ hu ih =>
      obtain ⟨⟨g, build', ns, rfl⟩, housed⟩ := ih
      cases hu with
      | populated hu =>
          cases hu
          exact ⟨⟨_, _, _, rfl⟩, housed⟩
      | guessed hu =>
          cases hu
          exact ⟨⟨_, _, _, rfl⟩, housed⟩
      | constraints c hc => exact ⟨⟨_, _, _, rfl⟩, housed.setConstraints (repair c hc)⟩
      | _ =>
          cases housed with
          | alone walled _ => cases walled
          | ensemble best members => exact ⟨⟨_, _, _, rfl⟩, .ensemble best members⟩

end Housed

/-! ## The start of a run -/

/-- A plan with a box builds runs of differential evolution that are kept in it. -/
theorem walled_evolutionAt {plan : MemberPlan} (box : plan.box = some b) {dim : Nat}
    {start : Point Float} {seed : Seed}
    (h : (plan.evolutionAt dim start seed).1 = .ok m) : m.Walled b := by
  unfold MemberPlan.evolutionAt at h
  rw [box] at h
  rcases hc : plan.criterion with e | criterion
  · rw [hc] at h
    cases h
  -- the criterion of the plan, if it has one, takes the place of the standard one
  cases criterion <;> simp only [hc] at h
  all_goals
    split at h
    · cases h
    · next prepared =>
        obtain ⟨t, ht, rfl⟩ := Evolution.exists_of_map_eq_ok h
        refine .evolution ((Evolution.walled_prepare ?_ (fun x => rfl) prepared).setInitialGuess ht)
        rintro x ⟨⟩
        exact Differential.fits _ _

/-- So are the compass searches that it builds. -/
theorem walled_compassAt {plan : MemberPlan} (box : plan.box = some b) {start : Point Float}
    {seed : Seed} (h : (plan.compassAt start seed).1 = .ok m) : m.Walled b := by
  unfold MemberPlan.compassAt at h
  rw [box] at h
  cases hc : Size.checkPoint plan.dim with
  | error e =>
      rw [hc] at h
      cases h
  | ok u =>
      simp only [hc] at h
      split at h
      · cases h
      · next prepared =>
          have walled := Compass.walled_prepare (fun x => rfl) prepared
          split at h
          · cases h
            exact .compass walled
          · obtain ⟨t, ht, rfl⟩ := Evolution.exists_of_map_eq_ok h
            exact .compass (walled.setInitialGuess ht)

/-- **A plan with a box builds members that are kept in it.** -/
theorem housed_builder {plan : MemberPlan} (box : plan.box = some b) {dim place : Nat}
    {start : Point Float} {seed : Seed}
    (h : (plan.builder dim place start seed).1 = .ok m) : m.Housed b := by
  refine .alone ?_ fun known => ?_
  · unfold MemberPlan.builder at h
    split at h
    · cases h
    split at h
    · exact walled_evolutionAt box h
    · exact walled_compassAt box h
  · have unknown : m.state.bestEnergy = Double.infinity := by
      rcases builder_ok h with ⟨s, rfl, _, _, _, _, hs⟩ | ⟨s, rfl, _, _, _, _, hs⟩
      · exact congrArg State.bestEnergy hs
      · exact congrArg State.bestEnergy hs
    exact absurd (unknown ▸ known) (Double.lt_irrefl _)

/-- Members that are built in a box make an ensemble whose best points are in it. -/
theorem housed_prepare {box : Option (Box Float)} {size : Nat} {seed : Seed}
    (built : ∀ place start seed m, (build place start seed).1 = .ok m → m.Housed b)
    (repair : ∀ c, f.constraints = some c → c.KeepLength)
    (prepared : ((Solver.ensemble f build ms).prepare box size seed).result = .ok ()) :
    ∃ g ns, ((Solver.ensemble f build ms).prepare box size seed).after = .ensemble g build ns ∧
      (Solver.ensemble g build ns).Housed b := by
  obtain ⟨starts, ns, hb, after, _⟩ := started_prepareEnsemble prepared
  refine ⟨_, ns, after, .ensemble (fun known => absurd known (Double.lt_irrefl _)) ?_⟩
  exact forall_buildMembers built (fun _ c hc housed => housed.setConstraints (repair c hc)) hb

/-! ## The best pair -/

/-- **The best pair of an ensemble is that of a member, as soon as a member has an energy below
infinity.**  Make an ensemble ready, with whatever members, and let its user run generations on
any objectives, which may succeed or fail, step by step or by solving, with requests to stop and
settings between them.  The best energy is below infinity exactly if a member had one below
infinity after a generation that was committed.  Then the best pair is one that a member had, and
if the members are built in a box, under repairs that keep the dimension, the box holds the best
point.  Otherwise the pair is the first one, the origin with an energy that is infinite.  So a
member holds the best pair, or held it, exactly if a member had an energy below infinity or had
the first pair itself. -/
theorem best_pair_held_iff {box : Option (Box Float)} {size : Nat} {seed : Seed}
    (prepared : ((Solver.ensemble f build ms).prepare box size seed).result = .ok ())
    (run : Ran allowed ((Solver.ensemble f build ms).prepare box size seed).after rs u) :
    (u.state.bestEnergy < Double.infinity ↔ ∃ x e, Held rs x e ∧ e < Double.infinity) ∧
      (u.state.bestEnergy < Double.infinity → Held rs u.state.bestSolution u.state.bestEnergy) ∧
      (¬ u.state.bestEnergy < Double.infinity → u.state.bestSolution = List.replicate f.dim 0 ∧
        u.state.bestEnergy = Double.infinity) ∧
      (((Solver.ensemble f build ms).prepare box size seed).after.MemberAt
            u.state.bestSolution u.state.bestEnergy ∨
          Held rs u.state.bestSolution u.state.bestEnergy ↔
        (∃ x e, Held rs x e ∧ e < Double.infinity) ∨
          ((Solver.ensemble f build ms).prepare box size seed).after.MemberAt
            (List.replicate f.dim 0) Double.infinity ∨
          Held rs (List.replicate f.dim 0) Double.infinity) ∧
      ∀ b : Box Float,
        (∀ place start seed m, (build place start seed).1 = .ok m → m.Housed b) →
        (∀ c, f.constraints = some c → c.KeepLength) → (∀ c, allowed c → c.KeepLength) →
        u.state.bestEnergy < Double.infinity → b.Holds u.state.bestSolution := by
  have kept := (pairKept_prepare prepared).of_ran run
  have known : u.state.bestEnergy < Double.infinity ↔
      ∃ x e, Held rs x e ∧ e < Double.infinity := by
    refine ⟨fun lower => ⟨_, _, kept.held lower, lower⟩, ?_⟩
    rintro ⟨x, e, held, lower⟩
    by_contra unknown
    exact (kept.first unknown).2.2 x e held lower
  refine ⟨known, kept.held, fun unknown => ?_, ?_, ?_⟩
  · obtain ⟨energy, solution, _⟩ := kept.first unknown
    exact ⟨solution, energy⟩
  · by_cases lower : u.state.bestEnergy < Double.infinity
    · exact iff_of_true (Or.inr (kept.held lower)) (Or.inl (known.1 lower))
    · obtain ⟨energy, solution, _⟩ := kept.first lower
      rw [energy, solution, or_iff_right fun some => lower (known.2 some)]
      rfl
  · intro b built first later lower
    obtain ⟨g, ns, after, housed⟩ := housed_prepare built first prepared
    rw [after] at run
    exact (housed.of_ran later run).2.best lower

/-! ### An objective without an energy below infinity -/

/-- The numbers between one and two. -/
def segment : Box Float := ⟨[⟨1, 2, by decide +kernel⟩]⟩

/-- Two compass searches in it. -/
def twoSearches : Solver Float :=
  .ensemble (.make 1 (.scattershot 2)) ((MemberPlan.plain 1 (some segment)).builder 1) []

/-- The searches, made ready. -/
def readySearches : Solver Float := (twoSearches.prepare (some segment) 1 (.number 1)).after

/-- The objective that is infinite everywhere. -/
def nowhereBelow : Objective Float := .ofFunction fun _ => Double.infinity

/-- On the first coordinate the ensemble takes over the pair of a member, and its best point is
in the box of the members. -/
theorem best_pair_held_iff_twoSearches :
    Held [(readySearches.step firstCoordinate 0).1]
        (readySearches.step firstCoordinate 0).1.after.state.bestSolution
        (readySearches.step firstCoordinate 0).1.after.state.bestEnergy ∧
      segment.Holds (readySearches.step firstCoordinate 0).1.after.state.bestSolution := by
  obtain ⟨_, prepared⟩ := exists_ok_of_isOk
    (r := (twoSearches.prepare (some segment) 1 (.number 1)).result) (by decide +kernel)
  obtain ⟨b, success⟩ := exists_ok_of_isOk
    (r := (readySearches.step firstCoordinate 0).1.result) (by decide +kernel)
  have lower : (readySearches.step firstCoordinate 0).1.after.state.bestEnergy <
      Double.infinity := by decide +kernel
  have run : Ran (fun _ => False) readySearches [(readySearches.step firstCoordinate 0).1]
      (readySearches.step firstCoordinate 0).1.after :=
    .stepped firstCoordinate 0 .start fun c h => by cases success.symm.trans h
  obtain ⟨_, held, _, _, holds⟩ := best_pair_held_iff prepared run
  exact ⟨held lower, holds segment (fun _ _ _ _ => housed_builder rfl) nofun nofun lower⟩

/-- **Where no energy is below infinity the best pair is that of no member.**  The two searches
evaluate points between one and two in a generation that is committed, and the best point of the
ensemble is the origin after it, where no member was and which is not in the box. -/
theorem first_pair_is_kept :
    (twoSearches.prepare (some segment) 1 (.number 1)).result.isOk = true ∧
      (∃ b, (readySearches.step nowhereBelow 0).1.result = .ok b) ∧
      (∀ e, ¬ readySearches.MemberAt
        (readySearches.step nowhereBelow 0).1.after.state.bestSolution e) ∧
      (∀ e, ¬ Held [(readySearches.step nowhereBelow 0).1]
        (readySearches.step nowhereBelow 0).1.after.state.bestSolution e) ∧
      ¬ segment.Holds (readySearches.step nowhereBelow 0).1.after.state.bestSolution := by
  have origin : (readySearches.step nowhereBelow 0).1.after.state.bestSolution.headD 1 < 1 := by
    decide +kernel
  have before : ∀ m ∈ readySearches.members, ¬ m.state.bestSolution.headD 1 < 1 := by
    decide +kernel
  have after : ∀ m ∈ (readySearches.step nowhereBelow 0).1.after.members,
      ¬ m.state.bestSolution.headD 1 < 1 := by decide +kernel
  refine ⟨by decide +kernel, exists_ok_of_isOk (by decide +kernel), ?_, ?_, fun holds => ?_⟩
  · rintro e ⟨m, hm, same, _⟩
    exact before m hm (same ▸ origin)
  · rintro e ⟨r, hr, _, m, hm, same, _⟩
    rw [List.mem_singleton.1 hr] at hm
    exact after m hm (same ▸ origin)
  · generalize (readySearches.step nowhereBelow 0).1.after.state.bestSolution = x at origin holds
    cases holds with
    | cons first _ => exact first.not_below origin

end Solver
end BoxSearch

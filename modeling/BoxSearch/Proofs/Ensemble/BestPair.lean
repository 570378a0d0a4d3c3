import BoxSearch.Proofs.Ensemble.Accounting
import BoxSearch.Proofs.Solver.Committed

/-!
# Whose the best pair of an ensemble is

An ensemble starts with the origin as its best point and infinity as its best energy, and takes
over the pair of a member when the lowest of the members' best energies is strictly below.  So
its pair is that of a member as soon as a member has an energy below infinity, and until then it
is the pair that it started with, whoever its members are.

* `Frame.conclude_best` — a generation takes over the pair of a member with a lower energy, or
  keeps the pair when there is none;
* `Solver.Held` — a pair that a member had after a generation that was committed;
* `PairKept` — the pair is held or the first one, with `PairKept.step` for a generation and
  `PairKept.of_ran` for a run.
-/

namespace BoxSearch

namespace Frame

variable {α : Type} [Scalar α] (f : Frame α) (flags : List Bool) (states : List (State α))

/-- The question whether the run ends leaves the best pair alone. -/
theorem best_checkStop : f.checkStop.after.state.bestSolution = f.state.bestSolution ∧
    f.checkStop.after.state.bestEnergy = f.state.bestEnergy := by
  unfold checkStop
  cases askWatch f.state f.watch with
  | error e => exact ⟨rfl, rfl⟩
  | ok answer =>
      obtain ⟨reason, watch⟩ := answer
      dsimp only
      split <;> exact ⟨rfl, rfl⟩

/-- The point of the lowest member is taken over together with its energy, or not at all. -/
theorem bestSolution_aggregated :
    (f.aggregated flags states).state.bestSolution =
      if (Energy.argmin (states.map (·.bestEnergy))).2 < f.state.bestEnergy then
        (states.map (·.bestSolution)).getD (Energy.argmin (states.map (·.bestEnergy))).1 []
      else f.state.bestSolution := by
  unfold aggregated aggregate
  rcases Energy.argmin (states.map (·.bestEnergy)) with ⟨k, e⟩
  rfl

/-- **A generation takes over the pair of a member with a lower energy**, and keeps the one it
has if no member has a lower energy. -/
theorem conclude_best :
    (∃ m ∈ states, m.bestEnergy < f.state.bestEnergy ∧
        (f.conclude flags states).after.state.bestSolution = m.bestSolution ∧
        (f.conclude flags states).after.state.bestEnergy = m.bestEnergy) ∨
      ((∀ m ∈ states, ¬ m.bestEnergy < f.state.bestEnergy) ∧
        (f.conclude flags states).after.state.bestSolution = f.state.bestSolution ∧
        (f.conclude flags states).after.state.bestEnergy = f.state.bestEnergy) := by
  obtain ⟨solution, energy⟩ := (f.aggregated flags states).best_checkStop
  change (f.conclude flags states).after.state.bestSolution = _ at solution
  change (f.conclude flags states).after.state.bestEnergy = _ at energy
  rw [solution, energy, bestSolution_aggregated, bestEnergy_aggregated, Energy.improve]
  by_cases improves :
      (Energy.argmin (states.map (·.bestEnergy))).2 < f.state.bestEnergy
  · have known : (Energy.argmin (states.map (·.bestEnergy))).2 < Double.infinity :=
      Double.lt_of_lt_of_le improves (Double.le_infinity (Double.lt_iff.1 improves).2.1)
    have place := Energy.getElem?_argmin known
    rw [List.getElem?_map, Option.map_eq_some_iff] at place
    obtain ⟨m, hm, lowest⟩ := place
    rw [if_pos improves, if_pos improves]
    refine Or.inl ⟨m, List.mem_of_getElem? hm, lowest ▸ improves, ?_, lowest.symm⟩
    rw [List.getD_eq_getElem?_getD, List.getElem?_map, hm]
    rfl
  · rw [if_neg improves, if_neg improves]
    refine Or.inr ⟨fun m hm lower => improves ?_, rfl, rfl⟩
    have listed : m.bestEnergy ∈ states.map (·.bestEnergy) := List.mem_map.2 ⟨m, hm, rfl⟩
    have below := (Energy.isLowest_argmin _).below _ listed (Double.lt_iff.1 lower).1
    exact Double.lt_of_le_of_lt below lower

end Frame

namespace Solver

variable {α : Type} [Scalar α]
variable {f g : Frame α} {build : Builder α} {ms : List (Solver α)} {t u : Solver α}
variable {rs : List (Reply (Solver α) α Bool)} {o : Objective α} {calls : Nat} {b : Bool}
variable {allowed : Constraints α → Prop} {x : Point α} {e : Float}

/-- The members of an ensemble; a solver of another family has none. -/
def members : Solver α → List (Solver α)
  | .ensemble _ _ ms => ms
  | _ => []

theorem state_eq_of_checkpoint (h : u.checkpoint = t.checkpoint) : u.state = t.state := by
  rw [← state_checkpoint, h, state_checkpoint]

/-- The states of the members are part of a checkpoint. -/
theorem states_members_of_checkpoint (h : u.checkpoint = t.checkpoint) :
    u.members.map state = t.members.map state := by
  have shown (ms : List (Solver α)) : (checkpoints ms).map (·.state) = ms.map state := by
    rw [checkpoints_eq_map, List.map_map]
    exact List.map_congr_left fun m _ => state_checkpoint
  cases u with
  | ensemble g build ns =>
      cases t with
      | ensemble f build' ms =>
          rw [members, members, ← shown, (Checkpoint.ensemble.inj h).2.2, shown]
      | evolution t => cases h
      | compass t => cases h
  | evolution u => cases t <;> first | rfl | cases h
  | compass u => cases t <;> first | rfl | cases h

/-- A member of an ensemble has this best point and this best energy. -/
def MemberAt (s : Solver α) (x : Point α) (e : Float) : Prop :=
  ∃ m ∈ s.members, m.state.bestSolution = x ∧ m.state.bestEnergy = e

/-- A member had this pair after a generation that was committed. -/
def Held (rs : List (Reply (Solver α) α Bool)) (x : Point α) (e : Float) : Prop :=
  ∃ r ∈ rs, (∃ b, r.result = .ok b) ∧ r.after.MemberAt x e

theorem Held.append (h : Held rs x e) (later : List (Reply (Solver α) α Bool)) :
    Held (rs ++ later) x e := by
  obtain ⟨r, hr, holds⟩ := h
  exact ⟨r, List.mem_append_left _ hr, holds⟩

/-- A generation that was not committed adds nothing to what was held. -/
theorem held_concat_of_error {r : Reply (Solver α) α Bool} {c : SolverError}
    (failed : r.result = .error c) : Held (rs ++ [r]) x e ↔ Held rs x e := by
  refine ⟨?_, fun h => h.append _⟩
  rintro ⟨r', hr, ⟨b, hb⟩, holds⟩
  rcases List.mem_append.1 hr with hr | hr
  · exact ⟨r', hr, ⟨b, hb⟩, holds⟩
  · rw [List.mem_singleton.1 hr, failed] at hb
    cases hb

/-- A generation that was committed adds what its members hold. -/
theorem held_concat_of_ok {r : Reply (Solver α) α Bool} (success : r.result = .ok b) :
    Held (rs ++ [r]) x e ↔ Held rs x e ∨ r.after.MemberAt x e := by
  constructor
  · rintro ⟨r', hr, committed, holds⟩
    rcases List.mem_append.1 hr with hr | hr
    · exact Or.inl ⟨r', hr, committed, holds⟩
    · rw [List.mem_singleton.1 hr] at holds
      exact Or.inr holds
  · rintro (h | holds)
    · exact h.append _
    · exact ⟨r, List.mem_append_right _ (List.mem_singleton_self r), ⟨b, success⟩, holds⟩

/-- A generation that succeeds finds the run ended, or the members have made their moves, and
the pair of a lower one was taken over, if there is one. -/
theorem best_step_ok (success : ((Solver.ensemble f build ms).step o calls).1.result = .ok b) :
    (f.state.isTerminated = true ∧
        ((Solver.ensemble f build ms).step o calls).1.after = .ensemble f build ms) ∨
      ∃ g afters, ((Solver.ensemble f build ms).step o calls).1.after = .ensemble g build afters ∧
        ((∃ m ∈ afters, m.state.bestEnergy < f.state.bestEnergy ∧
            g.state.bestSolution = m.state.bestSolution ∧
            g.state.bestEnergy = m.state.bestEnergy) ∨
          ((∀ m ∈ afters, ¬ m.state.bestEnergy < f.state.bestEnergy) ∧
            g.state.bestSolution = f.state.bestSolution ∧
            g.state.bestEnergy = f.state.bestEnergy)) := by
  rw [step] at success ⊢
  rcases hc : f.checkReady o with e | c
  · rw [stepEnsemble_of_refused hc] at success
    cases success
  cases going : f.state.isTerminated with
  | true =>
      rw [stepEnsemble_of_ended hc going]
      exact Or.inl ⟨rfl, rfl⟩
  | false =>
      rcases hv : Dispatch.verdicts f.map.name ms.length (replies f ms (moves o ms) calls) with
        e | flags
      · rw [(stepEnsemble_of_verdicts_error build hc going hv).1] at success
        cases success
      · rw [(stepEnsemble_of_verdicts_ok build hc going hv).2]
        refine Or.inr ⟨_, _, rfl, ?_⟩
        rcases f.conclude_best flags
            ((Dispatch.afters ms (replies f ms (moves o ms) calls)).map state) with
          ⟨p, hp, taken⟩ | ⟨none, kept⟩
        · obtain ⟨m, hm, rfl⟩ := List.mem_map.1 hp
          exact Or.inl ⟨m, hm, taken⟩
        · exact Or.inr ⟨fun m hm => none _ (List.mem_map_of_mem hm), kept⟩

/-! ## A run -/

/-- The best pair of an ensemble in `dim` dimensions after some generations. -/
structure PairKept (dim : Nat) (rs : List (Reply (Solver α) α Bool)) (t : Solver α) : Prop where
  /-- it is an ensemble -/
  ensemble : ∃ g build ms, t = .ensemble g build ms
  /-- an energy below infinity is that of a member, together with its point -/
  held : t.state.bestEnergy < Double.infinity →
    Held rs t.state.bestSolution t.state.bestEnergy
  /-- otherwise the pair is the first one, and no member had an energy below infinity -/
  first : ¬ t.state.bestEnergy < Double.infinity →
    t.state.bestEnergy = Double.infinity ∧
      t.state.bestSolution = List.replicate dim Scalar.zero ∧
      ∀ x e, Held rs x e → ¬ e < Double.infinity
  /-- when the run has ended, the energies of its members are known -/
  ended : t.state.isTerminated = true → ∀ m ∈ t.members,
    m.state.bestEnergy < Double.infinity → t.state.bestEnergy < Double.infinity

namespace PairKept

variable {dim : Nat}

/-- The best energy is a number. -/
theorem number (h : PairKept dim rs t) : t.state.bestEnergy.isNaN = false := by
  by_cases known : t.state.bestEnergy < Double.infinity
  · exact (Double.lt_iff.1 known).1
  · rw [(h.first known).1]
    exact Double.isNaN_infinity

/-- Nothing but the pair, the mark of the end and the members' energies matters. -/
theorem of_same (h : PairKept dim rs t) (ensemble : ∃ g build ms, u = .ensemble g build ms)
    (solution : u.state.bestSolution = t.state.bestSolution)
    (energy : u.state.bestEnergy = t.state.bestEnergy)
    (ended : u.state.isTerminated = true → t.state.isTerminated = true)
    (members : u.members.map state = t.members.map state) : PairKept dim rs u where
  ensemble := ensemble
  held := by rw [solution, energy]; exact h.held
  first := by rw [solution, energy]; exact h.first
  ended terminated m hm known := by
    have same : m.state ∈ t.members.map state := members ▸ List.mem_map_of_mem hm
    obtain ⟨n, hn, hs⟩ := List.mem_map.1 same
    rw [energy]
    exact h.ended (ended terminated) n hn (hs ▸ known)

theorem of_checkpoint (h : PairKept dim rs t) (ensemble : ∃ g build ms, u = .ensemble g build ms)
    (same : u.checkpoint = t.checkpoint) : PairKept dim rs u := by
  have state := state_eq_of_checkpoint same
  refine h.of_same ensemble (congrArg _ state) (congrArg _ state) (fun ended => ?_)
    (states_members_of_checkpoint same)
  rwa [state] at ended

/-- A generation that failed holds nothing. -/
theorem concat_error (h : PairKept dim rs t) {r : Reply (Solver α) α Bool} {c : SolverError}
    (failed : r.result = .error c) : PairKept dim (rs ++ [r]) t where
  ensemble := h.ensemble
  held known := (h.held known).append _
  first unknown := by
    obtain ⟨energy, solution, never⟩ := h.first unknown
    exact ⟨energy, solution, fun x e held => never x e ((held_concat_of_error failed).1 held)⟩
  ended := h.ended

/-- A generation that is committed may leave the pair alone, unless one of its members is the
first one with an energy below infinity. -/
theorem concat_ok (h : PairKept dim rs t) {r : Reply (Solver α) α Bool} (success : r.result = .ok b)
    (ensemble : ∃ g build ms, r.after = .ensemble g build ms)
    (solution : r.after.state.bestSolution = t.state.bestSolution)
    (energy : r.after.state.bestEnergy = t.state.bestEnergy)
    (known : ∀ m ∈ r.after.members, m.state.bestEnergy < Double.infinity →
      t.state.bestEnergy < Double.infinity) : PairKept dim (rs ++ [r]) r.after where
  ensemble := ensemble
  held := by
    rw [solution, energy]
    exact fun lower => (h.held lower).append _
  first := by
    rw [solution, energy]
    intro unknown
    obtain ⟨first, origin, never⟩ := h.first unknown
    refine ⟨first, origin, fun x e held lower => ?_⟩
    rcases (held_concat_of_ok success).1 held with held | ⟨m, hm, _, rfl⟩
    · exact never x e held lower
    · exact unknown (known m hm lower)
  ended _ m hm lower := energy ▸ known m hm lower

/-- **A generation that succeeds keeps the pair.** -/
theorem step_ok (h : PairKept dim rs t) (success : (t.step o calls).1.result = .ok b) :
    PairKept dim (rs ++ [(t.step o calls).1]) (t.step o calls).1.after := by
  obtain ⟨f, build, ms, rfl⟩ := h.ensemble
  rcases best_step_ok success with ⟨ended, same⟩ |
    ⟨g, afters, after, ⟨m, hm, lower, solution, energy⟩ | ⟨none, solution, energy⟩⟩
  · -- the members of a run that has ended are those that it ended with
    refine h.concat_ok success exists_ensemble_step ?_ ?_ ?_
    all_goals rw [same]
    exact h.ended ended
  · have known : g.state.bestEnergy < Double.infinity :=
      energy ▸ Double.lt_of_lt_of_le lower (Double.le_infinity h.number)
    have held : Held (rs ++ [((Solver.ensemble f build ms).step o calls).1])
        g.state.bestSolution g.state.bestEnergy :=
      (held_concat_of_ok success).2 (Or.inr ⟨m, after ▸ hm, solution.symm, energy.symm⟩)
    rw [after]
    exact ⟨⟨_, _, _, rfl⟩, fun _ => held, fun unknown => absurd known unknown, fun _ _ _ _ => known⟩
  · refine h.concat_ok success exists_ensemble_step (after ▸ solution) (after ▸ energy) ?_
    intro m hm known
    rw [after] at hm
    by_contra unknown
    -- the pair is the first one, so its energy is above that of the member
    have first : f.state.bestEnergy = Double.infinity := (h.first unknown).1
    exact none m hm (first ▸ known)

/-- **A generation keeps the pair**, whatever becomes of it: one that fails takes the members
back to where they were. -/
theorem step (h : PairKept dim rs t)
    (returned : ∀ c, (t.step o calls).1.result ≠ .error (.fault c)) :
    PairKept dim (rs ++ [(t.step o calls).1]) (t.step o calls).1.after := by
  cases hr : (t.step o calls).1.result with
  | ok b => exact h.step_ok hr
  | error e =>
      obtain ⟨f, build, ms, rfl⟩ := h.ensemble
      have kept := checkpoint_step_error hr (fault?_eq_none returned hr)
      exact (h.concat_error hr).of_checkpoint exists_ensemble_step kept

/-- **A call that runs no generation keeps the pair.** -/
theorem handled (h : PairKept dim rs t) (hu : t.Handled allowed u) : PairKept dim rs u := by
  obtain ⟨f, build, ms, rfl⟩ := h.ensemble
  cases hu with
  | marked => exact h.of_same ⟨_, _, _, rfl⟩ rfl rfl nofun rfl
  | populated hu =>
      cases hu
      exact h
  | guessed hu =>
      cases hu
      exact h
  | constraints c _ => exact h.of_checkpoint ⟨_, _, _, rfl⟩ (checkpoint_setConstraints c _)
  | _ => exact h.of_checkpoint ⟨_, _, _, rfl⟩ rfl

/-- **A run keeps the pair.** -/
theorem of_ran (h : PairKept dim [] t) (run : Ran allowed t rs u) : PairKept dim rs u := by
  induction run with
  | start => exact h
  | stepped o calls _ returned ih => exact ih.step returned
  | handled _ hu ih => exact ih.handled hu

end PairKept

/-- The pair that an ensemble starts with is the origin, with an energy that is infinite. -/
theorem pairKept_prepare {box : Option (Box α)} {size : Nat} {seed : Seed}
    (prepared : ((Solver.ensemble f build ms).prepare box size seed).result = .ok ()) :
    PairKept f.dim [] ((Solver.ensemble f build ms).prepare box size seed).after := by
  obtain ⟨starts, built, _, after, _⟩ := started_prepareEnsemble prepared
  rw [show ((Solver.ensemble f build ms).prepare box size seed).after = _ from after]
  refine ⟨⟨_, _, _, rfl⟩, fun known => ?_, fun _ => ⟨rfl, rfl, ?_⟩, nofun⟩
  · cases Double.lt_irrefl _ known
  · rintro x e ⟨r, hr, _⟩
    cases hr

end Solver
end BoxSearch

import BoxSearch.Proofs.Ensemble.Alone
import BoxSearch.Proofs.Evolution.Coherence

/-!
# The members that are built for an ensemble

A member of an ensemble is built from a plan: it is prepared with the seed of its place and
moved to its start point.  Such a member has no members of its own, evaluates in order, and
has not run yet (`builder_ok`).  `forall_buildMembers` carries what is known of each member to
all members that an ensemble builds.
-/

namespace BoxSearch

namespace Solver

variable {α : Type} [Scalar α]
variable {f : Frame α} {build : Builder α} {members : List (Solver α)} {m : Solver α}

/-! ## Members of a plan -/

/-- The state of a run that was made ready from a drawn population and then moved to a start
point, or not. -/
def Drawn (state : State α) : Prop :=
  ∃ (drawn population : Population α) (bestSolution : Point α),
    state = { State.start drawn with population, bestSolution }

theorem evolutionAt_ok {plan : MemberPlan} {dim : Nat} {start : Point Float}
    {seed : Seed} {m : Solver Float} (h : (plan.evolutionAt dim start seed).1 = .ok m) :
    ∃ s : Evolution Float, m = .evolution s ∧ s.map = some .serial ∧ Drawn s.state := by
  unfold MemberPlan.evolutionAt at h
  rcases hc : plan.criterion with e | criterion
  · rw [hc] at h
    cases h
  -- the criterion of the plan, if it has one, takes the place of the standard one
  cases criterion <;> simp only [hc] at h
  all_goals
    split at h
    · cases h
    · next prepared =>
        obtain ⟨t, ht, rfl⟩ := Evolution.exists_of_map_eq_ok h
        obtain ⟨_, population, best, rfl⟩ := Evolution.setInitialGuess_ok ht
        obtain ⟨generator, drawn, hafter⟩ := Evolution.prepare_ok prepared
        rw [hafter]
        exact ⟨_, rfl, rfl, drawn, population, best, rfl⟩

theorem compassAt_ok {plan : MemberPlan} {start : Point Float} {seed : Seed}
    {m : Solver Float} (h : (plan.compassAt start seed).1 = .ok m) :
    ∃ s : Compass Float, m = .compass s ∧ s.map = .serial ∧ Drawn s.state := by
  unfold MemberPlan.compassAt at h
  cases hc : Size.checkPoint plan.dim with
  | error e =>
      rw [hc] at h
      cases h
  | ok u =>
      simp only [hc] at h
      split at h
      · cases h
      · next prepared =>
          obtain ⟨steps, drawn, hafter⟩ := Compass.prepare_ok prepared
          split at h
          · cases h
            rw [hafter]
            exact ⟨_, rfl, rfl, drawn, drawn, drawn.row 0, rfl⟩
          · obtain ⟨t, ht, rfl⟩ := Evolution.exists_of_map_eq_ok h
            obtain ⟨population, best, rfl⟩ := Compass.setInitialGuess_ok ht
            rw [hafter]
            exact ⟨_, rfl, rfl, drawn, population, best, rfl⟩

/-- A member that is built from a plan evaluates in order and has not run yet. -/
theorem builder_ok {plan : MemberPlan} {dim place : Nat} {start : Point Float}
    {seed : Seed} {m : Solver Float}
    (h : (plan.builder dim place start seed).1 = .ok m) :
    (∃ s : Evolution Float, m = .evolution s ∧ s.map = some .serial ∧ Drawn s.state) ∨
      ∃ s : Compass Float, m = .compass s ∧ s.map = .serial ∧ Drawn s.state := by
  unfold MemberPlan.builder at h
  split at h
  · cases h
  split at h
  · exact Or.inl (evolutionAt_ok h)
  · exact Or.inr (compassAt_ok h)

/-! ## Members of an ensemble -/

/-- What holds of every member that can be built, also with the constraints of the ensemble,
holds of all members that are built. -/
theorem forall_buildMembers {P : Solver α → Prop} {seed : Seed}
    {starts : List (Point α)} {i : Nat} {built : List (Solver α)}
    (each : ∀ place start seed m, (build place start seed).1 = .ok m → P m)
    (constrained : ∀ m c, f.constraints = some c → P m → P (m.setConstraints c))
    (h : (buildMembers f build seed i starts).1 = .ok built) : ∀ m ∈ built, P m := by
  induction starts generalizing i built with
  | nil =>
      cases h
      exact nofun
  | cons start starts ih =>
      rw [buildMembers] at h
      rcases hb : build i start (seed.member i) with ⟨e | m, events⟩
      · rw [hb] at h
        cases h
      · rw [hb] at h
        by_cases hd : m.dim ≠ f.dim
        · simp only [if_pos hd] at h
          cases h
        · simp only [if_neg hd] at h
          obtain ⟨ms, hms, rfl⟩ := Evolution.exists_of_map_eq_ok h
          have first : P m := each i start (seed.member i) m (by rw [hb])
          refine List.forall_mem_cons.2 ⟨?_, ih hms⟩
          split
          · next c hc => exact constrained _ c hc first
          · exact first

end Solver
end BoxSearch

import BoxSearch.Proofs.Solver.Restore
import BoxSearch.Proofs.Solver.Retry
import BoxSearch.Solver.Member

/-!
# A generation of an ensemble is all or nothing

An ensemble steps its members through a map that may dispatch them in any order and
may leave some of them out.  Members that succeeded, members that failed half way and
members that never moved all have to be taken back when the generation is abandoned.

* `Initialized` — the ensembles on which a generation can be run.
* `FirstFailure` — the lowest member that failed or was left out, and its error.
* `generation_all_or_nothing` — a generation has a first failure and then commits
  nothing, or it has none and then is committed, with one step of each active member.
-/

namespace BoxSearch
namespace Solver

variable {α : Type} [Scalar α]
variable {f : Frame α} {build : Builder α} {members : List (Solver α)} {o : Objective α}
variable {moves : List (Dispatch.Move (Solver α) α)} {calls i : Nat} {b : Bool} {e : SolverError}

/-! ## Ensembles on which a generation can be run -/

/-- A run of the ensemble was started: it has its members, and a flag for each. -/
def Initialized (f : Frame α) (members : List (Solver α)) : Prop :=
  f.ready = true ∧ f.stopped.length = members.length

theorem length_of_buildMembers {seed : Seed} {starts : List (Point α)} {i : Nat}
    {built : List (Solver α)} (h : (buildMembers f build seed i starts).1 = .ok built) :
    built.length = starts.length := by
  induction starts generalizing i built with
  | nil => cases h; rfl
  | cons start starts ih =>
      rw [buildMembers] at h
      rcases hb : build i start (seed.member i) with ⟨e | m, events⟩
      · rw [hb] at h
        cases h
      · rw [hb] at h
        by_cases hd : m.dim ≠ f.dim
        · simp only [if_pos hd] at h
          cases h
        · simp only [if_neg hd] at h
          cases hrest : (buildMembers f build seed (i + 1) starts).1 with
          | error e => simp [hrest, Except.map] at h
          | ok ms =>
              simp only [hrest, Except.map, Except.ok.injEq] at h
              subst h
              rw [List.length_cons, List.length_cons, ih hrest]

/-! ## All or nothing -/

/-- The lowest member that failed or was left out, with its error: that of the member's
step, or that of the map which left it out. -/
def FirstFailure (map : String) (replies : List (Nat × Reply (Solver α) α Bool)) (i : Nat)
    (e : SolverError) : Prop :=
  ((replies.lookup i = none ∧ e = .configuration (.memberNotRun map i)) ∨
      ∃ r, replies.lookup i = some r ∧ r.result = .error e) ∧
    ∀ j, j < i → ∃ r b, replies.lookup j = some r ∧ r.result = .ok b

theorem outcome_eq_error {map : String} {replies : List (Nat × Reply (Solver α) α Bool)}
    (h : Dispatch.outcome map replies i = .error e) :
    (replies.lookup i = none ∧ e = .configuration (.memberNotRun map i)) ∨
      ∃ r, replies.lookup i = some r ∧ r.result = .error e := by
  unfold Dispatch.outcome at h
  cases hr : replies.lookup i with
  | none =>
      rw [hr] at h
      cases h
      exact Or.inl ⟨rfl, rfl⟩
  | some r =>
      rw [hr] at h
      exact Or.inr ⟨r, rfl, h⟩

/-- **A generation of an ensemble is all or nothing.**  Let the map dispatch the members
in any order and leave out any of them.  Those that are dispatched make one step, or
rest if they have stopped.  If one of them fails or is left out, then the error is that
of the lowest such member, the frame is unchanged, and every member has the checkpoint
that it had before.  Otherwise exactly one generation is committed, and every member is
as its own step has left it. -/
theorem generation_all_or_nothing (f : Frame α) (build : Builder α) (members : List (Solver α))
    (o : Objective α) (calls : Nat) (initialized : Initialized f members)
    (going : f.state.isTerminated = false) (arity : o.checkDimension f.dim = .ok ())
    (returned : ∀ c,
      ((Solver.ensemble f build members).step o calls).1.result ≠ .error (.fault c)) :
    let reports := replies f members (Solver.moves o members) calls
    let reply := ((Solver.ensemble f build members).step o calls).1
    (∀ i, i < members.length →
      (reports.lookup i = none ↔ i ∉ f.map.dispatch members.length)) ∧
    (∀ i r, reports.lookup i = some r →
      ∃ m flag c, members[i]? = some m ∧ f.stopped[i]? = some flag ∧
        r = if flag then (Dispatch.rest m c).1 else (m.step o c).1) ∧
    ((∃ i e restored, i < members.length ∧ FirstFailure f.map.name reports i e ∧
        reply.result = .error e ∧ reply.after = .ensemble f build restored ∧
        checkpoints restored = checkpoints members) ∨
      ∃ b g afters, reply.result = .ok b ∧ reply.after = .ensemble g build afters ∧
        g.state.generation = f.state.generation + 1 ∧ g.stopped.length = members.length ∧
        afters.length = members.length ∧
        ∀ i, i < members.length → ∃ r flag, reports.lookup i = some r ∧ r.result = .ok flag ∧
          g.stopped[i]? = some flag ∧ afters[i]? = some r.after) := by
  intro reports reply
  obtain ⟨ready, flags⟩ := initialized
  have hc : f.checkReady o = .ok () := Frame.checkReady_eq_ok_iff.2 ⟨ready, arity⟩
  have hturns := length_turns (Nat.le_of_eq flags.symm) (length_moves o members)
  refine ⟨?_, ?_, ?_⟩
  · intro i hi
    have hrun : reports.lookup i = none ↔ i ∉ f.map.dispatch _ :=
      Dispatch.lookup_run_eq_none_iff (hturns ▸ hi)
    rwa [hturns] at hrun
  · intro i r hr
    obtain ⟨m, flag, move, c, hm, hflag, hmove, hreply⟩ := of_lookup_replies hr
    rw [getElem?_moves, hm] at hmove
    cases hmove
    exact ⟨m, flag, c, hm, hflag, hreply⟩
  · rcases hv : Dispatch.verdicts f.map.name members.length reports with e | stopped
    · obtain ⟨hres, hafter⟩ := stepEnsemble_of_verdicts_error build hc going hv
      have nofault : e.fault? = none := by
        cases e with
        | fault c => exact absurd hres (returned c)
        | _ => rfl
      obtain ⟨_, i, hi, hout, before⟩ := Dispatch.verdicts_error hv nofault
      exact Or.inl ⟨i, e, _, hi, ⟨outcome_eq_error hout, before⟩, hres, hafter,
        checkpoints_restoreAll_afters (keepShape_moves o members)⟩
    · obtain ⟨hres, hafter⟩ := stepEnsemble_of_verdicts_ok build hc going hv
      obtain ⟨hlen, each⟩ := Dispatch.verdicts_ok hv
      obtain ⟨hgen, hstopped, _⟩ :=
        Frame.conclude_frame f stopped ((Dispatch.afters members reports).map state)
      cases hcon : (f.conclude stopped ((Dispatch.afters members reports).map state)).result with
      | error e =>
          obtain ⟨c, rfl⟩ := Frame.conclude_error hcon
          exact absurd (hres.trans hcon) (returned c)
      | ok b =>
          refine Or.inr ⟨b, _, _, hres.trans hcon, hafter, hgen, by rw [hstopped, hlen],
            Dispatch.length_afters, ?_⟩
          intro i hi
          obtain ⟨r, flag, hr, hok, hflag⟩ := each i hi
          obtain ⟨m, hm⟩ : ∃ m, members[i]? = some m := ⟨_, List.getElem?_eq_getElem hi⟩
          exact ⟨r, flag, hr, hok, by rw [hstopped, hflag], Dispatch.getElem?_afters_of_some hm hr⟩

/-! ### A generation that fails half way -/

/-- A map that dispatches the last member first. -/
def backward : EvaluationMap Float :=
  { EvaluationMap.serial with
    name := "backward"
    dispatch := fun n => (List.range n).reverse }

/-- A compass search on a line, its start drawn and not yet evaluated. -/
def oneProbe : Solver Float :=
  .compass { Compass.standard 1 with
    state := .start ⟨1, [[3]]⟩
    ready := true }

/-- The frame of an ensemble of two members. -/
def pairFrame : Frame Float :=
  { Frame.make 1 (.scattershot 2) with
    map := backward
    stopped := [false, false]
    ready := true }

/-- A run of differential evolution and a compass search, stepped together. -/
def pairMembers : List (Solver Float) := [oneMember, oneProbe]

/-- What becomes of the members is not asked here, so any builder will do. -/
def pairBuild : Builder Float := (MemberPlan.plain 1 none).builder 1

/-- The compass search makes three evaluations and succeeds; the run of differential
evolution begins with the fourth one, and its trials fail at the fifth.  So one member
has moved and the other one is half way through its first generation when the
generation of the two is taken back. -/
theorem generation_all_or_nothing_pair :
    ∃ i e restored, i < pairMembers.length ∧
      FirstFailure pairFrame.map.name
        (replies pairFrame pairMembers (Solver.moves Evolution.downAtFifth pairMembers) 0) i e ∧
      ((Solver.ensemble pairFrame pairBuild pairMembers).step
        Evolution.downAtFifth 0).1.result = .error e ∧
      ((Solver.ensemble pairFrame pairBuild pairMembers).step
        Evolution.downAtFifth 0).1.after = .ensemble pairFrame pairBuild restored ∧
      checkpoints restored = checkpoints pairMembers := by
  have failed : failsInEvaluation ((Solver.ensemble pairFrame pairBuild pairMembers).step
      Evolution.downAtFifth 0).1.result = true := by decide +kernel
  have h := generation_all_or_nothing pairFrame pairBuild pairMembers Evolution.downAtFifth 0
    ⟨rfl, rfl⟩ rfl rfl (ne_fault_of_test failed)
  rcases h.2.2 with abandoned | ⟨b, _, _, committed, _⟩
  · exact abandoned
  · exact absurd committed (ne_ok_of_test failed b)

end Solver
end BoxSearch

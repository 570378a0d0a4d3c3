import BoxSearch.Proofs.Ensemble.Generation

/-!
# A checkpoint that is rejected

A checkpoint goes back into an ensemble member by member.  When it was taken of another
family, or of another number of members, it is rejected before any member is asked.  When
a member refuses its part, the members before it have taken theirs already, and nobody
takes these back.

* `checkpoint_of_restore_ok` — a solver that takes a checkpoint has it afterwards;
* `restoreAll_error` — which members a refusal leaves restored;
* `rejected_restore_keeps_iff` — what a rejected checkpoint leaves of an ensemble, and when
  that is what it was before;
* `rejected_restore_changes_member` — a case in which it is not.
-/

namespace BoxSearch
namespace Solver

variable {α : Type} [Scalar α] {e : SolverError}

variable {f : Frame α} {build : Builder α} {ms ns : List (Solver α)}
variable {state : State α} {stopped : List Bool} {cs : List (Checkpoint α)}

/-! ## The ways in which an ensemble takes a checkpoint -/

theorem restore_of_count (hl : cs.length ≠ ms.length) :
    (Solver.ensemble f build ms).restore (.ensemble state stopped cs) =
      (.error (.dimensionMismatch "ensemble checkpoint" ms.length cs.length),
        .ensemble f build ms) := by
  rw [restore, if_pos hl]

theorem restore_of_refusal (hl : cs.length = ms.length)
    (hx : restoreAll ms cs = (.error e, ns)) :
    (Solver.ensemble f build ms).restore (.ensemble state stopped cs) =
      (.error e, .ensemble f build ns) := by
  rw [restore, if_neg (fun h => h hl), hx]

theorem restore_of_success (hl : cs.length = ms.length) (hx : restoreAll ms cs = (.ok (), ns)) :
    (Solver.ensemble f build ms).restore (.ensemble state stopped cs) =
      (.ok (), .ensemble { f with state, stopped } build ns) := by
  rw [restore, if_neg (fun h => h hl), hx]

mutual

/-- A solver that takes a checkpoint has it afterwards. -/
theorem checkpoint_of_restore_ok : ∀ (s : Solver α) (c : Checkpoint α),
    (s.restore c).1 = .ok () → (s.restore c).2.checkpoint = c
  | .evolution _, .evolution .., _ => rfl
  | .compass _, .compass .., _ => rfl
  | .ensemble f build ms, .ensemble state stopped cs, h => by
      have all := checkpoints_of_restoreAll_ok ms cs
      by_cases hl : cs.length = ms.length
      · rcases hx : restoreAll ms cs with ⟨e | u, ns⟩
        · rw [restore_of_refusal hl hx] at h
          cases h
        · rw [restore_of_success hl hx]
          rw [hx] at all
          exact congrArg (Checkpoint.ensemble state stopped) (all hl rfl)
      · rw [restore_of_count hl] at h
        cases h
  | .evolution _, .compass .., h => by cases h
  | .evolution _, .ensemble .., h => by cases h
  | .compass _, .evolution .., h => by cases h
  | .compass _, .ensemble .., h => by cases h
  | .ensemble .., .evolution .., h => by cases h
  | .ensemble .., .compass .., h => by cases h

theorem checkpoints_of_restoreAll_ok : ∀ (ms : List (Solver α)) (cs : List (Checkpoint α)),
    cs.length = ms.length → (restoreAll ms cs).1 = .ok () → checkpoints (restoreAll ms cs).2 = cs
  | [], [], _, _ => rfl
  | [], _ :: _, hl, _ => by cases hl
  | _ :: _, [], hl, _ => by cases hl
  | m :: ms, c :: cs, hl, h => by
      have first := checkpoint_of_restore_ok m c
      have others := checkpoints_of_restoreAll_ok ms cs (Nat.succ.inj hl)
      unfold restoreAll at h ⊢
      rcases hx : restore m c with ⟨e | u, n⟩
      · rw [hx] at h
        cases h
      · rw [hx] at first h
        exact congrArg₂ List.cons (first rfl) (others h)

end

/-- **A refusal leaves the members before it restored** and those behind it alone; the
member that refuses is what its own refusal has made of it. -/
theorem restoreAll_error : ∀ (ms : List (Solver α)) (cs : List (Checkpoint α)),
    (restoreAll ms cs).1 = .error e →
      ∃ i m c, ms[i]? = some m ∧ cs[i]? = some c ∧ (m.restore c).1 = .error e ∧
        checkpoints (restoreAll ms cs).2 =
          cs.take i ++ (m.restore c).2.checkpoint :: (checkpoints ms).drop (i + 1)
  | [], [], h => by cases h
  | [], _ :: _, h => by cases h
  | _ :: _, [], h => by cases h
  | m :: ms, c :: cs, h => by
      have first := checkpoint_of_restore_ok m c
      have others := restoreAll_error ms cs
      unfold restoreAll at h ⊢
      rcases hx : restore m c with ⟨e' | u, n⟩
      · rw [hx] at h
        cases h
        exact ⟨0, m, c, rfl, rfl, by rw [hx], by rw [hx]; rfl⟩
      · rw [hx] at first h
        obtain ⟨i, m', c', hm, hc, refused, parts⟩ := others h
        refine ⟨i + 1, m', c', hm, hc, refused, ?_⟩
        exact congrArg₂ List.cons (first rfl) parts

theorem split_checkpoints {i : Nat} {m : Solver α} (hm : ms[i]? = some m) :
    checkpoints ms = (checkpoints ms).take i ++ m.checkpoint :: (checkpoints ms).drop (i + 1) := by
  obtain ⟨hi, hget⟩ := List.getElem?_eq_some_iff.1 hm
  have here : i < (checkpoints ms).length := by rwa [checkpoints_eq_map, List.length_map]
  have place : (checkpoints ms)[i] = m.checkpoint := by
    simp only [checkpoints_eq_map, List.getElem_map, hget]
  rw [← place, List.getElem_cons_drop, List.take_append_drop]

/-- **What a rejected checkpoint leaves of an ensemble.**  State, flags and everything else
of the frame are what they were.  So are all members, if the checkpoint is not one of an
ensemble with as many members.  Otherwise there is a first member that refuses its part:
the members before it have taken theirs, and the members behind it are what they were.
Then nothing is changed exactly if those before it were at their checkpoints already and
the refusal of the one has changed nothing in it. -/
theorem rejected_restore_keeps_iff (f : Frame α) (build : Builder α) (ms : List (Solver α))
    (c : Checkpoint α) (rejected : ((Solver.ensemble f build ms).restore c).1 = .error e) :
    ∃ ns, ((Solver.ensemble f build ms).restore c).2 = .ensemble f build ns ∧
      (((∀ state stopped cs, c = .ensemble state stopped cs → cs.length ≠ ms.length) ∧ ns = ms) ∨
        ∃ state stopped cs i m d, c = .ensemble state stopped cs ∧ cs.length = ms.length ∧
          ms[i]? = some m ∧ cs[i]? = some d ∧ (m.restore d).1 = .error e ∧
          checkpoints ns =
            cs.take i ++ (m.restore d).2.checkpoint :: (checkpoints ms).drop (i + 1) ∧
          (checkpoints ns = checkpoints ms ↔
            cs.take i = (checkpoints ms).take i ∧ (m.restore d).2.checkpoint = m.checkpoint)) := by
  cases c with
  | evolution state generator evaluated =>
      exact ⟨ms, rfl, Or.inl ⟨(fun _ _ _ h => by cases h), rfl⟩⟩
  | compass state steps evaluated =>
      exact ⟨ms, rfl, Or.inl ⟨(fun _ _ _ h => by cases h), rfl⟩⟩
  | ensemble state stopped cs =>
      by_cases hl : cs.length = ms.length
      · rcases hx : restoreAll ms cs with ⟨e' | u, ns⟩
        · rw [restore_of_refusal hl hx] at rejected ⊢
          cases rejected
          obtain ⟨i, m, d, hm, hd, refused, parts⟩ := restoreAll_error ms cs (by rw [hx])
          rw [hx] at parts
          refine ⟨ns, rfl, Or.inr ⟨state, stopped, cs, i, m, d, rfl, hl, hm, hd, refused, parts, ?_⟩⟩
          -- both lists fall apart at the place of the refusal
          have lengths : (cs.take i).length = ((checkpoints ms).take i).length := by
            rw [List.length_take, List.length_take, checkpoints_eq_map, List.length_map, hl]
          constructor
          · intro kept
            obtain ⟨before, rest⟩ :=
              List.append_inj (parts.symm.trans (kept.trans (split_checkpoints hm))) lengths
            exact ⟨before, (List.cons.inj rest).1⟩
          · rintro ⟨before, here⟩
            rw [parts, before, here, ← split_checkpoints hm]
        · rw [restore_of_success hl hx] at rejected
          cases rejected
      · rw [restore_of_count hl]
        refine ⟨ms, rfl, Or.inl ⟨?_, rfl⟩⟩
        rintro _ _ _ h
        cases h
        exact hl

/-! ### A checkpoint that fits one member and not the other -/

/-- The member of a population after its first generation. -/
def steppedMember : Solver Float := (oneMember.step (.ofFunction squares) 0).1.after

/-- The checkpoint of an ensemble of two such members. -/
def steppedPair : Checkpoint Float :=
  (Solver.ensemble pairFrame pairBuild [steppedMember, steppedMember]).checkpoint

theorem steppedPair_rejected :
    ((Solver.ensemble pairFrame pairBuild pairMembers).restore steppedPair).1 =
      .error (.configuration .foreignCheckpoint) := rfl

/-- The conditions of `rejected_restore_keeps_iff` are met by an ensemble of a population and
a compass search that is handed the checkpoint of two populations: it is a member that
refuses. -/
theorem rejected_restore_keeps_iff_pair :
    ∃ ns i m d, ((Solver.ensemble pairFrame pairBuild pairMembers).restore steppedPair).2 =
        .ensemble pairFrame pairBuild ns ∧
      pairMembers[i]? = some m ∧ (m.restore d).1 = .error (.configuration .foreignCheckpoint) ∧
      checkpoints ns = (checkpoints [steppedMember, steppedMember]).take i ++
        (m.restore d).2.checkpoint :: (checkpoints pairMembers).drop (i + 1) := by
  obtain ⟨ns, after, ⟨foreign, _⟩ | ⟨_, _, _, i, m, d, ensemble, _, hm, _, refused, parts, _⟩⟩ :=
    rejected_restore_keeps_iff pairFrame pairBuild pairMembers steppedPair steppedPair_rejected
  · exact absurd rfl (foreign _ _ _ rfl)
  · cases ensemble
    exact ⟨ns, i, m, d, after, hm, refused, parts⟩

/-- A rejected checkpoint does not always change nothing: the population takes its part
before the compass search refuses, and stays where the checkpoint was taken. -/
theorem rejected_restore_changes_member :
    ((Solver.ensemble pairFrame pairBuild pairMembers).restore steppedPair).1 =
        .error (.configuration .foreignCheckpoint) ∧
      ∃ m, ((Solver.ensemble pairFrame pairBuild pairMembers).restore steppedPair).2 =
          .ensemble pairFrame pairBuild [m, oneProbe] ∧
        oneMember.state.evaluations = 0 ∧ m.state.evaluations = 2 := by
  refine ⟨rfl, _, rfl, rfl, ?_⟩
  decide +kernel

end Solver
end BoxSearch

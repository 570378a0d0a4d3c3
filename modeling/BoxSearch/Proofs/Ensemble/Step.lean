import BoxSearch.Proofs.Criterion.Asking
import BoxSearch.Proofs.Ensemble.Dispatch
import BoxSearch.Solver.Tree

/-!
# What a generation of an ensemble comes to

A generation of an ensemble is decided by the replies of its members.  `turns` are the
moves that the map dispatches, a member that has stopped having only one, which is to
rest.  From their replies the generation is abandoned or concluded.

* `stepEnsemble_of_verdicts_error` and `stepEnsemble_of_verdicts_ok` — the two ways
  in which a generation ends;
* `conclude_ok` and `conclude_error` — what the frame adds to the replies of a
  generation in which every member succeeded.
-/

namespace BoxSearch

namespace Frame

variable {α : Type} [Scalar α]
variable {f : Frame α} {o : Objective α} {stopped : List Bool} {states : List (State α)}
variable {b : Bool} {e : SolverError}

theorem checkReady_eq_ok_iff :
    f.checkReady o = .ok () ↔ f.ready = true ∧ o.checkDimension f.dim = .ok () := by
  unfold checkReady
  cases f.ready with
  | false => simp [bind, Except.bind]
  | true => simp

/-- The aggregate that a generation commits, up to the question whether the run
stops. -/
def aggregated (f : Frame α) (stopped : List Bool) (states : List (State α)) : Frame α :=
  let state := aggregate { f.state with status := .running } f.dim states
  { f with stopped, state := { state with generation := state.generation + 1 } }

/-- Why an ensemble stops of itself: its members come before the limits. -/
def ownReason? (f : Frame α) : Option String :=
  (if f.stopped.all id then some "All members stopped" else none).or (f.limits.reason? f.state)

/-- The frame after the question whether the run ends was answered. -/
def concluded (f : Frame α) (reason : Option String) : Frame α :=
  match reason.or f.ownReason? with
  | some reason => { f with state := { f.state with status := .terminated reason } }
  | none => f

theorem checkStop_of_askWatch {reason : Option String} {watch : Option Watch}
    (h : askWatch f.state f.watch = .ok (reason, watch)) :
    f.checkStop.result = .ok (reason.or f.ownReason?).isSome ∧
      f.checkStop.after = ({ f with watch } : Frame α).concluded reason := by
  have hown : (if ({ f with watch } : Frame α).stopped.all id
      then some "All members stopped" else none).or (f.limits.reason? f.state) = f.ownReason? := rfl
  have hown' : ({ f with watch } : Frame α).ownReason? = f.ownReason? := rfl
  unfold checkStop concluded
  simp only [h, hown, hown']
  cases reason.or f.ownReason? with
  | none => exact ⟨rfl, rfl⟩
  | some r => exact ⟨rfl, rfl⟩

theorem checkStop_of_askWatch_error (h : askWatch f.state f.watch = .error e) :
    f.checkStop = .refuse f e := by
  unfold checkStop
  rw [h]

/-- What a generation commits: the aggregate of the members, and whether the run goes
on. -/
theorem conclude_ok (h : (f.conclude stopped states).result = .ok b) :
    ∃ reason watch, askWatch (f.aggregated stopped states).state f.watch = .ok (reason, watch) ∧
      b = (reason.or (f.aggregated stopped states).ownReason?).isSome ∧
      (f.conclude stopped states).after =
        ({ f.aggregated stopped states with watch } : Frame α).concluded reason := by
  change (f.aggregated stopped states).checkStop.result = .ok b at h
  change ∃ reason watch, _ ∧ _ ∧ (f.aggregated stopped states).checkStop.after = _
  cases ha : askWatch (f.aggregated stopped states).state (f.aggregated stopped states).watch with
  | error e => rw [checkStop_of_askWatch_error ha] at h; cases h
  | ok p =>
      obtain ⟨reason, watch⟩ := p
      obtain ⟨hr, hs⟩ := checkStop_of_askWatch ha
      rw [hr] at h
      cases h
      exact ⟨reason, watch, ha, rfl, hs⟩

/-- Only a criterion that has no answer keeps a generation from being committed. -/
theorem conclude_error (h : (f.conclude stopped states).result = .error e) :
    ∃ c, e = .fault c := by
  change (f.aggregated stopped states).checkStop.result = .error e at h
  cases ha : askWatch (f.aggregated stopped states).state (f.aggregated stopped states).watch with
  | ok p =>
      obtain ⟨reason, watch⟩ := p
      rw [(checkStop_of_askWatch ha).1] at h
      cases h
  | error e' =>
      rw [checkStop_of_askWatch_error ha] at h
      cases h
      exact fault_of_askWatch ha

theorem concluded_frame (f : Frame α) (reason : Option String) :
    (f.concluded reason).state.generation = f.state.generation ∧
      (f.concluded reason).stopped = f.stopped ∧ (f.concluded reason).ready = f.ready := by
  unfold concluded
  split <;> exact ⟨rfl, rfl, rfl⟩

/-- Exactly one generation is counted, and the members' flags are those handed in. -/
theorem conclude_frame (f : Frame α) (stopped : List Bool) (states : List (State α)) :
    (f.conclude stopped states).after.state.generation = f.state.generation + 1 ∧
      (f.conclude stopped states).after.stopped = stopped ∧
      (f.conclude stopped states).after.ready = f.ready := by
  change (f.aggregated stopped states).checkStop.after.state.generation = _ ∧
    (f.aggregated stopped states).checkStop.after.stopped = _ ∧
    (f.aggregated stopped states).checkStop.after.ready = _
  cases ha : askWatch (f.aggregated stopped states).state (f.aggregated stopped states).watch with
  | error e =>
      rw [checkStop_of_askWatch_error ha]
      exact ⟨rfl, rfl, rfl⟩
  | ok p =>
      obtain ⟨reason, watch⟩ := p
      rw [(checkStop_of_askWatch ha).2]
      exact concluded_frame _ reason

theorem concluded_withMap (f : Frame α) (d : EvaluationMap α) (reason : Option String) :
    ({ f with map := d } : Frame α).concluded reason = { f.concluded reason with map := d } := by
  have hown : ({ f with map := d } : Frame α).ownReason? = f.ownReason? := rfl
  simp only [concluded, hown]
  cases reason.or f.ownReason? with
  | none => rfl
  | some r => rfl

/-- The map of a frame has no part in the conclusion of a generation. -/
theorem conclude_withMap (f : Frame α) (d : EvaluationMap α) (stopped : List Bool)
    (states : List (State α)) :
    (({ f with map := d } : Frame α).conclude stopped states).result =
        (f.conclude stopped states).result ∧
      (({ f with map := d } : Frame α).conclude stopped states).after =
        { (f.conclude stopped states).after with map := d } := by
  change (({ f.aggregated stopped states with map := d } : Frame α).checkStop).result =
      (f.aggregated stopped states).checkStop.result ∧
    (({ f.aggregated stopped states with map := d } : Frame α).checkStop).after =
      { (f.aggregated stopped states).checkStop.after with map := d }
  cases ha : askWatch (f.aggregated stopped states).state (f.aggregated stopped states).watch with
  | error e =>
      have ha' : askWatch ({ f.aggregated stopped states with map := d } : Frame α).state
        ({ f.aggregated stopped states with map := d } : Frame α).watch = .error e := ha
      rw [checkStop_of_askWatch_error ha, checkStop_of_askWatch_error ha']
      exact ⟨rfl, rfl⟩
  | ok p =>
      obtain ⟨reason, watch⟩ := p
      have ha' : askWatch ({ f.aggregated stopped states with map := d } : Frame α).state
        ({ f.aggregated stopped states with map := d } : Frame α).watch = .ok (reason, watch) := ha
      rw [(checkStop_of_askWatch ha).1, (checkStop_of_askWatch ha).2,
        (checkStop_of_askWatch ha').1, (checkStop_of_askWatch ha').2]
      exact ⟨rfl, concluded_withMap { f.aggregated stopped states with watch } d reason⟩

end Frame

namespace Solver

variable {α : Type} [Scalar α]
variable {f : Frame α} {build : Builder α} {members : List (Solver α)} {o : Objective α}
variable {moves : List (Dispatch.Move (Solver α) α)} {calls i : Nat} {b : Bool} {e : SolverError}

/-! ## Turns -/

theorem length_moves (o : Objective α) :
    ∀ ms : List (Solver α), (Solver.moves o ms).length = ms.length
  | [] => rfl
  | _ :: ms => congrArg Nat.succ (length_moves o ms)

/-- The move of a member is its own step. -/
theorem getElem?_moves (o : Objective α) :
    ∀ (ms : List (Solver α)) (i : Nat), (Solver.moves o ms)[i]? = ms[i]?.map (step o)
  | [], _ => rfl
  | _ :: _, 0 => rfl
  | _ :: ms, i + 1 => getElem?_moves o ms i

/-- The moves that are dispatched: those of the active members, while the others rest. -/
def turns (stopped : List Bool) (members : List (Solver α))
    (moves : List (Dispatch.Move (Solver α) α)) : List (Dispatch.Move (Solver α) α) :=
  List.zipWith (fun (ms : Solver α × Bool) move => if ms.2 then Dispatch.rest ms.1 else move)
    (members.zip stopped) moves

theorem length_turns {stopped : List Bool} (flags : members.length ≤ stopped.length)
    (hm : moves.length = members.length) :
    (turns stopped members moves).length = members.length := by
  simp [turns, hm, flags]

theorem of_getElem?_turns {stopped : List Bool} {turn : Dispatch.Move (Solver α) α}
    (h : (turns stopped members moves)[i]? = some turn) :
    ∃ m flag move, members[i]? = some m ∧ stopped[i]? = some flag ∧ moves[i]? = some move ∧
      turn = if flag then Dispatch.rest m else move := by
  simp only [turns, List.getElem?_zipWith_eq_some] at h
  obtain ⟨⟨m, flag⟩, move, hz, hmove, ht⟩ := h
  rw [List.getElem?_zip_eq_some] at hz
  exact ⟨m, flag, move, hz.1, hz.2, hmove, ht.symm⟩

/-- The replies of a generation. -/
def replies (f : Frame α) (members : List (Solver α)) (moves : List (Dispatch.Move (Solver α) α))
    (calls : Nat) : List (Nat × Reply (Solver α) α Bool) :=
  (Dispatch.run f.map (turns f.stopped members moves) calls).1

/-- A reply is that of a member's rest, if it has stopped, and that of its move
otherwise. -/
theorem of_mem_replies {p : Nat × Reply (Solver α) α Bool}
    (h : p ∈ replies f members moves calls) :
    ∃ m flag move c, members[p.1]? = some m ∧ f.stopped[p.1]? = some flag ∧
      moves[p.1]? = some move ∧ p.2 = if flag then (Dispatch.rest m c).1 else (move c).1 := by
  obtain ⟨_, turn, c, hturn, hr⟩ := Dispatch.of_mem_runAll h
  obtain ⟨m, flag, move, hm, hflag, hmove, rfl⟩ := of_getElem?_turns hturn
  refine ⟨m, flag, move, c, hm, hflag, hmove, ?_⟩
  rw [← hr]
  cases flag <;> rfl

theorem of_lookup_replies {r : Reply (Solver α) α Bool}
    (h : (replies f members moves calls).lookup i = some r) :
    ∃ m flag move c, members[i]? = some m ∧ f.stopped[i]? = some flag ∧ moves[i]? = some move ∧
      r = if flag then (Dispatch.rest m c).1 else (move c).1 :=
  of_mem_replies (Dispatch.mem_of_lookup h)

/-- What the moves of the members keep, they keep together, however they were
dispatched. -/
theorem map_afters {β : Type} {φ : Solver α → β} (f : Frame α) (calls : Nat)
    (h : ∀ (i : Nat) m move, members[i]? = some m → moves[i]? = some move →
      ∀ calls, φ (move calls).1.after = φ m) :
    (Dispatch.afters members (replies f members moves calls)).map φ = members.map φ := by
  refine List.ext_getElem? fun i => ?_
  rw [List.getElem?_map, List.getElem?_map]
  cases hr : (replies f members moves calls).lookup i with
  | none => rw [Dispatch.getElem?_afters_of_none hr]
  | some r =>
      obtain ⟨m, flag, move, c, hm, _, hmove, hreply⟩ := of_lookup_replies hr
      rw [Dispatch.getElem?_afters_of_some hm hr, hm, Option.map_some, Option.map_some, hreply]
      cases flag with
      | true => rfl
      | false => exact congrArg some (h i m move hm hmove c)

/-! ## The ways a generation ends -/

theorem stepEnsemble_of_refused (hc : f.checkReady o = .error e) :
    stepEnsemble f build members moves o calls =
      (.refuse (.ensemble f build members) e, calls) := by
  unfold stepEnsemble
  rw [hc]

theorem stepEnsemble_of_ended (hc : f.checkReady o = .ok ()) (ended : f.state.isTerminated = true) :
    stepEnsemble f build members moves o calls =
      (.done (.ensemble f build members) true [], calls) := by
  unfold stepEnsemble
  rw [hc]
  exact if_pos ended

/-- A generation that is abandoned is taken back in every member. -/
theorem stepEnsemble_of_verdicts_error (build : Builder α) (hc : f.checkReady o = .ok ())
    (going : f.state.isTerminated = false)
    (hv : Dispatch.verdicts f.map.name members.length (replies f members moves calls) = .error e) :
    (stepEnsemble f build members moves o calls).1.result = .error e ∧
      (stepEnsemble f build members moves o calls).1.after = .ensemble f build
        (restoreAll (Dispatch.afters members (replies f members moves calls))
          (checkpoints members)).2 := by
  unfold replies turns at hv ⊢
  unfold stepEnsemble
  simp only [hc, going, Bool.false_eq_true, if_false, hv]
  exact ⟨trivial, trivial⟩

/-- A generation in which every member succeeded is concluded by the frame. -/
theorem stepEnsemble_of_verdicts_ok {flags : List Bool} (build : Builder α)
    (hc : f.checkReady o = .ok ())
    (going : f.state.isTerminated = false)
    (hv : Dispatch.verdicts f.map.name members.length (replies f members moves calls) = .ok flags) :
    let afters := Dispatch.afters members (replies f members moves calls)
    (stepEnsemble f build members moves o calls).1.result =
        (f.conclude flags (afters.map state)).result ∧
      (stepEnsemble f build members moves o calls).1.after =
        .ensemble (f.conclude flags (afters.map state)).after build afters := by
  unfold replies turns at hv ⊢
  unfold stepEnsemble
  simp only [hc, going, Bool.false_eq_true, if_false, hv]
  exact ⟨rfl, rfl⟩

end Solver
end BoxSearch

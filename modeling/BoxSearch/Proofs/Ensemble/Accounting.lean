import BoxSearch.Proofs.Compass.Accounting
import BoxSearch.Proofs.Ensemble.Members
import BoxSearch.Proofs.Evolution.Accounting

/-!
# The accounts of an ensemble

The counter of an ensemble is the sum of its members' counters, and what its members
evaluate is heard as they evaluate it.  A generation that is abandoned takes every member
and every counter back, but not what was heard.  So the log of an ensemble has as many
records as its counter says, and beside these the records of all generations that were
abandoned.

* `Checkpoint.Summed` — at every depth the counter of an ensemble is the sum of its
  members';
* `total_afters` — the moves of a generation add to the members' counters what they record,
  in whatever order a map dispatches them;
* `accounts_step` — a step that succeeds records as much as it counts, by recursion on the
  tree of members;
* `evaluations_counted_iff` — what a log holds after any number of attempts, and when it
  has as many records as the counter says;
* `evaluations_not_counted` — a run in which it has more.
-/

namespace BoxSearch

/-! ## Adding up replies -/

theorem nodup_eraseDups {β : Type} [BEq β] [LawfulBEq β] : ∀ l : List β, l.eraseDups.Nodup
  | [] => by simp
  | x :: xs => by
      rw [List.eraseDups_cons, List.nodup_cons]
      refine ⟨?_, nodup_eraseDups _⟩
      rw [List.mem_eraseDups, List.mem_filter]
      simp
termination_by l => l.length
decreasing_by exact Nat.lt_succ_of_le (List.length_filter_le _ _)

theorem sum_set_add {l : List Nat} {i x : Nat} (hi : l[i]? = some x) (y : Nat) :
    (l.set i y).sum + x = l.sum + y := by
  induction l generalizing i with
  | nil => cases hi
  | cons z l ih =>
      cases i with
      | zero =>
          cases hi
          simp only [List.set_cons_zero, List.sum_cons]
          omega
      | succ i =>
          have rest := ih hi
          simp only [List.set_cons_succ, List.sum_cons]
          omega

namespace Dispatch

variable {σ α : Type} {moves : List (Move σ α)} {order : List Nat} {calls : Nat}
variable {replies : List (Nat × Reply σ α Bool)} {members : List σ}

/-- Every reply is that of a member that was named, and they come in that order. -/
theorem keys_runAll :
    (runAll moves order calls).1.map (·.1) = order.filter fun i => moves[i]?.isSome := by
  induction order generalizing calls with
  | nil => rfl
  | cons i order ih =>
      rw [runAll]
      cases hm : moves[i]? with
      | none => simp [hm, ih]
      | some move => simp [hm, ih]

/-- No member has two replies. -/
theorem nodup_keys_run (map : EvaluationMap α) :
    ((run map moves calls).1.map (·.1)).Nodup := by
  rw [run, keys_runAll]
  exact (nodup_eraseDups _).filter _

theorem lookup_of_mem (nodup : (replies.map (·.1)).Nodup) {p : Nat × Reply σ α Bool}
    (h : p ∈ replies) : replies.lookup p.1 = some p.2 := by
  obtain ⟨before, later, rfl⟩ := List.append_of_mem h
  refine List.lookup_eq_some_iff.2 ⟨before, later, rfl, fun q hq => ?_⟩
  simp only [List.map_append, List.map_cons, List.nodup_append] at nodup
  have apart := nodup.2.2 q.1 (List.mem_map_of_mem hq) p.1 (by simp)
  simpa using Ne.symm apart

theorem afters_nil : afters members ([] : List (Nat × Reply σ α Bool)) = members := by
  refine List.ext_getElem? fun i => ?_
  rw [getElem?_afters_of_none rfl]

/-- The first reply decides about its member, and the others about the rest. -/
theorem afters_cons (j : Nat) (r : Reply σ α Bool) :
    afters members ((j, r) :: replies) = (afters members replies).set j r.after := by
  refine List.ext_getElem? fun i => ?_
  rw [List.getElem?_set, length_afters]
  by_cases hi : j = i
  · subst hi
    by_cases hlt : j < members.length
    · simp [afters, hlt]
    · simp [afters, hlt]
  · have hne : (i == j) = false := beq_false_of_ne (Ne.symm hi)
    rw [if_neg hi]
    simp only [afters, List.getElem?_mapIdx, List.lookup_cons, hne]

/-- The members' generations are left out of what is heard, but not their evaluations. -/
theorem numbers_events_cons (j : Nat) (r : Reply σ α Bool) :
    Event.numbers (events ((j, r) :: replies)) =
      Event.numbers r.events ++ Event.numbers (events replies) := by
  unfold events
  rw [List.flatMap_cons, List.filter_append, Event.numbers_append, Event.numbers_filter]

/-- What the members count together grows by what their replies record. -/
theorem total_afters (spent : σ → Nat) (nodup : (replies.map (·.1)).Nodup)
    (grown : ∀ p ∈ replies, ∃ m, members[p.1]? = some m ∧
      spent p.2.after = spent m + (Event.numbers p.2.events).length) :
    ((afters members replies).map spent).sum =
      (members.map spent).sum + (Event.numbers (events replies)).length := by
  induction replies with
  | nil => rw [afters_nil]; rfl
  | cons p replies ih =>
      obtain ⟨j, r⟩ := p
      rw [List.map_cons, List.nodup_cons] at nodup
      obtain ⟨⟨m, hm, more⟩, later⟩ := List.forall_mem_cons.1 grown
      have rest := ih nodup.2 later
      -- no other reply is that of member `j`, so the rest has left it as it was
      have untouched : (afters members replies)[j]? = some m := by
        rw [getElem?_afters_of_none, hm]
        refine List.lookup_eq_none_iff.2 fun q hq => ?_
        have apart : q.1 ≠ j := fun h => nodup.1 (List.mem_map.2 ⟨q, hq, h⟩)
        simpa using Ne.symm apart
      have here : ((afters members replies).map spent)[j]? = some (spent m) := by
        rw [List.getElem?_map, untouched, Option.map_some]
      have exchanged := sum_set_add here (spent r.after)
      rw [afters_cons, List.map_set, numbers_events_cons, List.length_append]
      simp only at more
      omega

end Dispatch

/-! ## Sums at every depth -/

namespace Checkpoint

variable {α : Type}

mutual

/-- At every depth the counter of an ensemble is the sum of its members'. -/
def Summed : Checkpoint α → Prop
  | .evolution .. => True
  | .compass .. => True
  | .ensemble state _ cs => state.evaluations = (cs.map (·.state.evaluations)).sum ∧ SummedAll cs

/-- So it is in several checkpoints. -/
def SummedAll : List (Checkpoint α) → Prop
  | [] => True
  | c :: cs => Summed c ∧ SummedAll cs

end

theorem summedAll_iff {cs : List (Checkpoint α)} : SummedAll cs ↔ ∀ c ∈ cs, Summed c := by
  induction cs with
  | nil => simp [SummedAll]
  | cons c cs ih => rw [SummedAll, ih, List.forall_mem_cons]

end Checkpoint

namespace Frame

variable {α : Type} [Scalar α] (f : Frame α) (flags : List Bool) (states : List (State α))

theorem checkStop_spends_nothing :
    Event.numbers f.checkStop.events = [] ∧
      f.checkStop.after.state.evaluations = f.state.evaluations := by
  unfold checkStop
  cases askWatch f.state f.watch with
  | error e => exact ⟨rfl, rfl⟩
  | ok answer =>
      obtain ⟨reason, watch⟩ := answer
      dsimp only
      split <;> exact ⟨rfl, rfl⟩

/-- A frame evaluates nothing itself. -/
theorem numbers_conclude : Event.numbers (f.conclude flags states).events = [] :=
  (f.aggregated flags states).checkStop_spends_nothing.1

/-- What a frame counts is what its members count. -/
theorem evaluations_conclude :
    (f.conclude flags states).after.state.evaluations = (states.map (·.evaluations)).sum :=
  (f.aggregated flags states).checkStop_spends_nothing.2

end Frame

namespace Solver

variable {α : Type} [Scalar α]
variable {f : Frame α} {build : Builder α} {members : List (Solver α)} {m s : Solver α}
variable {moves : List (Dispatch.Move (Solver α) α)} {o : Objective α} {calls : Nat}
variable {b : Bool} {e : SolverError}

/-- The evaluations that several solvers have spent. -/
def total (ms : List (Solver α)) : Nat := (ms.map fun m => m.state.evaluations).sum

theorem summed_ensemble_iff :
    (Solver.ensemble f build members).checkpoint.Summed ↔
      f.state.evaluations = total members ∧ ∀ m ∈ members, m.checkpoint.Summed := by
  have counters : ((checkpoints members).map (·.state.evaluations)).sum = total members := by
    rw [checkpoints_eq_map, List.map_map]
    congr 2
    funext m
    exact congrArg State.evaluations state_checkpoint
  rw [checkpoint, Checkpoint.Summed, counters, Checkpoint.summedAll_iff, checkpoints_eq_map,
    List.forall_mem_map]

/-! ## A step -/

/-- A reply accounts for its evaluations: the counter grew by as many as were recorded, and
the counters at every depth are sums. -/
def Accounts (s : Solver α) (r : Reply (Solver α) α Bool) : Prop :=
  r.after.checkpoint.Summed ∧
    r.after.state.evaluations = s.state.evaluations + (Event.numbers r.events).length

theorem accounts_rest (summed : m.checkpoint.Summed) (calls : Nat) :
    Accounts m (Dispatch.rest (α := α) m calls).1 :=
  ⟨summed, rfl⟩

/-- Moves that account for their evaluations whenever they succeed. -/
def Accountable (members : List (Solver α)) (moves : List (Dispatch.Move (Solver α) α)) : Prop :=
  ∀ (i : Nat) m move, members[i]? = some m → moves[i]? = some move → m.checkpoint.Summed →
    ∀ calls b, (move calls).1.result = .ok b → Accounts m (move calls).1

/-- What an abandoned or a committed generation reports of evaluations is what its members
reported. -/
theorem numbers_stepEnsemble (build : Builder α) (hc : f.checkReady o = .ok ())
    (going : f.state.isTerminated = false) :
    Event.numbers (stepEnsemble f build members moves o calls).1.events =
      Event.numbers (Dispatch.events (replies f members moves calls)) := by
  unfold replies turns stepEnsemble
  simp only [hc, going, Bool.false_eq_true, if_false]
  split
  · simp [Event.numbers_nil]
  · simp [Reply.preceded, Reply.lift, Frame.numbers_conclude]

theorem nodup_replies : ((replies f members moves calls).map (·.1)).Nodup :=
  Dispatch.nodup_keys_run f.map

/-- In a generation that is committed every reply accounts for its evaluations. -/
theorem accounts_of_mem_replies {name : String} {flags : List Bool}
    (accountable : Accountable members moves) (summed : ∀ m ∈ members, m.checkpoint.Summed)
    (hv : Dispatch.verdicts name members.length (replies f members moves calls) = .ok flags) :
    ∀ p ∈ replies f members moves calls, ∃ m, members[p.1]? = some m ∧ Accounts m p.2 := by
  intro p hp
  obtain ⟨m, flag, move, c, hm, _, hmove, hreply⟩ := of_mem_replies hp
  refine ⟨m, hm, ?_⟩
  have summed := summed m (List.mem_of_getElem? hm)
  cases flag with
  | true =>
      rw [hreply]
      exact accounts_rest summed c
  | false =>
      -- the reply of an active member is the one that the verdict found to have succeeded
      obtain ⟨r, b, hr, hb, _⟩ :=
        (Dispatch.verdicts_ok hv).2 p.1 (List.getElem?_eq_some_iff.1 hm).1
      rw [Dispatch.lookup_of_mem nodup_replies hp] at hr
      cases hr
      rw [hreply] at hb ⊢
      exact accountable p.1 m move hm hmove summed c b hb

theorem summed_afters (summed : ∀ m ∈ members, m.checkpoint.Summed)
    {replies : List (Nat × Reply (Solver α) α Bool)}
    (accounts : ∀ p ∈ replies, ∃ m, members[p.1]? = some m ∧ Accounts m p.2) :
    ∀ m ∈ Dispatch.afters members replies, m.checkpoint.Summed := by
  intro n hn
  obtain ⟨i, hi⟩ := List.mem_iff_getElem?.1 hn
  cases hr : replies.lookup i with
  | none =>
      rw [Dispatch.getElem?_afters_of_none hr] at hi
      exact summed n (List.mem_of_getElem? hi)
  | some r =>
      obtain ⟨m, hm, accounts⟩ := accounts _ (Dispatch.mem_of_lookup hr)
      rw [Dispatch.getElem?_afters_of_some hm hr] at hi
      cases hi
      exact accounts.1

/-- **A generation that is committed records as much as it counts.** -/
theorem accounts_stepEnsemble (accountable : Accountable members moves)
    (summed : (Solver.ensemble f build members).checkpoint.Summed)
    (h : (stepEnsemble f build members moves o calls).1.result = .ok b) :
    Accounts (.ensemble f build members) (stepEnsemble f build members moves o calls).1 := by
  rcases hc : f.checkReady o with e | u
  · rw [stepEnsemble_of_refused hc] at h
    cases h
  cases going : f.state.isTerminated with
  | true =>
      rw [stepEnsemble_of_ended hc going]
      exact ⟨summed, rfl⟩
  | false =>
      rcases hv : Dispatch.verdicts f.map.name members.length (replies f members moves calls) with
        e | flags
      · rw [(stepEnsemble_of_verdicts_error build hc going hv).1] at h
        cases h
      · obtain ⟨counter, each⟩ := summed_ensemble_iff.1 summed
        have accounts := accounts_of_mem_replies accountable each hv
        have grown := Dispatch.total_afters (fun m : Solver α => m.state.evaluations)
          nodup_replies fun p hp => (accounts p hp).imp fun _ h => ⟨h.1, h.2.2⟩
        have after := (stepEnsemble_of_verdicts_ok build hc going hv).2
        have spent := Frame.evaluations_conclude f flags
          ((Dispatch.afters members (replies f members moves calls)).map state)
        rw [List.map_map] at spent
        refine ⟨?_, ?_⟩
        · rw [after, summed_ensemble_iff]
          exact ⟨spent, summed_afters each accounts⟩
        · rw [after, numbers_stepEnsemble build hc going]
          show (f.conclude flags _).after.state.evaluations = f.state.evaluations + _
          rw [spent, counter]
          exact grown

mutual

/-- **A step that succeeds records as much as it counts**, at every depth. -/
theorem accounts_step (o : Objective α) : ∀ (s : Solver α), s.checkpoint.Summed →
    ∀ calls b, (s.step o calls).1.result = .ok b → Accounts s (s.step o calls).1
  | .evolution s, _, calls, _, _ => ⟨trivial, (Evolution.spends_step o calls).length_numbers⟩
  | .compass _, _, _, _, h => ⟨trivial, (Compass.spends_step_ok h).length_numbers⟩
  | .ensemble _ _ ms, summed, calls, b, h => by
      rw [step] at h ⊢
      exact accounts_stepEnsemble (accountable_moves o ms) summed h

theorem accountable_moves (o : Objective α) : ∀ ms : List (Solver α),
    Accountable ms (Solver.moves o ms)
  | [], _, _, _, hm, _ => by simp at hm
  | m :: _, 0, _, _, hm, hmove => by
      cases hm
      cases hmove
      exact accounts_step o m
  | _ :: ms, i + 1, n, move, hm, hmove => accountable_moves o ms i n move hm hmove

end

/-- A generation that is abandoned changes neither counters nor sums, though what its members
evaluated was heard. -/
theorem checkpoint_step_error
    (h : ((Solver.ensemble f build members).step o calls).1.result = .error e)
    (returned : e.fault? = none) :
    ((Solver.ensemble f build members).step o calls).1.after.checkpoint =
      (Solver.ensemble f build members).checkpoint := by
  rw [step] at h ⊢
  rcases hc : f.checkReady o with e' | u
  · rw [stepEnsemble_of_refused hc]
    rfl
  cases going : f.state.isTerminated with
  | true => rw [stepEnsemble_of_ended hc going] at h; cases h
  | false =>
      rcases hv : Dispatch.verdicts f.map.name members.length
          (replies f members (Solver.moves o members) calls) with e' | flags
      · rw [(stepEnsemble_of_verdicts_error build hc going hv).2, checkpoint, checkpoint,
          checkpoints_restoreAll_afters (keepShape_moves o members)]
      · rw [(stepEnsemble_of_verdicts_ok build hc going hv).1] at h
        obtain ⟨c, rfl⟩ := Frame.conclude_error h
        cases returned

/-- A step of an ensemble leaves an ensemble. -/
theorem exists_ensemble_step :
    ∃ g build' ms, ((Solver.ensemble f build members).step o calls).1.after =
      .ensemble g build' ms := by
  have kept := shape_step o (.ensemble f build members) calls
  cases hx : ((Solver.ensemble f build members).step o calls).1.after with
  | evolution s => rw [hx] at kept; cases kept
  | compass s => rw [hx] at kept; cases kept
  | ensemble g build' ms => exact ⟨g, build', ms, rfl⟩

/-! ## Attempts -/

/-- What the replies to the steps of an ensemble recorded: as much as its counter counts, and
what the generations that failed had recorded. -/
structure Tallied (rs : List (Reply (Solver α) α Bool)) (t : Solver α) : Prop where
  /-- it is an ensemble -/
  ensemble : ∃ g build' ms, t = .ensemble g build' ms
  /-- at every depth the counter is the sum of the members' -/
  summed : t.checkpoint.Summed
  /-- the number of records -/
  recorded : (Event.numbers (rs.flatMap (·.events))).length =
    t.state.evaluations + (rs.flatMap Reply.spilled).length

variable {rs : List (Reply (Solver α) α Bool)} {t : Solver α}

mutual

/-- Constraints are no part of a checkpoint. -/
theorem checkpoint_setConstraints (c : Constraints α) : ∀ s : Solver α,
    (s.setConstraints c).checkpoint = s.checkpoint
  | .evolution _ => rfl
  | .compass _ => rfl
  | .ensemble f _ ms =>
      congrArg (Checkpoint.ensemble f.state f.stopped) (checkpoints_setConstraintsAll c ms)

theorem checkpoints_setConstraintsAll (c : Constraints α) : ∀ ms : List (Solver α),
    checkpoints (setConstraintsAll c ms) = checkpoints ms
  | [] => rfl
  | m :: ms => by
      rw [setConstraintsAll, checkpoints, checkpoints, checkpoint_setConstraints c m,
        checkpoints_setConstraintsAll c ms]

end

/-- No setting is part of a checkpoint. -/
theorem checkpoint_of_tuned {said : List (Event α)} (h : s.Tuned said t) :
    t.checkpoint = s.checkpoint := by
  cases h with
  | strategy x => cases s <;> rfl
  | watch x => cases s <;> rfl
  | map x => cases s <;> rfl
  | limits x => cases s <;> rfl
  | init x => cases s <;> rfl
  | constraints x => exact checkpoint_setConstraints x s

theorem evaluations_of_checkpoint (h : t.checkpoint = s.checkpoint) :
    t.state.evaluations = s.state.evaluations := by
  rw [← state_checkpoint, h, state_checkpoint]

/-- A step adds to the log as much as it counts, or it fails and counts nothing. -/
theorem Tallied.step (h : Tallied rs t)
    (returned : ∀ c, (t.step o calls).1.result ≠ .error (.fault c)) :
    Tallied (rs ++ [(t.step o calls).1]) (t.step o calls).1.after := by
  obtain ⟨f, build, members, rfl⟩ := h.ensemble
  have more : (Event.numbers ((rs ++ [((Solver.ensemble f build members).step o calls).1]).flatMap
        (·.events))).length = (Event.numbers (rs.flatMap (·.events))).length +
      (Event.numbers ((Solver.ensemble f build members).step o calls).1.events).length := by
    rw [List.flatMap_append, List.flatMap_singleton, Event.numbers_append, List.length_append]
  cases hr : ((Solver.ensemble f build members).step o calls).1.result with
  | ok b =>
      obtain ⟨summed, counted⟩ := accounts_step o _ h.summed calls b hr
      refine ⟨exists_ensemble_step, summed, ?_⟩
      rw [more, h.recorded, counted, List.flatMap_append, List.flatMap_singleton,
        Reply.spilled_of_ok hr, List.append_nil]
      omega
  | error e =>
      have kept := checkpoint_step_error hr (fault?_eq_none returned hr)
      refine ⟨exists_ensemble_step, kept ▸ h.summed, ?_⟩
      rw [more, h.recorded, evaluations_of_checkpoint kept, List.flatMap_append, List.flatMap_singleton,
        Reply.spilled_of_error hr, List.length_append]
      omega

theorem Tallied.of_tried (h : Tallied [] s) (run : Tried s rs t) : Tallied rs t := by
  induction run with
  | start => exact h
  | stepped o calls _ returned ih => exact ih.step returned
  | cancelled _ ih =>
      obtain ⟨f, build, members, rfl⟩ := ih.ensemble
      exact ⟨⟨_, _, _, rfl⟩, ih.summed, ih.recorded⟩
  | marked _ ih =>
      obtain ⟨f, build, members, rfl⟩ := ih.ensemble
      exact ⟨⟨_, _, _, rfl⟩, ih.summed, ih.recorded⟩
  | guessed _ hu ih =>
      obtain ⟨f, build, members, rfl⟩ := ih.ensemble
      cases hu
      exact ih
  | tuned _ hu ih =>
      obtain ⟨f, build, members, rfl⟩ := ih.ensemble
      have kept := checkpoint_of_tuned hu
      refine ⟨?_, kept ▸ ih.summed, by rw [evaluations_of_checkpoint kept, ih.recorded]⟩
      cases hu <;> exact ⟨_, _, _, rfl⟩

/-! ## The start of a run -/

/-- A solver that has spent nothing, and neither have its members. -/
def Unspent (m : Solver α) : Prop := m.state.evaluations = 0 ∧ m.checkpoint.Summed

/-- Members are built without spending anything. -/
def Builder.Unspent (build : Builder α) : Prop :=
  ∀ place start seed, Event.numbers (build place start seed).2 = [] ∧
    ∀ m, (build place start seed).1 = .ok m → m.Unspent

theorem Unspent.setConstraints (h : m.Unspent) (c : Constraints α) :
    (m.setConstraints c).Unspent := by
  unfold Unspent at h ⊢
  rwa [← state_checkpoint, checkpoint_setConstraints, state_checkpoint]

theorem numbers_buildMembers (unspent : Builder.Unspent build) {seed : Seed} {i : Nat}
    {starts : List (Point α)} : Event.numbers (buildMembers f build seed i starts).2 = [] := by
  induction starts generalizing i with
  | nil => rfl
  | cons start starts ih =>
      have silent := (unspent i start (seed.member i)).1
      rw [buildMembers]
      rcases hb : build i start (seed.member i) with ⟨e | m, events⟩
      · rw [hb] at silent
        exact silent
      · rw [hb] at silent
        by_cases hd : m.dim ≠ f.dim
        · simpa only [if_pos hd] using silent
        · simp only [if_neg hd, Event.numbers_append, silent, ih, List.append_nil]

theorem numbers_prepareEnsemble (unspent : Builder.Unspent build) {box : Option (Box α)}
    {size : Nat} {seed : Seed} :
    Event.numbers (prepareEnsemble f build members box size seed).events = [] := by
  unfold prepareEnsemble
  cases f.drawStarts box seed with
  | error e => rfl
  | ok starts =>
      have silent : Event.numbers (buildMembers f build seed 0 starts.rows).2 = [] :=
        numbers_buildMembers unspent
      rcases hb : buildMembers f build seed 0 starts.rows with ⟨e | built, events⟩
      · rw [hb] at silent
        simpa only [hb, Event.numbers_log] using silent
      · rw [hb] at silent
        simp [hb, Reply.done, silent, Event.numbers_nil]

/-- A run that was started has evaluated nothing and counts nothing. -/
theorem tallied_prepareEnsemble {box : Option (Box α)} {size : Nat} {seed : Seed}
    (unspent : Builder.Unspent build)
    (h : (prepareEnsemble f build members box size seed).result = .ok ()) :
    Tallied [] (prepareEnsemble f build members box size seed).after := by
  obtain ⟨starts, built, hb, ha, _⟩ := started_prepareEnsemble h
  have each : ∀ m ∈ built, m.Unspent :=
    forall_buildMembers (fun place start seed => (unspent place start seed).2)
      (fun _ c _ h => h.setConstraints c) hb
  have nothing : total built = 0 := by
    refine List.sum_eq_zero_iff_forall_eq_nat.2 fun n hn => ?_
    obtain ⟨m, hm, rfl⟩ := List.mem_map.1 hn
    exact (each m hm).1
  rw [ha]
  exact ⟨⟨_, _, _, rfl⟩, summed_ensemble_iff.2 ⟨nothing.symm, fun m hm => (each m hm).2⟩, rfl⟩

/-! ### Members of a plan -/

theorem numbers_prepare (box : Option (Box α)) (size : Nat) (seed : Seed) :
    (∀ s : Evolution α, Event.numbers (s.prepare box size seed).events = []) ∧
      ∀ s : Compass α, Event.numbers (s.prepare box size seed).events = [] := by
  refine ⟨fun s => ?_, fun s => ?_⟩
  · unfold Evolution.prepare
    split <;> rfl
  · unfold Compass.prepare
    split
    · rfl
    · split
      · rfl
      · simp only [Reply.done]
        split <;> rfl

theorem numbers_evolutionAt (plan : MemberPlan) (dim : Nat) (start : Point Float)
    (seed : Seed) : Event.numbers (plan.evolutionAt dim start seed).2 = [] := by
  unfold MemberPlan.evolutionAt
  rcases plan.criterion with e | criterion
  · rfl
  · dsimp only
    split <;> exact (numbers_prepare plan.box plan.size seed).1 _

theorem numbers_compassAt (plan : MemberPlan) (start : Point Float) (seed : Seed) :
    Event.numbers (plan.compassAt start seed).2 = [] := by
  unfold MemberPlan.compassAt
  cases Size.checkPoint plan.dim with
  | error e => rfl
  | ok u =>
      dsimp only
      split
      · exact (numbers_prepare plan.box 1 seed).2 _
      · split <;> exact (numbers_prepare plan.box 1 seed).2 _

/-- Members that are built from a plan have spent nothing. -/
theorem unspent_builder (plan : MemberPlan) (dim : Nat) : Builder.Unspent (plan.builder dim) := by
  intro place start seed
  refine ⟨?_, fun m hm => ?_⟩
  · unfold MemberPlan.builder
    split
    · rfl
    split
    · exact numbers_evolutionAt plan dim start seed
    · exact numbers_compassAt plan start seed
  · rcases builder_ok hm with ⟨s, rfl, _, _, _, _, hs⟩ | ⟨s, rfl, _, _, _, _, hs⟩
    · exact ⟨congrArg State.evaluations hs, trivial⟩
    · exact ⟨congrArg State.evaluations hs, trivial⟩

end Solver

/-! ## What the memory of a session holds -/

namespace Session

/-- A session whose solver evaluates nothing while it is made ready has heard of no
evaluation. -/
theorem watching_prepare {z : Session} {box : Option (Box Float)} {size : Nat}
    {number : Option UInt64} (watched : z.watching .evaluations = .memory #[])
    (silent : ∀ seed, Event.numbers (z.solver.prepare box size seed).events = []) :
    (z.prepare box size number).2.watching .evaluations = .memory #[] := by
  have nothing (seed : Seed) :
      (z.solver.prepare box size seed).events.filterMap Event.evaluated? = [] :=
    List.map_eq_nil_iff.1 (silent seed)
  have heard : (z.prepare box size number).2.watching .evaluations =
      .memory (#[] ++ ((z.solver.prepare box size _).events.filterMap
        Watched.evaluations.record?).toArray) :=
    watching_hearAll watched
  rw [show Watched.evaluations.record? = Event.evaluated? from rfl, nothing] at heard
  exact heard

end Session

namespace Solver

/-- **What a log of an ensemble holds.**  A memory of the evaluations is attached before the
ensemble is made ready, with members that have spent nothing, and then the user runs single
generations, in which any member may fail at any batch.  Then the memory holds as many
records as the counter of the ensemble says, and beside these what the members recorded in
the generations that failed.  So the counter tells the number of records exactly if nothing
was recorded in a generation that failed. -/
theorem evaluations_counted_iff (z y : Session) (f : Frame Float) (build : Builder Float)
    (members : List (Solver Float)) (hz : z.solver = .ensemble f build members)
    (unspent : Builder.Unspent build) (box : Option (Box Float)) (size : Nat)
    (number : Option UInt64) (prepared : (z.prepare box size number).1 = .ok ())
    (watched : z.watching .evaluations = .memory #[]) (rs : List (Reply (Solver Float) Float Bool))
    (run : (z.prepare box size number).2.Stepped rs y) :
    (y.memory .evaluations).length =
        y.solver.state.evaluations + (rs.flatMap Reply.spilled).length ∧
      ((y.memory .evaluations).length = y.solver.state.evaluations ↔
        ∀ r ∈ rs, r.spilled = []) := by
  have reply (seed : Seed) :
      z.solver.prepare box size seed = prepareEnsemble f build members box size seed := by
    rw [hz]
    rfl
  have silent (seed : Seed) : Event.numbers (z.solver.prepare box size seed).events = [] := by
    rw [reply]
    exact numbers_prepareEnsemble unspent
  have begun : (z.prepare box size number).2.solver =
      (prepareEnsemble f build members box size (.ofNumber? (z.entropy.below 0) number)).after := by
    rw [← reply]
    exact Session.solver_hearAll
  have start : Tallied [] (z.prepare box size number).2.solver := by
    rw [begun]
    exact tallied_prepareEnsemble unspent (reply _ ▸ prepared)
  have tallied := start.of_tried run.tried.1
  have held : (y.memory .evaluations).length =
      y.solver.state.evaluations + (rs.flatMap Reply.spilled).length := by
    rw [← tallied.recorded, ← run.numbers (Session.watching_prepare watched silent),
      List.length_map]
  refine ⟨held, ?_⟩
  rw [held, Nat.add_eq_left, List.length_eq_zero_iff, List.flatMap_eq_nil_iff]

/-! ### A generation in which one member fails -/

/-- Two compass searches on a line, at work on an objective that is down at the fifth
evaluation, and a memory for their evaluations; the run is not started yet. -/
def watchedSearches : Session :=
  (Session.start (.ensemble (.make 1 (.scattershot 2)) ((MemberPlan.plain 1 none).builder 1) [])
    Evolution.downAtFifth .empty).attach .evaluations (.memory #[])

/-- The session after its run was started. -/
def startedSearches : Session := (watchedSearches.prepare none 1 (some 1)).2

/-- The conditions of `evaluations_counted_iff` are met by a generation that fails in its
second member and is tried again. -/
theorem evaluations_counted_iff_watchedSearches :
    ∃ rs, startedSearches.Stepped rs ((startedSearches.steps none 1).2.steps none 1).2 ∧
      (((startedSearches.steps none 1).2.steps none 1).2.memory .evaluations).length =
        ((startedSearches.steps none 1).2.steps none 1).2.solver.state.evaluations +
          (rs.flatMap Reply.spilled).length := by
  obtain ⟨_, prepared⟩ := exists_ok_of_isOk
    (r := (watchedSearches.prepare none 1 (some 1)).1) (by decide +kernel)
  have failed : failsInEvaluation (startedSearches.solver.step startedSearches.objective
      startedSearches.calls).1.result = true := by decide +kernel
  obtain ⟨b, success⟩ := exists_ok_of_isOk
    (r := ((startedSearches.steps none 1).2.solver.step (startedSearches.steps none 1).2.objective
      (startedSearches.steps none 1).2.calls).1.result) (by decide +kernel)
  have run := (Session.Stepped.start.stepped (ne_fault_of_test failed)).stepped
    (fun c h => by rw [success] at h; cases h)
  exact ⟨_, run, (evaluations_counted_iff watchedSearches _ _ _ [] rfl
    (unspent_builder (MemberPlan.plain 1 none) 1) none 1 (some 1) prepared rfl _ run).1⟩

/-- The counter of an ensemble does not always tell the number of records.  The first search
makes its three evaluations and the second one evaluates its start point, and then a probe
fails: the counter is back at zero, but four records stand.  When the generation is tried
again, six evaluations are counted and ten are on record. -/
theorem evaluations_not_counted :
    (watchedSearches.prepare none 1 (some 1)).1.isOk = true ∧
      (∃ e, (startedSearches.steps none 1).1 = .error e ∧ e.isEvaluationError = true) ∧
      (startedSearches.steps none 1).2.solver.state.evaluations = 0 ∧
      ((startedSearches.steps none 1).2.memory .evaluations).map (·.evaluations) = [1, 2, 3, 1] ∧
      (∃ b, ((startedSearches.steps none 1).2.steps none 1).1 = .ok b) ∧
      ((startedSearches.steps none 1).2.steps none 1).2.solver.state.evaluations = 6 ∧
      (((startedSearches.steps none 1).2.steps none 1).2.memory .evaluations).length = 10 := by
  obtain ⟨e, failed, evaluation, _⟩ := exists_error_of_test
    (r := (startedSearches.steps none 1).1) (by decide +kernel)
  refine ⟨?_, ⟨e, failed, evaluation⟩, ?_, ?_, exists_ok_of_isOk (by decide +kernel), ?_, ?_⟩
  all_goals decide +kernel

end Solver

end BoxSearch

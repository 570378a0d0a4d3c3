import BoxSearch.Proofs.Ensemble.Generation

/-!
# Trying a generation of an ensemble again

When a generation of an ensemble is taken back, the members go back to checkpoints, and
a checkpoint does not hold what a criterion remembers.  So a member that had succeeded
before another one failed has shown its criterion a generation that never happened.
This file says that nothing comes of it.

* `Twin` — a member of the run with failures and that of the run without them: they
  differ in their maps, and the criterion of the first one may have met the next
  generation already;
* `Twin.step_ok` and `Twin.rolledBack` — twins stay twins when both succeed, and when
  the first one is taken back;
* `ensemble_retried_eq_faultless` — the run with failures and the run without them
  agree after every success, in the ensemble and in every member.
-/

namespace BoxSearch
namespace Solver

variable {α : Type} [Scalar α]
variable {s t a r : Solver α} {o : Objective α} {g : Point α → Float}
variable {m m₀ d : EvaluationMap α} {w w₀ : Option Watch}
variable {f : Frame α} {build : Builder α} {members refs : List (Solver α)}
variable {calls i : Nat} {b : Bool} {e : SolverError}

/-! ## Twins -/

/-- The members at one place of two ensembles, the second of which meets no failures. -/
inductive Twin (g : Point α → Float) : Solver α → Solver α → Prop
  /-- the two differ in their maps and in what the criterion has seen -/
  | plugged {s : Solver α} {m m₀ : EvaluationMap α} {w w₀ : Option Watch} (lone : s.Lone)
      (faithful : m.Faithful) (dependable : m₀.Dependable) (met : Met g s w₀ w) :
      Twin g (s.withPlugs m w) (s.withPlugs m₀ w₀)
  /-- the first one has no map and makes no steps -/
  | mapless {a r : Solver α} (lone : a.Lone) (none : a.map? = none)
      (same : a.checkpoint = r.checkpoint) : Twin g a r

/-- A member of an ensemble, and the same member with a map that can be depended on. -/
def Backed (s r : Solver α) : Prop :=
  s.Lone ∧ (∀ m, s.map? = some m → m.Faithful) ∧
    ∃ m₀ : EvaluationMap α, m₀.Dependable ∧ r = (s.setMap m₀).1

theorem Backed.twin (h : Backed s r) : Twin g s r := by
  obtain ⟨lone, faithful, m₀, dependable, rfl⟩ := h
  rw [setMap_eq_withPlugs lone]
  cases hm : s.map? with
  | none => exact .mapless lone hm checkpoint_withPlugs.symm
  | some m =>
      have h : Twin g (s.withPlugs m s.watch) (s.withPlugs m₀ s.watch) :=
        .plugged lone (faithful m hm) dependable .refl
      rwa [withPlugs_self lone hm] at h

/-- A member whose own map is faithful and can be depended on. -/
theorem backed_self (lone : s.Lone) (hm : s.map? = some m) (faithful : m.Faithful)
    (dependable : m.Dependable) : Backed s s := by
  refine ⟨lone, ?_, m, dependable, ?_⟩
  · intro m' hm'
    rw [hm] at hm'
    cases hm'
    exact faithful
  · rw [setMap_eq_withPlugs lone, withPlugs_self lone hm]

namespace Twin

theorem lone (h : Twin g a r) : a.Lone := by
  cases h with
  | plugged lone _ _ _ => exact lone_withPlugs lone
  | mapless lone _ _ => exact lone

theorem checkpoint_eq (h : Twin g a r) : a.checkpoint = r.checkpoint := by
  cases h with
  | plugged _ _ _ _ => rw [checkpoint_withPlugs, checkpoint_withPlugs]
  | mapless _ _ same => exact same

/-- When the first of two twins succeeds, so does the second one, in the same way. -/
theorem step_ok (h : Twin g a r) (agrees : o.AgreesWith g)
    (success : (a.step o calls).1.result = .ok b) (calls₀ : Nat) :
    (r.step (.ofFunction g) calls₀).1.result = .ok b ∧
      Twin g (a.step o calls).1.after (r.step (.ofFunction g) calls₀).1.after := by
  cases h with
  | @plugged s m m₀ w w₀ lone faithful dependable met =>
      have standing : Standing g s w₀ m (s.withPlugs m w) := .level met
      obtain ⟨u, w', hu, ha, hr, ha₀⟩ :=
        standing.step_ok lone faithful agrees dependable success calls₀
      refine ⟨hr, ?_⟩
      rw [ha, ha₀]
      exact .plugged hu faithful dependable .refl
  | mapless lone none _ =>
      obtain ⟨e, he, _⟩ := step_of_mapless o calls lone none
      exact absurd (he.symm.trans success) (by simp)

/-- When the first of two twins is taken back, whatever became of its step, the two
are twins as before. -/
theorem rolledBack (h : Twin g a r) (agrees : o.AgreesWith g)
    (returned : ∀ e, (a.step o calls).1.result = .error e → e.fault? = none) :
    Twin g ((a.step o calls).1.after.rolledBack a) r := by
  cases h with
  | @plugged s m m₀ w w₀ lone faithful dependable met =>
      have standing : Standing g s w₀ m (s.withPlugs m w) := .level met
      obtain ⟨w', met', ha⟩ := standing.rolledBack_step lone faithful agrees returned
      rw [Solver.rolledBack, checkpoint_withPlugs]
      rw [Solver.rolledBack] at ha
      rw [ha]
      exact .plugged lone faithful dependable met'
  | mapless lone none same =>
      obtain ⟨e, _, ha⟩ := step_of_mapless o calls lone none
      rw [ha, rolledBack_self lone]
      exact .mapless lone none same

end Twin

/-! ## Twin ensembles -/

/-- The members of two ensembles are twins, place by place. -/
def Twins (g : Point α → Float) (members refs : List (Solver α)) : Prop :=
  members.length = refs.length ∧
    ∀ (i : Nat) a r, members[i]? = some a → refs[i]? = some r → Twin g a r

theorem Twins.of_forall₂ (h : List.Forall₂ Backed members refs) : Twins g members refs := by
  refine ⟨h.length_eq, ?_⟩
  induction h with
  | nil => intro i a r ha; simp at ha
  | cons hb _ ih =>
      intro i a r ha hr
      cases i with
      | zero =>
          cases ha
          cases hr
          exact hb.twin
      | succ i => exact ih i a r ha hr

namespace Twins

theorem exists_ref (h : Twins g members refs) (ha : members[i]? = some a) :
    ∃ r, refs[i]? = some r ∧ Twin g a r := by
  have hi : i < refs.length := h.1 ▸ (List.getElem?_eq_some_iff.1 ha).1
  exact ⟨refs[i], List.getElem?_eq_getElem hi, h.2 i a _ ha (List.getElem?_eq_getElem hi)⟩

theorem exists_member (h : Twins g members refs) (hr : refs[i]? = some r) :
    ∃ a, members[i]? = some a ∧ Twin g a r := by
  have hi : i < members.length := h.1 ▸ (List.getElem?_eq_some_iff.1 hr).1
  exact ⟨members[i], List.getElem?_eq_getElem hi, h.2 i _ r (List.getElem?_eq_getElem hi) hr⟩

theorem checkpoints_eq (h : Twins g members refs) : checkpoints members = checkpoints refs := by
  rw [checkpoints_eq_map, checkpoints_eq_map]
  refine List.ext_getElem? fun i => ?_
  rw [List.getElem?_map, List.getElem?_map]
  cases hi : members[i]? with
  | none =>
      have hl : refs.length ≤ i := h.1 ▸ List.getElem?_eq_none_iff.1 hi
      rw [List.getElem?_eq_none hl]
  | some a =>
      obtain ⟨r, hr, twin⟩ := h.exists_ref hi
      rw [hr, Option.map_some, Option.map_some, twin.checkpoint_eq]

theorem states_eq (h : Twins g members refs) : members.map state = refs.map state := by
  have hc := congrArg (List.map Checkpoint.state) h.checkpoints_eq
  rw [checkpoints_eq_map, checkpoints_eq_map, List.map_map, List.map_map] at hc
  have hs : Checkpoint.state ∘ checkpoint = (state : Solver α → State α) :=
    funext fun _ => state_checkpoint
  rwa [hs] at hc

/-- **A generation that is taken back leaves twins behind**, whoever had moved. -/
theorem taken_back (h : Twins g members refs) (agrees : o.AgreesWith g)
    (nofault : Dispatch.fault? (replies f members (Solver.moves o members) calls) = none) :
    Twins g (restoreAll
      (Dispatch.afters members (replies f members (Solver.moves o members) calls))
      (checkpoints members)).2 refs := by
  refine ⟨by rw [length_restoreAll, Dispatch.length_afters, h.1], ?_⟩
  intro i a' r ha' hr
  obtain ⟨a, ha, twin⟩ := h.exists_member hr
  have hshape := (shapes_afters f calls (keepShape_moves o members)).trans
    (shapes_checkpoints members).symm
  have hc : (checkpoints members)[i]? = some a.checkpoint := by
    rw [checkpoints_eq_map, List.getElem?_map, ha, Option.map_some]
  cases hlook : (replies f members (Solver.moves o members) calls).lookup i with
  | none =>
      have hafter := (Dispatch.getElem?_afters_of_none hlook).trans ha
      rw [getElem?_restoreAll _ _ hshape i _ _ hafter hc] at ha'
      cases ha'
      change Twin g (a.rolledBack a) r
      rw [rolledBack_self twin.lone]
      exact twin
  | some reply =>
      have hafter := Dispatch.getElem?_afters_of_some ha hlook
      rw [getElem?_restoreAll _ _ hshape i _ _ hafter hc] at ha'
      cases ha'
      obtain ⟨a₁, flag, move, c, ha₁, _, hmove, hreply⟩ := of_lookup_replies hlook
      rw [ha] at ha₁
      cases ha₁
      rw [getElem?_moves, ha] at hmove
      cases hmove
      have returned := Dispatch.fault?_eq_none_iff.1 nofault _ (Dispatch.mem_of_lookup hlook)
      subst hreply
      cases flag with
      | true =>
          change Twin g (a.rolledBack a) r
          rw [rolledBack_self twin.lone]
          exact twin
      | false => exact twin.rolledBack agrees returned

/-- The reply of a member of the run without failures, in a generation in which every
member of the other run succeeded. -/
theorem reply_ok {flags : List Bool} {name : String} {r₀ : Reply (Solver α) α Bool} {calls₀ : Nat}
    (h : Twins g members refs) (agrees : o.AgreesWith g)
    (hv : Dispatch.verdicts name members.length
      (replies f members (Solver.moves o members) calls) = .ok flags)
    (hmem : (i, r₀) ∈ replies { f with map := d } refs
      (Solver.moves (.ofFunction g) refs) calls₀) :
    ∃ b r, (replies f members (Solver.moves o members) calls).lookup i = some r ∧
      flags[i]? = some b ∧ r₀.result = .ok b ∧ Twin g r.after r₀.after := by
  obtain ⟨m₀, flag, move₀, c₀, hm₀, hflag, hmove₀, hr₀⟩ := of_mem_replies hmem
  obtain ⟨a, ha, twin⟩ := h.exists_member hm₀
  have hi : i < members.length := (List.getElem?_eq_some_iff.1 ha).1
  obtain ⟨r, b, hlook, hok, hb⟩ := (Dispatch.verdicts_ok hv).2 i hi
  obtain ⟨a₁, flag₁, move, c, ha₁, hflag₁, hmove, hr⟩ := of_lookup_replies hlook
  rw [ha] at ha₁
  cases ha₁
  have hsame : flag₁ = flag := Option.some.inj (hflag₁.symm.trans hflag)
  subst hsame
  rw [getElem?_moves, ha] at hmove
  cases hmove
  rw [getElem?_moves, hm₀] at hmove₀
  cases hmove₀
  refine ⟨b, r, hlook, hb, ?_⟩
  cases flag₁ with
  | true =>
      subst hr hr₀
      cases hok
      exact ⟨rfl, twin⟩
  | false =>
      subst hr hr₀
      exact twin.step_ok agrees hok c₀

/-- The flags of a generation are those of the run without failures. -/
theorem verdicts_ok {flags : List Bool} {name : String} (h : Twins g members refs)
    (agrees : o.AgreesWith g) (complete : d.Complete)
    (hv : Dispatch.verdicts name members.length
      (replies f members (Solver.moves o members) calls) = .ok flags) (name₀ : String)
    (calls₀ : Nat) :
    Dispatch.verdicts name₀ refs.length (replies { f with map := d } refs
        (Solver.moves (.ofFunction g) refs) calls₀) = .ok flags ∧
      Twins g (Dispatch.afters members (replies f members (Solver.moves o members) calls))
        (Dispatch.afters refs (replies { f with map := d } refs
          (Solver.moves (.ofFunction g) refs) calls₀)) := by
  obtain ⟨hl, each⟩ := Dispatch.verdicts_ok hv
  -- every member had a reply, so there are flags for all of them
  have enough : refs.length ≤ f.stopped.length := by
    refine Nat.le_of_not_lt fun hlt => ?_
    obtain ⟨r, b, hlook, _⟩ := each f.stopped.length (h.1 ▸ hlt)
    obtain ⟨_, flag, _, _, _, hflag, _⟩ := of_lookup_replies hlook
    exact absurd (List.getElem?_eq_some_iff.1 hflag).1 (Nat.lt_irrefl _)
  have hturns := length_turns enough (length_moves (.ofFunction g) refs)
  have reported (i : Nat) (hi : i < refs.length) : ∃ r₀, (replies { f with map := d } refs
      (Solver.moves (.ofFunction g) refs) calls₀).lookup i = some r₀ := by
    refine Option.ne_none_iff_exists'.1 fun hnone => ?_
    have hout := (Dispatch.lookup_run_eq_none_iff (hturns.symm ▸ hi)).1 hnone
    exact hout (complete _ i (hturns.symm ▸ hi))
  refine ⟨Dispatch.verdicts_eq_ok (hl.trans h.1) ?_ ?_, by simp [h.1], ?_⟩
  · intro p hp
    obtain ⟨b, _, _, _, hok, _⟩ := h.reply_ok agrees hv hp
    exact ⟨b, hok⟩
  · intro i hi
    obtain ⟨r₀, hr₀⟩ := reported i hi
    obtain ⟨b, _, _, hb, hok, _⟩ := h.reply_ok agrees hv (Dispatch.mem_of_lookup hr₀)
    exact ⟨r₀, b, hr₀, hok, hb⟩
  · intro i a' r' ha' hr'
    have hi : i < refs.length := by
      have hlen := (List.getElem?_eq_some_iff.1 hr').1
      rwa [Dispatch.length_afters] at hlen
    obtain ⟨r₀, hr₀⟩ := reported i hi
    obtain ⟨b, r, hr, _, _, twin⟩ := h.reply_ok agrees hv (Dispatch.mem_of_lookup hr₀)
    have hm : members[i]? = some (members.get ⟨i, h.1 ▸ hi⟩) := List.getElem?_eq_getElem _
    rw [Dispatch.getElem?_afters_of_some hm hr] at ha'
    rw [Dispatch.getElem?_afters_of_some (List.getElem?_eq_getElem hi) hr₀] at hr'
    cases ha'
    cases hr'
    exact twin

/-- **A generation that succeeds is the one of the run without failures.** -/
theorem step_ok (h : Twins g members refs) (agrees : o.AgreesWith g) (complete : d.Complete)
    (success : ((Solver.ensemble f build members).step o calls).1.result = .ok b) (calls₀ : Nat) :
    ∃ f' ms rs, ((Solver.ensemble f build members).step o calls).1.after = .ensemble f' build ms ∧
      ((Solver.ensemble { f with map := d } build refs).step (.ofFunction g) calls₀).1.result =
        .ok b ∧
      ((Solver.ensemble { f with map := d } build refs).step (.ofFunction g) calls₀).1.after =
        .ensemble { f' with map := d } build rs ∧ Twins g ms rs := by
  rw [step] at success ⊢
  rw [step]
  rcases hc : f.checkReady o with e | u
  · rw [stepEnsemble_of_refused hc] at success
    cases success
  · have hc₀ : ({ f with map := d } : Frame α).checkReady (.ofFunction g) = .ok () :=
      Frame.checkReady_eq_ok_iff.2 ⟨(Frame.checkReady_eq_ok_iff.1 hc).1, rfl⟩
    cases going : f.state.isTerminated with
    | true =>
        rw [stepEnsemble_of_ended hc going] at success ⊢
        rw [stepEnsemble_of_ended hc₀ going]
        exact ⟨f, members, refs, rfl, success, rfl, h⟩
    | false =>
        rcases hv : Dispatch.verdicts f.map.name members.length
            (replies f members (Solver.moves o members) calls) with e | flags
        · rw [(stepEnsemble_of_verdicts_error build hc going hv).1] at success
          cases success
        · obtain ⟨hr, ha⟩ := stepEnsemble_of_verdicts_ok build hc going hv
          obtain ⟨hv₀, twins⟩ := h.verdicts_ok agrees complete hv d.name calls₀
          obtain ⟨hr₀, ha₀⟩ := stepEnsemble_of_verdicts_ok build hc₀ going hv₀
          rw [← twins.states_eq] at hr₀ ha₀
          obtain ⟨hres, hafter⟩ := Frame.conclude_withMap f d flags
            ((Dispatch.afters members (replies f members (Solver.moves o members) calls)).map state)
          rw [hres] at hr₀
          rw [hafter] at ha₀
          exact ⟨_, _, _, ha, hr₀.trans (hr.symm.trans success), ha₀, twins⟩

/-- **A generation that fails leaves the ensemble as it was**, up to what the criteria
of its members have seen. -/
theorem step_error (h : Twins g members refs) (agrees : o.AgreesWith g)
    (failed : ((Solver.ensemble f build members).step o calls).1.result = .error e)
    (returned : e.fault? = none) :
    ∃ ms, ((Solver.ensemble f build members).step o calls).1.after = .ensemble f build ms ∧
      Twins g ms refs := by
  rw [step] at failed ⊢
  rcases hc : f.checkReady o with e' | u
  · rw [stepEnsemble_of_refused hc]
    exact ⟨members, rfl, h⟩
  · cases going : f.state.isTerminated with
    | true =>
        rw [stepEnsemble_of_ended hc going] at failed
        cases failed
    | false =>
        rcases hv : Dispatch.verdicts f.map.name members.length
            (replies f members (Solver.moves o members) calls) with e' | flags
        · obtain ⟨hr, ha⟩ := stepEnsemble_of_verdicts_error build hc going hv
          have he : e' = e := Except.error.inj (hr.symm.trans failed)
          subst he
          obtain ⟨nofault, _⟩ := Dispatch.verdicts_error hv returned
          exact ⟨_, ha, h.taken_back agrees nofault⟩
        · obtain ⟨hr, _⟩ := stepEnsemble_of_verdicts_ok build hc going hv
          obtain ⟨c, rfl⟩ := Frame.conclude_error (hr.symm.trans failed)
          cases returned

end Twins

/-! ## Runs with failures and without -/

/-- **The simulation.**  At any time an ensemble that meets failures is a twin of the
one without them, after as many generations as there were successes. -/
theorem twins_of_retried {bs : List Bool} (twins : Twins g members refs) (complete : d.Complete)
    (h : Retried (fun x : Attempt α => x.objective.AgreesWith g)
      (.ensemble f build members) bs t) :
    ∃ f' ms rs calls, t = .ensemble f' build ms ∧ Twins g ms rs ∧
      generations (.ofFunction g) (.ensemble { f with map := d } build refs) bs.length =
        some (bs, .ensemble { f' with map := d } build rs, calls) := by
  induction h with
  | start => exact ⟨f, members, refs, 0, rfl, twins, rfl⟩
  | failed x _ agrees failed returned ih =>
      obtain ⟨f', ms, rs, calls, rfl, htwins, hg⟩ := ih
      obtain ⟨ms', ha, htwins'⟩ := htwins.step_error agrees failed returned
      exact ⟨_, ms', rs, calls, ha, htwins', hg⟩
  | succeeded x _ agrees success ih =>
      obtain ⟨f', ms, rs, calls, rfl, htwins, hg⟩ := ih
      obtain ⟨f'', ms', rs', ha, hr, ha₀, htwins'⟩ :=
        htwins.step_ok agrees complete success calls
      have hg' := generations_succ hg hr
      rw [ha₀] at hg'
      exact ⟨f'', ms', rs', _, ha, htwins', by rw [List.length_append]; exact hg'⟩

/-- **Failed generations of an ensemble leave no trace in it or in its members.**  Let
an ensemble of lone members be tried through maps that dispatch its members as they
please, on objectives that agree with a function wherever they answer, until each
generation succeeds.  Then the ensemble on the function itself, dispatched completely
and with maps of the members that can be depended on, succeeds as often and with the
same results, and after each success the two have the same checkpoint: so every member
is in the same state, and has stopped in the same generation and for the same reason. -/
theorem ensemble_retried_eq_faultless (f : Frame α) (build : Builder α)
    (members refs : List (Solver α)) (backed : List.Forall₂ Backed members refs)
    (g : Point α → Float) (d : EvaluationMap α) (complete : d.Complete) (bs : List Bool)
    (t : Solver α)
    (run : Retried (fun x : Attempt α => x.objective.AgreesWith g) (.ensemble f build members) bs t)
    (x : Attempt α) (agrees : x.objective.AgreesWith g) (b : Bool)
    (success : (x.reply t).result = .ok b) :
    ∃ r calls,
      generations (.ofFunction g) (.ensemble { f with map := d } build refs) (bs.length + 1) =
          some (bs ++ [b], r, calls) ∧
        (x.reply t).after.checkpoint = r.checkpoint := by
  obtain ⟨f', ms, rs, calls, rfl, twins, hg⟩ :=
    twins_of_retried (Twins.of_forall₂ backed) complete run
  obtain ⟨f'', ms', rs', ha, hr, ha₀, twins'⟩ := twins.step_ok agrees complete success calls
  have hg' := generations_succ hg hr
  rw [ha₀] at hg'
  refine ⟨_, _, hg', ?_⟩
  have hafter : (x.reply (.ensemble f' build ms)).after = .ensemble f'' build ms' := ha
  rw [hafter, checkpoint, checkpoint, twins'.checkpoints_eq]

/-! ### A generation that is tried twice -/

/-- The members of the pair, each with a criterion that remembers. -/
def watchedMembers : List (Solver Float) :=
  pairMembers.map (Solver.setWatch (.ofCriterion (.test (.stagnation 1))))

/-- The pair of them. -/
def watchedPair : Solver Float := .ensemble pairFrame pairBuild watchedMembers

theorem watchedMembers_backed : List.Forall₂ Backed watchedMembers watchedMembers := by
  have faithful : (EvaluationMap.serial : EvaluationMap Float).Faithful :=
    EvaluationMap.serial_orderly.faithful
  have dependable : (EvaluationMap.serial : EvaluationMap Float).Dependable :=
    EvaluationMap.serial_orderly.dependable
  exact .cons (backed_self trivial rfl faithful dependable)
    (.cons (backed_self trivial rfl faithful dependable) .nil)

/-- In the first try the compass search has moved and shown its criterion the generation
when the other member fails; the second try succeeds. -/
def pairTries : List (Attempt Float) :=
  [⟨backward, Evolution.downAtFifth, 0⟩, ⟨.serial, Evolution.downAtFifth, 5⟩]

/-- A failure that one of the criteria has seen, and then a success that is the first
generation of a run without failures. -/
theorem ensemble_retried_eq_faultless_pair :
    ∃ t b r calls,
      Retried (fun x : Attempt Float => x.objective.AgreesWith squares) watchedPair [] t ∧
      (pairTries[1].reply t).result = .ok b ∧
      generations (.ofFunction squares)
        (.ensemble { pairFrame with map := .serial } pairBuild watchedMembers) 1 =
          some ([b], r, calls) ∧
      (pairTries[1].reply t).after.checkpoint = r.checkpoint := by
  obtain ⟨e, failed, _, returned⟩ :=
    exists_error_of_test (r := (pairTries[0].reply watchedPair).result) (by decide +kernel)
  obtain ⟨b, success⟩ := exists_ok_of_isOk
    (r := (pairTries[1].reply (pairTries[0].reply watchedPair).after).result) (by decide +kernel)
  have initial : Retried (fun x : Attempt Float => x.objective.AgreesWith squares)
    watchedPair [] watchedPair := .start
  have run := initial.failed pairTries[0] downAtFifth_agreesWith failed returned
  obtain ⟨r, calls, hg, hc⟩ := ensemble_retried_eq_faultless pairFrame pairBuild watchedMembers
    watchedMembers watchedMembers_backed squares .serial EvaluationMap.serial_complete [] _ run
    pairTries[1] downAtFifth_agreesWith b success
  exact ⟨_, b, r, calls, run, success, hg, hc⟩

end Solver
end BoxSearch

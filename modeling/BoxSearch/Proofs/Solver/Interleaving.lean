import BoxSearch.Proofs.Solver.Calls
import BoxSearch.Proofs.Solver.Marks

/-!
# A call of `solve` among requests of others

While `solve` runs, others hold clones of its token and raise or lower it whenever they like.
So a call is taken apart here into what it does in one piece: it looks whether the run has
ended, takes a request, records it, looks whether a step is left, makes a generation.  Between
any two of these anything may happen to the token.  The token is a single flag, and everybody
agrees on the order in which it is read and written, so one thing after the other is all there is.

`Happens` is one such happening, `Trace` any number of them in any order.  A generation counts
as one happening although it takes long: it neither reads nor writes the token, so a request
that falls into it is as good as one before it or after it (`generated_anywhere`).

`Driver.trace_solveFrom` and `Driver.eq_solved` say that this is `solve`: every call of `solve` is
one of these traces, and a call that nobody disturbs ends where `solve` does.
-/

namespace BoxSearch

/-! ## Driving -/

/-- Where a call of `solve` stands. -/
inductive Moment (α : Type) where
  /-- no call is under way -/
  | idle
  /-- the call is about to look whether the run has ended -/
  | opening (o : Objective α) (left : Nat)
  /-- the call is about to take a request -/
  | asking (o : Objective α) (left : Nat)
  /-- a request was taken and is about to be recorded -/
  | marking
  /-- no request was there; the call is about to look whether a step is left -/
  | counting (o : Objective α) (left : Nat)
  /-- a generation is under way -/
  | generating (o : Objective α) (left : Nat)

/-- What happens to a solver or to its token. -/
inductive Happening where
  /-- somebody raised the token -/
  | requested
  /-- somebody lowered the token -/
  | withdrawn
  /-- the owner did something else with the solver -/
  | tended
  /-- the owner called `solve` -/
  | called (budget : Option Nat)
  /-- the call looked whether the run has ended -/
  | viewed (ended : Bool)
  /-- the call read the token and lowered it -/
  | taken (seen : Bool)
  /-- the call recorded that it saw a request -/
  | marked
  /-- the call looked whether a step is left -/
  | counted (due : Bool)
  /-- the call made a generation -/
  | generated (result : Except SolverError Bool)

namespace Happening

/-- Whether it is the call's own doing. -/
def own : Happening → Bool
  | .requested | .withdrawn | .tended | .called _ => false
  | _ => true

/-- Whether the call returns with it. -/
def returns : Happening → Bool
  | .viewed ended => ended
  | .marked => true
  | .counted due => !due
  | .generated (.ok false) => false
  | .generated _ => true
  | _ => false

end Happening

/-- A solver with the call of `solve` that may be under way. -/
structure Driver (α : Type) [Scalar α] where
  /-- the solver, with the token that it shares -/
  solver : Solver α
  /-- the evaluations of the objective so far -/
  calls : Nat
  /-- where the call stands -/
  moment : Moment α

/-- Where a call stands after a generation. -/
def Moment.resume {α : Type} (o : Objective α) (left : Nat) :
    Except SolverError Bool → Moment α
  | .ok false => .opening o left
  | _ => .idle

section

variable {α : Type} [Scalar α]

/-- One thing happens.  Requests come from anybody at any moment; while a call is under way
the solver itself belongs to that call. -/
inductive Happens : Driver α → Happening → Driver α → Prop
  /-- somebody asks the run to stop -/
  | requested {s : Solver α} {n : Nat} {m : Moment α} :
      Happens ⟨s, n, m⟩ .requested ⟨s.cancel, n, m⟩
  /-- somebody takes it back; to start another run does so, too -/
  | withdrawn {s : Solver α} {n : Nat} {m : Moment α} :
      Happens ⟨s, n, m⟩ .withdrawn ⟨s.setToken s.token.reset, n, m⟩
  /-- between calls, the owner does with the solver what does not touch its token -/
  | tended {s t : Solver α} {n k : Nat} (same : t.token = s.token) :
      Happens ⟨s, n, .idle⟩ .tended ⟨t, k, .idle⟩
  /-- a call begins -/
  | called {s : Solver α} {n : Nat} (o : Objective α) (budget : Option Nat) :
      Happens ⟨s, n, .idle⟩ (.called budget) ⟨s, n, .opening o (budget.getD Solver.unlimited)⟩
  /-- the run has ended, and the call returns -/
  | ended {s : Solver α} {n : Nat} {o : Objective α} {left : Nat}
      (h : s.state.isTerminated = true) :
      Happens ⟨s, n, .opening o left⟩ (.viewed true) ⟨s, n, .idle⟩
  /-- the run has not ended -/
  | going {s : Solver α} {n : Nat} {o : Objective α} {left : Nat}
      (h : s.state.isTerminated = false) :
      Happens ⟨s, n, .opening o left⟩ (.viewed false) ⟨s, n, .asking o left⟩
  /-- the token was up -/
  | seen {s : Solver α} {n : Nat} {o : Objective α} {left : Nat} (h : s.token.take.1 = true) :
      Happens ⟨s, n, .asking o left⟩ (.taken true) ⟨s.setToken s.token.take.2, n, .marking⟩
  /-- the token was down -/
  | unseen {s : Solver α} {n : Nat} {o : Objective α} {left : Nat} (h : s.token.take.1 = false) :
      Happens ⟨s, n, .asking o left⟩ (.taken false)
        ⟨s.setToken s.token.take.2, n, .counting o left⟩
  /-- the call returns from a request -/
  | marked {s : Solver α} {n : Nat} :
      Happens ⟨s, n, .marking⟩ .marked ⟨s.markCancelled, n, .idle⟩
  /-- no step is left, and the call returns -/
  | spent {s : Solver α} {n : Nat} {o : Objective α} :
      Happens ⟨s, n, .counting o 0⟩ (.counted false) ⟨s, n, .idle⟩
  /-- a step is left -/
  | due {s : Solver α} {n : Nat} {o : Objective α} {left : Nat} :
      Happens ⟨s, n, .counting o (left + 1)⟩ (.counted true) ⟨s, n, .generating o left⟩
  /-- the step is made; the call returns if it failed or the run has ended -/
  | generated {s : Solver α} {n : Nat} {o : Objective α} {left : Nat} :
      Happens ⟨s, n, .generating o left⟩ (.generated (s.step o n).1.result)
        ⟨(s.step o n).1.after, (s.step o n).2, .resume o left (s.step o n).1.result⟩

/-- Things happen one after the other. -/
inductive Trace : Driver α → List Happening → Driver α → Prop
  /-- nothing happens -/
  | nil {c : Driver α} : Trace c [] c
  /-- something happens, and then more -/
  | cons {c d e : Driver α} {l : Happening} {ls : List Happening} (first : Happens c l d)
      (rest : Trace d ls e) : Trace c (l :: ls) e

/-! ## Tokens and generations -/

namespace Solver

variable {s : Solver α} {o : Objective α} {token : CancelToken} {calls : Nat}

@[simp]
theorem token_setToken : (s.setToken token).token = token := by
  rw [setToken_eq_marked, token_marked]

@[simp]
theorem token_cancel : s.cancel.token = ⟨true⟩ := token_setToken

@[simp]
theorem token_markCancelled : s.markCancelled.token = s.token := by
  rw [markCancelled_eq_marked, token_marked]

@[simp]
theorem state_setToken : (s.setToken token).state = s.state := by
  cases s <;> rfl

@[simp]
theorem isTerminated_markCancelled : s.markCancelled.state.isTerminated = false := by
  rw [markCancelled_eq_marked]
  exact congrArg Status.isTerminated status_marked

theorem generation_markCancelled : s.markCancelled.state.generation = s.state.generation := by
  cases s <;> rfl

/-- A token that is down stays as it is when it is read. -/
theorem setToken_take (down : s.token.cancelled = false) : s.setToken s.token.take.2 = s := by
  have same : s.token.take.2 = s.token := congrArg CancelToken.mk down.symm
  rw [same, setToken_eq_marked, marked_self]

/-- **A generation has nothing to do with the token.** -/
theorem step_setToken (token : CancelToken) (o : Objective α) (calls : Nat)
    (going : s.state.isTerminated = false) :
    ((s.setToken token).step o calls).1.result = (s.step o calls).1.result ∧
      ((s.setToken token).step o calls).2 = (s.step o calls).2 ∧
      ((s.setToken token).step o calls).1.after = (s.step o calls).1.after.setToken token := by
  have same := step_marked s token o calls going going
  rw [← setToken_eq_marked] at same
  obtain ⟨result, evaluations, after | ⟨_, status, after⟩⟩ := same
  · exact ⟨result, evaluations, after⟩
  · refine ⟨result, evaluations, ?_⟩
    rw [after, setToken_eq_marked, status]

end Solver

/-- What a step may do: it counts at most one generation, and it does not say that the run was
cancelled. -/
structure State.StepsTo (before after : State α) : Prop where
  /-- at most one generation more -/
  generation : after.generation ≤ before.generation + 1
  /-- no request is recorded -/
  status : after.status = .cancelled → before.status = .cancelled

omit [Scalar α] in
theorem State.StepsTo.refl (s : State α) : s.StepsTo s := ⟨Nat.le_succ _, id⟩

theorem Evolution.stepsTo (s : Evolution α) (o : Objective α) (calls : Nat) :
    s.state.StepsTo (s.step o calls).1.after.state := by
  have first {m : EvaluationMap α} :
      (s.evaluateFirst m o calls).1.after.running.state.generation = s.state.generation :=
    Evolution.evaluateFirst_frame.2
  rcases Evolution.after_step s o calls with h | ⟨strategy, map, t, _, _, _, rfl, h | h⟩
  · rw [h]
    exact .refl _
  · rw [h]
    exact ⟨Nat.le_trans (Nat.le_of_eq first) (Nat.le_succ _), fun h => by cases h⟩
  · obtain ⟨points, g, es, n, _, _, h⟩ := h
    have bred : ((s.evaluateFirst map o calls).1.after.running.bred points g es).state.generation =
        s.state.generation + 1 := congrArg (· + 1) first
    rw [h]
    rcases Evolution.after_checkStop
      ((s.evaluateFirst map o calls).1.after.running.bred points g es) with h | ⟨reason, w, _, h⟩
    · rw [h]
      exact ⟨Nat.le_of_eq bred, fun h => by cases h⟩
    · rw [h]
      unfold Evolution.concluded
      split
      · exact ⟨Nat.le_of_eq bred, fun h => by cases h⟩
      · exact ⟨Nat.le_of_eq bred, fun h => by cases h⟩

theorem Compass.stepsTo (s : Compass α) (o : Objective α) (calls : Nat) :
    s.state.StepsTo (s.step o calls).1.after.state := by
  cases result : (s.step o calls).1.result with
  | error e =>
      rw [Compass.step_error result]
      exact .refl _
  | ok b =>
      obtain ⟨_, ⟨_, _, h⟩ | ⟨_, _, t, points, es, n, rfl, _, _, answer, h⟩⟩ :=
        Compass.step_ok result
      · rw [h]
        exact .refl _
      · obtain ⟨reason, watch, _, _, concluded⟩ := Compass.checkStop_ok answer
        obtain ⟨counted, running⟩ :=
          Compass.move_frame (s := (s.evaluateStart o calls).1.after.running) points es
        have moved := Nat.le_of_eq
          (counted.trans (congrArg (· + 1) (Compass.generation_evaluateStart (s := s))))
        rw [h, concluded]
        unfold Compass.concluded
        split
        · exact ⟨moved, fun h => by cases h⟩
        · exact ⟨moved, fun h => by cases running.symm.trans h⟩

theorem Frame.stepsTo_conclude (f : Frame α) (stopped : List Bool) (states : List (State α)) :
    f.state.StepsTo (f.conclude stopped states).after.state := by
  refine ⟨Nat.le_of_eq (Frame.conclude_frame f stopped states).1, fun cancelled => ?_⟩
  change (f.aggregated stopped states).checkStop.after.state.status = _ at cancelled
  cases answer : askWatch (f.aggregated stopped states).state
      (f.aggregated stopped states).watch with
  | error e =>
      rw [Frame.checkStop_of_askWatch_error answer] at cancelled
      cases cancelled
  | ok p =>
      rw [(Frame.checkStop_of_askWatch answer).2] at cancelled
      unfold Frame.concluded at cancelled
      split at cancelled
      · cases cancelled
      · cases cancelled

/-- **A step commits at most one generation and records no request**, whatever becomes of it. -/
theorem Solver.stepsTo (s : Solver α) (o : Objective α) (calls : Nat) :
    s.state.StepsTo (s.step o calls).1.after.state := by
  cases s with
  | evolution s => exact Evolution.stepsTo s o calls
  | compass s => exact Compass.stepsTo s o calls
  | ensemble f build members =>
      show f.state.StepsTo (Solver.stepEnsemble f build members (Solver.moves o members) o
        calls).1.after.state
      rcases hc : f.checkReady o with e | u
      · rw [Solver.stepEnsemble_of_refused hc]
        exact .refl _
      cases going : f.state.isTerminated with
      | true =>
          rw [Solver.stepEnsemble_of_ended hc going]
          exact .refl _
      | false =>
          cases verdicts : Dispatch.verdicts f.map.name members.length
              (Solver.replies f members (Solver.moves o members) calls) with
          | error e =>
              rw [(Solver.stepEnsemble_of_verdicts_error build hc going verdicts).2]
              exact .refl _
          | ok flags =>
              rw [(Solver.stepEnsemble_of_verdicts_ok build hc going verdicts).2]
              exact Frame.stepsTo_conclude f flags _

/-! ## Traces -/

variable {c d e : Driver α} {l : Happening} {ls ms : List Happening}

namespace Trace

theorem append (first : Trace c ls d) (rest : Trace d ms e) : Trace c (ls ++ ms) e := by
  induction first with
  | nil => exact rest
  | cons h _ ih => exact .cons h (ih rest)

theorem single (h : Happens c l d) : Trace c [l] d := .cons h .nil

theorem pair_iff {l' : Happening} :
    Trace c [l, l'] e ↔ ∃ d, Happens c l d ∧ Happens d l' e := by
  constructor
  · intro h
    cases h with
    | cons first rest =>
        cases rest with
        | cons second nothing =>
            cases nothing
            exact ⟨_, first, second⟩
  · rintro ⟨d, first, second⟩
    exact .cons first (.single second)

/-- A trace can be cut anywhere. -/
theorem split (h : Trace c (ls ++ ms) e) : ∃ d, Trace c ls d ∧ Trace d ms e := by
  induction ls generalizing c with
  | nil => exact ⟨c, .nil, h⟩
  | cons l ls ih =>
      cases h with
      | cons first rest =>
          obtain ⟨d, before, after⟩ := ih rest
          exact ⟨d, .cons first before, after⟩

end Trace

namespace Happens

/-- A call that is under way always has something to do. -/
theorem progress (busy : c.moment ≠ .idle) : ∃ l d, l.own = true ∧ Happens c l d := by
  obtain ⟨s, n, m⟩ := c
  cases m with
  | idle => exact absurd rfl busy
  | opening o left =>
      cases h : s.state.isTerminated with
      | true => exact ⟨_, _, rfl, .ended h⟩
      | false => exact ⟨_, _, rfl, .going h⟩
  | asking o left =>
      cases h : s.token.take.1 with
      | true => exact ⟨_, _, rfl, .seen h⟩
      | false => exact ⟨_, _, rfl, .unseen h⟩
  | marking => exact ⟨_, _, rfl, .marked⟩
  | counting o left =>
      cases left with
      | zero => exact ⟨_, _, rfl, .spent⟩
      | succ left => exact ⟨_, _, rfl, .due⟩
  | generating o left => exact ⟨_, _, rfl, .generated⟩

/-- Only others act while no call is under way. -/
theorem busy_of_own (h : Happens c l d) (mine : l.own = true) : c.moment ≠ .idle := by
  cases h with
  | requested | withdrawn | tended | called => cases mine
  | ended | going | seen | unseen | marked | spent | due | generated => exact nofun

/-- What a call does next is determined. -/
theorem unique {l' : Happening} {d' : Driver α} (h : Happens c l d) (h' : Happens c l' d')
    (mine : l.own = true) (mine' : l'.own = true) : l = l' ∧ d = d' := by
  cases h with
  | requested | withdrawn | tended | called => cases mine
  | ended terminated =>
      cases h' with
      | requested | withdrawn => cases mine'
      | ended => exact ⟨rfl, rfl⟩
      | going goes => cases terminated.symm.trans goes
  | going goes =>
      cases h' with
      | requested | withdrawn => cases mine'
      | ended terminated => cases terminated.symm.trans goes
      | going => exact ⟨rfl, rfl⟩
  | seen up =>
      cases h' with
      | requested | withdrawn => cases mine'
      | seen => exact ⟨rfl, rfl⟩
      | unseen down => cases up.symm.trans down
  | unseen down =>
      cases h' with
      | requested | withdrawn => cases mine'
      | seen up => cases up.symm.trans down
      | unseen => exact ⟨rfl, rfl⟩
  | marked =>
      cases h' with
      | requested | withdrawn => cases mine'
      | marked => exact ⟨rfl, rfl⟩
  | spent =>
      cases h' with
      | requested | withdrawn => cases mine'
      | spent => exact ⟨rfl, rfl⟩
  | due =>
      cases h' with
      | requested | withdrawn => cases mine'
      | due => exact ⟨rfl, rfl⟩
  | generated =>
      cases h' with
      | requested | withdrawn => cases mine'
      | generated => exact ⟨rfl, rfl⟩

/-- A request raises the token and does nothing else. -/
theorem requested_iff :
    Happens c .requested d ↔ d = { c with solver := c.solver.setToken ⟨true⟩ } := by
  constructor
  · intro h
    cases h
    rfl
  · rintro rfl
    exact .requested

/-- A generation is a step of the solver. -/
theorem generated_iff {r : Except SolverError Bool} :
    Happens c (.generated r) d ↔ ∃ o left, c.moment = .generating o left ∧
      r = (c.solver.step o c.calls).1.result ∧
      d = ⟨(c.solver.step o c.calls).1.after, (c.solver.step o c.calls).2, .resume o left r⟩ := by
  constructor
  · intro h
    cases h
    exact ⟨_, _, rfl, rfl, rfl⟩
  · obtain ⟨s, n, m⟩ := c
    rintro ⟨o, left, rfl, rfl, rfl⟩
    exact .generated

end Happens

/-- A call that nobody disturbs ends in one way only. -/
theorem Trace.unique {ls' : List Happening} {d' : Driver α} (h : Trace c ls d)
    (h' : Trace c ls' d') (mine : ∀ l ∈ ls, l.own = true) (mine' : ∀ l ∈ ls', l.own = true)
    (returned : d.moment = .idle) (returned' : d'.moment = .idle) : d = d' := by
  induction h generalizing ls' with
  | nil =>
      cases h' with
      | nil => rfl
      | cons first _ => exact absurd returned (first.busy_of_own (mine' _ List.mem_cons_self))
  | cons first _ ih =>
      cases h' with
      | nil => exact absurd returned' (first.busy_of_own (mine _ List.mem_cons_self))
      | cons first' rest' =>
          obtain ⟨rfl, rfl⟩ :=
            first.unique first' (mine _ List.mem_cons_self) (mine' _ List.mem_cons_self)
          exact ih rest' (fun l hl => mine l (List.mem_cons_of_mem _ hl))
            (fun l hl => mine' l (List.mem_cons_of_mem _ hl)) returned

/-! ## A request within a generation -/

/-- The run goes on while a call is between its look at it and the generation. -/
def Driver.Going (c : Driver α) : Prop :=
  match c.moment with
  | .asking .. | .counting .. | .generating .. => c.solver.state.isTerminated = false
  | _ => True

theorem Happens.stays_going (h : Happens c l d) (going : c.Going) : d.Going := by
  cases h with
  | requested | withdrawn =>
      unfold Driver.Going at going ⊢
      simpa [Solver.cancel] using going
  | tended | called | ended | seen | marked | spent => trivial
  | going goes => exact goes
  | unseen =>
      unfold Driver.Going at going ⊢
      simpa using going
  | due => exact going
  | @generated s n o left =>
      unfold Driver.Going
      cases (s.step o n).1.result with
      | error e => trivial
      | ok b => cases b <;> trivial

theorem Trace.stays_going (h : Trace c ls d) (going : c.Going) : d.Going := by
  induction h with
  | nil => exact going
  | cons first _ ih => exact ih (first.stays_going going)

theorem Driver.Going.of_generating (going : c.Going) {o : Objective α} {left : Nat}
    (here : c.moment = .generating o left) : c.solver.state.isTerminated = false := by
  unfold Driver.Going at going
  rw [here] at going
  exact going

/-- **It does not matter where in a generation a request falls.** -/
theorem generated_anywhere (going : c.Going) (r : Except SolverError Bool) :
    Trace c [.requested, .generated r] d ↔ Trace c [.generated r, .requested] d := by
  rw [Trace.pair_iff, Trace.pair_iff]
  simp only [Happens.requested_iff, Happens.generated_iff]
  constructor
  · rintro ⟨_, rfl, o, left, here, rfl, rfl⟩
    obtain ⟨result, evaluations, after⟩ :=
      Solver.step_setToken ⟨true⟩ o c.calls (going.of_generating here)
    exact ⟨_, ⟨o, left, here, result, rfl⟩, by rw [after, evaluations]⟩
  · rintro ⟨_, ⟨o, left, here, rfl, rfl⟩, rfl⟩
    obtain ⟨result, evaluations, after⟩ :=
      Solver.step_setToken ⟨true⟩ o c.calls (going.of_generating here)
    exact ⟨_, rfl, o, left, here, result.symm, by rw [after, evaluations]⟩

/-! ## The traces of `solve` -/

namespace Driver

/-- Where an undisturbed call of `solve` leads; a monitor may ask for a stop on the way. -/
def solved (c : Driver α) (asks : Event α → Bool) (o : Objective α) (budget : Option Nat) :
    Driver α :=
  ⟨(c.solver.solve asks o c.calls budget).1.after, (c.solver.solve asks o c.calls budget).2, .idle⟩

variable {s : Solver α} {o : Objective α} {asks : Event α → Bool} {left n : Nat}
variable {past : List (Event α)}

/-- What happens in a call, apart from the call's own doing, is that a monitor asks for a
stop. -/
def OnlyAsked (asks : Event α → Bool) (ls : List Happening) : Prop :=
  ∀ l ∈ ls, l.own = false → l = .requested ∧ ∃ x, asks x = true

omit [Scalar α] in
theorem OnlyAsked.append {ls ms : List Happening} (first : OnlyAsked asks ls)
    (rest : OnlyAsked asks ms) : OnlyAsked asks (ls ++ ms) :=
  List.forall_mem_append.2 ⟨first, rest⟩

/-- A turn after which the call returns. -/
theorem trace_returning (h : s.turn left ≠ .due) :
    ∃ ls, OnlyAsked asks ls ∧ Trace ⟨s, n, .opening o left⟩ ls
      ⟨(Solver.solveFrom asks o left n past s).1.after, (Solver.solveFrom asks o left n past s).2,
        .idle⟩ := by
  cases terminated : s.state.isTerminated with
  | true =>
      have turn : s.turn left = .ended := if_pos terminated
      rw [Solver.solveFrom_done (Or.inl turn)]
      exact ⟨[.viewed true], by simp [OnlyAsked, Happening.own], .single (.ended terminated)⟩
  | false =>
      cases flag : s.token.cancelled with
      | true =>
          rw [Solver.solveFrom_cancelled (Solver.turn_eq_cancelled_iff.2 ⟨terminated, flag⟩)]
          exact ⟨[.viewed false, .taken true, .marked], by simp [OnlyAsked, Happening.own],
            .cons (.going terminated) (.cons (.seen flag) (.single .marked))⟩
      | false =>
          have none_left : left = 0 := by
            by_contra more
            exact h (Solver.turn_eq_due_iff.2 ⟨terminated, flag, more⟩)
          subst none_left
          have turn : s.turn 0 = .spent := by
            simp only [Solver.turn, terminated, flag, Bool.false_eq_true, if_false, if_true]
          rw [Solver.solveFrom_done (Or.inr turn)]
          refine ⟨[.viewed false, .taken false, .counted false], by simp [OnlyAsked, Happening.own],
            .cons (.going terminated) (.cons (.unseen flag) ?_)⟩
          rw [Solver.setToken_take flag]
          exact .single .spent

/-- A turn with a generation; the request of a monitor falls into it. -/
theorem trace_due (asks : Event α → Bool) (o : Objective α) (left n : Nat)
    (going : s.state.isTerminated = false) (down : s.token.cancelled = false) :
    ∃ ls, OnlyAsked asks ls ∧ Trace ⟨s, n, .opening o (left + 1)⟩ ls
      ⟨Solver.heed asks (s.step o n).1, (s.step o n).2, .resume o left (s.step o n).1.result⟩ := by
  have counting : Trace ⟨s, n, .opening o (left + 1)⟩ [.viewed false, .taken false, .counted true]
      ⟨s, n, .generating o left⟩ := by
    refine .cons (.going going) (.cons (.unseen down) ?_)
    rw [Solver.setToken_take down]
    exact .single .due
  have quiet : OnlyAsked asks [.viewed false, .taken false, .counted true] := by
    simp [OnlyAsked, Happening.own]
  unfold Solver.heed
  by_cases asked : (s.step o n).1.events.any asks = true
  · obtain ⟨x, _, hx⟩ := List.any_eq_true.1 asked
    have within : Trace ⟨s, n, .generating o left⟩
        [.requested, .generated (s.step o n).1.result]
        ⟨(s.step o n).1.after.cancel, (s.step o n).2, .resume o left (s.step o n).1.result⟩ :=
      (generated_anywhere (show Going ⟨s, n, .generating o left⟩ from going) _).2
        (.cons .generated (.single .requested))
    rw [if_pos asked]
    refine ⟨_, quiet.append ?_, counting.append within⟩
    intro l hl foreign
    rcases List.mem_pair.1 hl with rfl | rfl
    · exact ⟨rfl, x, hx⟩
    · cases foreign
  · rw [if_neg asked]
    refine ⟨_, quiet.append ?_, counting.append (.single .generated)⟩
    simp [OnlyAsked, Happening.own]

/-- **Every call of `solve` is a trace**, from any of its turns on. -/
theorem trace_solveFrom (asks : Event α → Bool) (o : Objective α) (left n : Nat)
    (past : List (Event α)) (s : Solver α) :
    ∃ ls, OnlyAsked asks ls ∧ Trace ⟨s, n, .opening o left⟩ ls
      ⟨(Solver.solveFrom asks o left n past s).1.after, (Solver.solveFrom asks o left n past s).2,
        .idle⟩ := by
  induction left generalizing n past s with
  | zero => exact trace_returning fun due => (Solver.turn_eq_due_iff.1 due).2.2 rfl
  | succ left ih =>
      by_cases due : s.turn (left + 1) = .due
      · obtain ⟨going, down, _⟩ := Solver.turn_eq_due_iff.1 due
        obtain ⟨ls, quiet, turn⟩ := trace_due asks o left n going down
        rw [Solver.solveFrom_due due]
        unfold Solver.solveOn
        cases result : (s.step o n).1.result with
        | error e =>
            rw [result] at turn
            exact ⟨ls, quiet, turn⟩
        | ok b =>
            rw [result] at turn
            cases b with
            | true => exact ⟨ls, quiet, turn⟩
            | false =>
                obtain ⟨ms, quiet', rest⟩ := ih _ _ _
                exact ⟨ls ++ ms, quiet.append quiet', turn.append rest⟩
      · exact trace_returning due

/-- **A call that nobody disturbs is `solve`.** -/
theorem eq_solved (budget : Option Nat) (mine : ∀ l ∈ ls, l.own = true)
    (returned : d.moment = .idle)
    (h : Trace { c with moment := .opening o (budget.getD Solver.unlimited) } ls d) :
    d = c.solved (fun _ => false) o budget := by
  obtain ⟨ms, quiet, solves⟩ :=
    trace_solveFrom (fun _ => false) o (budget.getD Solver.unlimited) c.calls [] c.solver
  refine h.unique solves mine ?_ returned rfl
  intro l hl
  cases own : l.own with
  | true => rfl
  | false =>
      obtain ⟨_, x, asked⟩ := quiet l hl own
      cases asked

end Driver

end

end BoxSearch

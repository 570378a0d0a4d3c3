import BoxSearch.Proofs.Solver.Interleaving
import BoxSearch.Proofs.Solver.Slices

/-!
# No request to stop is lost or invented

A request to stop is `owed` from the moment it is made until it is taken, by the solver or by
whoever made it.  Whatever happens in whatever order, the token is up exactly while a request is
owed (`Happens.flag`), so the solver sees every request and sees none that was not made.

What follows is when it sees it.  A call on whose solver a request is owed is `Stopping`: it makes
at most the one generation that is under way or already past its look at the token, and returns
after at most five things of its own (`Trace.stopping`).  A call on a token that is down goes
through to its generation (`Trace.goes_on`).  `no_request_lost_or_invented` puts this together at
every moment that any history of requests, calls and other uses of the solver can reach.
-/

namespace BoxSearch

/-! ## Owed requests -/

namespace Happening

/-- Whether a request is owed after something happened, if one was owed before it or not. -/
def owes (before : Bool) : Happening → Bool
  | .requested => true
  | .withdrawn | .taken _ => false
  | _ => before

end Happening

/-- Whether a request was made since the token was last taken or lowered. -/
def owed (before : Bool) (ls : List Happening) : Bool := ls.foldl Happening.owes before

section

variable {α : Type} [Scalar α]
variable {c d e : Driver α} {l : Happening} {ls ms : List Happening}

/-- **The token is up exactly while a request is owed**: one thing more. -/
theorem Happens.flag (h : Happens c l d) :
    d.solver.token.cancelled = l.owes c.solver.token.cancelled := by
  cases h with
  | requested => exact congrArg CancelToken.cancelled Solver.token_cancel
  | withdrawn => exact congrArg CancelToken.cancelled Solver.token_setToken
  | tended same => exact congrArg CancelToken.cancelled same
  | called | ended | going | spent | due => rfl
  | seen | unseen => exact congrArg CancelToken.cancelled Solver.token_setToken
  | marked => exact congrArg CancelToken.cancelled Solver.token_markCancelled
  | generated => exact congrArg CancelToken.cancelled (Solver.token_step _ _ _)

theorem Trace.flag (h : Trace c ls d) :
    d.solver.token.cancelled = owed c.solver.token.cancelled ls := by
  induction h with
  | nil => rfl
  | cons first _ ih =>
      rw [ih, first.flag]
      rfl

/-- What a call takes is what the token says. -/
theorem Happens.seen_eq {seen : Bool} (h : Happens c (.taken seen) d) :
    seen = c.solver.token.cancelled := by
  cases h with
  | seen up => exact up.symm
  | unseen down => exact down.symm

/-- What is said to return is what ends a call. -/
theorem Happens.returns_iff (h : Happens c l d) (busy : c.moment ≠ .idle) :
    l.returns = true ↔ d.moment = .idle := by
  cases h with
  | requested | withdrawn => exact iff_of_false nofun busy
  | tended | called => exact absurd rfl busy
  | ended | marked | spent => exact iff_of_true rfl rfl
  | going | seen | unseen | due => exact iff_of_false nofun nofun
  | @generated s n o left =>
      cases (s.step o n).1.result with
      | error e => exact iff_of_true rfl rfl
      | ok b =>
          cases b with
          | true => exact iff_of_true rfl rfl
          | false => exact iff_of_false nofun nofun

/-- A call does not lower the token when it returns. -/
theorem Happening.owes_of_returns {before : Bool} (h : l.returns = true) :
    l.owes before = before := by
  cases l with
  | requested | withdrawn | taken => cases h
  | tended | called | viewed | marked | counted | generated => rfl

/-! ## Calls that stop -/

namespace Moment

/-- The generations that a call makes although a request is owed: one, if it is under way or the
call is past its look at the token. -/
def pastCheck : Moment α → Nat
  | .counting .. | .generating .. => 1
  | _ => 0

/-- What a call has left to do, at most, once a request is owed. -/
def remaining : Moment α → Nat
  | .idle => 0
  | .marking => 1
  | .asking .. => 2
  | .opening .. => 3
  | .generating .. => 4
  | .counting .. => 5

omit [Scalar α] in
theorem remaining_le (m : Moment α) : m.remaining ≤ 5 := by
  cases m <;> simp only [remaining, Nat.reduceLeDiff]

end Moment

/-- A call that is going to return because of a request: it has taken one, or finds one that is
owed. -/
def Driver.Stopping (c : Driver α) : Prop :=
  c.moment = .idle ∨ c.moment = .marking ∨ c.solver.token.cancelled = true

theorem Driver.Stopping.flag (stopping : c.Stopping) (busy : c.moment ≠ .idle)
    (unmarked : c.moment ≠ .marking) : c.solver.token.cancelled = true := by
  rcases stopping with h | h | h
  · exact absurd h busy
  · exact absurd h unmarked
  · exact h

/-- **One thing more in a call that is stopping**: it goes on stopping, with no more generations
and less to do. -/
theorem Happens.stopping (h : Happens c l d) (stopping : c.Stopping) (busy : c.moment ≠ .idle)
    (kept : l ≠ .withdrawn) :
    d.Stopping ∧
      d.solver.state.generation + d.moment.pastCheck ≤
        c.solver.state.generation + c.moment.pastCheck ∧
      d.moment.remaining + l.own.toNat ≤ c.moment.remaining := by
  cases h with
  | @requested s n m =>
      have same : s.cancel.state = s.state := Solver.state_setToken
      exact ⟨Or.inr (Or.inr (congrArg CancelToken.cancelled Solver.token_cancel)),
        Nat.le_of_eq (congrArg (·.generation + m.pastCheck) same), Nat.le_refl _⟩
  | withdrawn => exact absurd rfl kept
  | tended | called => exact absurd rfl busy
  | ended => exact ⟨Or.inl rfl, Nat.le_refl _, Nat.succ_le_succ (Nat.zero_le _)⟩
  | going => exact ⟨Or.inr (Or.inr (stopping.flag nofun nofun)), Nat.le_refl _, Nat.le_refl _⟩
  | @seen s n o left =>
      have same : (s.setToken s.token.take.2).state = s.state := Solver.state_setToken
      exact ⟨Or.inr (Or.inl rfl), Nat.le_of_eq (congrArg State.generation same), Nat.le_refl _⟩
  | unseen down => cases down.symm.trans (stopping.flag nofun nofun)
  | marked => exact ⟨Or.inl rfl, Nat.le_of_eq Solver.generation_markCancelled, Nat.le_refl _⟩
  | spent => exact ⟨Or.inl rfl, Nat.le_succ _, Nat.succ_le_succ (Nat.zero_le _)⟩
  | due => exact ⟨Or.inr (Or.inr (stopping.flag nofun nofun)), Nat.le_refl _, Nat.le_refl _⟩
  | @generated s n o left =>
      have up := stopping.flag nofun nofun
      have counted := (Solver.stepsTo s o n).generation
      have still : (s.step o n).1.after.token.cancelled = true :=
        (congrArg CancelToken.cancelled (Solver.token_step s o n)).trans up
      refine ⟨Or.inr (Or.inr still), ?_⟩
      cases (s.step o n).1.result with
      | error e => exact ⟨counted, Nat.succ_le_succ (Nat.zero_le _)⟩
      | ok b =>
          cases b with
          | true => exact ⟨counted, Nat.succ_le_succ (Nat.zero_le _)⟩
          | false => exact ⟨counted, Nat.le_refl _⟩

/-- **A call that is stopping**, until it has returned. -/
theorem Trace.stopping (h : Trace c ls d) (stopping : c.Stopping) (busy : c.moment ≠ .idle)
    (within : ∀ l ∈ ls.dropLast, l.returns = false) (kept : .withdrawn ∉ ls) :
    d.solver.state.generation + d.moment.pastCheck ≤
        c.solver.state.generation + c.moment.pastCheck ∧
      d.moment.remaining + ls.countP Happening.own ≤ c.moment.remaining := by
  induction h with
  | nil => exact ⟨Nat.le_refl _, Nat.le_refl _⟩
  | @cons c m d l ls first rest ih =>
      obtain ⟨stopping', committed, done⟩ := first.stopping stopping busy
        fun same => kept (same ▸ List.mem_cons_self)
      have counted : (l :: ls).countP Happening.own = ls.countP Happening.own + l.own.toNat := by
        rw [List.countP_cons]
        cases l.own <;> rfl
      cases ls with
      | nil =>
          cases rest
          rw [counted, List.countP_nil, Nat.zero_add]
          exact ⟨committed, done⟩
      | cons l' ls =>
          have stays : m.moment ≠ .idle := fun idle => by
            cases ((first.returns_iff busy).2 idle).symm.trans (within l List.mem_cons_self)
          obtain ⟨committed', done'⟩ := ih stopping' stays
            (fun l hl => within l (List.mem_cons_of_mem _ hl))
            (fun hl => kept (List.mem_cons_of_mem _ hl))
          rw [counted]
          omega

/-! ## Calls that proceed -/

/-- What a call that may make a step has left to do before its generation. -/
def Moment.ahead : Moment α → Option Nat
  | .opening _ (_ + 1) => some 3
  | .asking _ (_ + 1) => some 2
  | .counting _ (_ + 1) => some 1
  | .generating .. => some 0
  | _ => none

/-- A call that is going to make a generation, with so much left to do before. -/
structure Driver.Proceeding (c : Driver α) (left : Nat) : Prop where
  /-- nobody asks it to stop -/
  down : c.solver.token.cancelled = false
  /-- the run goes on -/
  going : c.solver.state.isTerminated = false
  /-- it may make a step -/
  ahead : c.moment.ahead = some left

theorem Driver.Proceeding.busy {left : Nat} (proceeding : c.Proceeding left) :
    c.moment ≠ .idle := by
  intro idle
  have ahead := proceeding.ahead
  rw [idle] at ahead
  cases ahead

/-- **One thing more in a call that proceeds.** -/
theorem Happens.proceeding {left : Nat} (h : Happens c l d) (proceeding : c.Proceeding left)
    (undisturbed : l ≠ .requested) (before : ∀ r, l ≠ .generated r) :
    ∃ less, d.Proceeding less ∧ less + l.own.toNat ≤ left := by
  obtain ⟨down, going, ahead⟩ := proceeding
  cases h with
  | requested => exact absurd rfl undisturbed
  | generated => exact absurd rfl (before _)
  | withdrawn =>
      exact ⟨left, ⟨congrArg CancelToken.cancelled Solver.token_setToken,
        (congrArg State.isTerminated Solver.state_setToken).trans going, ahead⟩, Nat.le_refl _⟩
  | tended | called | marked | spent => cases ahead
  | ended terminated => cases terminated.symm.trans going
  | seen up => cases up.symm.trans down
  | @going s n o k =>
      cases k with
      | zero => cases ahead
      | succ k =>
          cases ahead
          exact ⟨2, ⟨down, going, rfl⟩, Nat.le_refl _⟩
  | @unseen s n o k =>
      cases k with
      | zero => cases ahead
      | succ k =>
          cases ahead
          exact ⟨1, ⟨congrArg CancelToken.cancelled Solver.token_setToken,
            (congrArg State.isTerminated Solver.state_setToken).trans going, rfl⟩, Nat.le_refl _⟩
  | due =>
      cases ahead
      exact ⟨0, ⟨down, going, rfl⟩, Nat.le_refl _⟩

/-- **A call that proceeds**, until it makes its generation. -/
theorem Trace.proceeding {left : Nat} (h : Trace c ls d) (proceeding : c.Proceeding left)
    (undisturbed : .requested ∉ ls) (before : ∀ r, .generated r ∉ ls) :
    d.moment ≠ .idle ∧ ls.countP Happening.own ≤ left := by
  induction h generalizing left with
  | nil => exact ⟨proceeding.busy, Nat.zero_le _⟩
  | @cons c m d l ls first rest ih =>
      obtain ⟨less, proceeding', done⟩ := first.proceeding proceeding
        (fun same => undisturbed (same ▸ List.mem_cons_self))
        (fun r same => before r (same ▸ List.mem_cons_self))
      obtain ⟨busy, counted⟩ := ih proceeding' (fun hl => undisturbed (List.mem_cons_of_mem _ hl))
        (fun r hl => before r (List.mem_cons_of_mem _ hl))
      refine ⟨busy, ?_⟩
      rw [List.countP_cons]
      cases own : l.own with
      | true =>
          rw [own] at done
          exact Nat.le_trans (Nat.add_le_add_right counted 1) done
      | false =>
          rw [own] at done
          exact Nat.le_trans counted done

/-- A call that may make a step proceeds on a token that is down, if the run has not ended. -/
theorem Happens.proceeding_of_called {budget : Option Nat} (h : Happens c (.called budget) d)
    (down : c.solver.token.cancelled = false) (going : c.solver.state.isTerminated = false)
    (more : budget ≠ some 0) : d.Proceeding 3 := by
  have some_left : ∃ left, budget.getD Solver.unlimited = left + 1 := by
    cases budget with
    | none => exact ⟨Solver.unlimited - 1, rfl⟩
    | some k =>
        cases k with
        | zero => exact absurd rfl more
        | succ k => exact ⟨k, rfl⟩
  obtain ⟨left, budgeted⟩ := some_left
  cases h with
  | called o budget =>
      refine ⟨down, going, ?_⟩
      rw [budgeted]
      rfl

theorem Happens.going_of_taken {seen : Bool} (h : Happens c (.taken seen) d) (going : c.Going) :
    d.solver.state.isTerminated = false := by
  cases h with
  | seen | unseen =>
      rw [Solver.state_setToken]
      exact going

/-- A request that was taken leaves the token down and the run open, whether or not it is
recorded yet. -/
theorem Trace.cleared (h : Trace c ls d) (only : ∀ l ∈ ls, l = .marked ∨ l = .withdrawn)
    (down : c.solver.token.cancelled = false) (going : c.solver.state.isTerminated = false) :
    d.solver.token.cancelled = false ∧ d.solver.state.isTerminated = false := by
  induction h with
  | nil => exact ⟨down, going⟩
  | cons first _ ih =>
      refine ih (fun l hl => only l (List.mem_cons_of_mem _ hl)) ?_ ?_
      · rw [first.flag]
        rcases only _ List.mem_cons_self with rfl | rfl
        · exact down
        · rfl
      · rcases only _ List.mem_cons_self with rfl | rfl
        · cases first
          exact Solver.isTerminated_markCancelled
        · cases first
          rw [Solver.state_setToken]
          exact going

/-! ## Marks -/

/-- A request is only recorded where one was just taken. -/
theorem Happens.marking (h : Happens c l d) (here : d.moment = .marking) :
    (c.moment = .marking ∧ (l = .requested ∨ l = .withdrawn)) ∨ l = .taken true := by
  cases h with
  | requested => exact Or.inl ⟨here, Or.inl rfl⟩
  | withdrawn => exact Or.inl ⟨here, Or.inr rfl⟩
  | seen => exact Or.inr rfl
  | tended | called | ended | going | unseen | marked | spent | due => cases here
  | @generated s n o left =>
      cases result : (s.step o n).1.result with
      | error e =>
          simp only [result] at here
          cases here
      | ok b =>
          simp only [result] at here
          cases b <;> cases here

/-- Only recording a request makes a run cancelled. -/
theorem Happens.status_cancelled (h : Happens c l d) (busy : c.moment ≠ .idle)
    (cancelled : d.solver.state.status = .cancelled) :
    c.solver.state.status = .cancelled ∨ l = .marked := by
  cases h with
  | requested | withdrawn | seen | unseen =>
      exact Or.inl ((congrArg State.status Solver.state_setToken).symm.trans cancelled)
  | tended | called => exact absurd rfl busy
  | ended | going | spent | due => exact Or.inl cancelled
  | marked => exact Or.inr rfl
  | @generated s n o left => exact Or.inl ((Solver.stepsTo s o n).status cancelled)

theorem Trace.marking (h : Trace c ls d) (here : d.moment = .marking) :
    (c.moment = .marking ∧ ∀ l ∈ ls, l = .requested ∨ l = .withdrawn) ∨
      ∃ first rest, ls = first ++ .taken true :: rest ∧
        owed c.solver.token.cancelled first = true ∧
          ∀ l ∈ rest, l = .requested ∨ l = .withdrawn := by
  induction h with
  | nil => exact Or.inl ⟨here, nofun⟩
  | @cons c m d l ls step _ ih =>
      rcases ih here with ⟨marking, quiet⟩ | ⟨first, rest, rfl, asked, quiet⟩
      · rcases step.marking marking with ⟨marking', foreign⟩ | rfl
        · exact Or.inl ⟨marking', List.forall_mem_cons.2 ⟨foreign, quiet⟩⟩
        · exact Or.inr ⟨[], ls, rfl, step.seen_eq.symm, quiet⟩
      · rw [step.flag] at asked
        exact Or.inr ⟨l :: first, rest, rfl, asked, quiet⟩

/-! ## Every interleaving -/

/-- How requests to stop fare at a moment: `before` happened since the solver `s` was idle, and
led to `c`. -/
structure Driver.Honoured (s : Solver α) (before : List Happening) (c : Driver α) : Prop where
  /-- the token is up exactly if a request is owed -/
  token : c.solver.token.cancelled = owed s.token.cancelled before
  /-- a call that takes a request takes it exactly if one is owed, and leaves the token down -/
  taken : ∀ seen d, Happens c (.taken seen) d →
    seen = owed s.token.cancelled before ∧ d.solver.token.cancelled = false
  /-- a request is recorded only if one was owed when the call just looked -/
  marks : ∀ d, Happens c .marked d → ∃ first rest, before = first ++ .taken true :: rest ∧
    owed s.token.cancelled first = true ∧ ∀ l ∈ rest, l = .requested ∨ l = .withdrawn
  /-- in a call, nothing else makes the run cancelled -/
  cancelled : ∀ l d, c.moment ≠ .idle → Happens c l d → d.solver.state.status = .cancelled →
    c.solver.state.status = .cancelled ∨ l = .marked
  /-- if a request is owed and nobody takes it back, a call commits no generation any more until
  it returns, but for the one that is past the look at the token; and it returns soon -/
  stops : c.moment ≠ .idle → owed s.token.cancelled before = true → ∀ ls d, Trace c ls d →
    (∀ l ∈ ls.dropLast, l.returns = false) → .withdrawn ∉ ls →
    d.solver.state.generation ≤ c.solver.state.generation + c.moment.pastCheck ∧
      ls.countP Happening.own ≤ 5
  /-- a call that is under way is never stuck -/
  progress : c.moment ≠ .idle → ∃ l d, l.own = true ∧ Happens c l d
  /-- after one request was taken, the next call does not return without a generation, unless
  another request is made -/
  resumes : ∀ gap budget ls d, Trace c (.taken true :: (gap ++ .called budget :: ls)) d →
    (∀ l ∈ gap, l = .marked ∨ l = .withdrawn) → budget ≠ some 0 →
    .requested ∉ ls → (∀ r, .generated r ∉ ls) →
    d.moment ≠ .idle ∧ ls.countP Happening.own ≤ 3
  /-- a request that is owed when the call returns is still there afterwards -/
  pending : ∀ l d, c.moment ≠ .idle → Happens c l d → d.moment = .idle →
    owed s.token.cancelled before = true → d.solver.token.cancelled = true
  /-- a request within a generation is as good as one before it or after it -/
  anywhere : ∀ r d, Trace c [.requested, .generated r] d ↔ Trace c [.generated r, .requested] d
  /-- `solve` is one of these calls, and the only one that nobody disturbs -/
  solves : c.moment = .idle → ∀ o budget,
    (∀ asks, ∃ ls, OnlyAsked asks ls ∧ Trace c (.called budget :: ls) (c.solved asks o budget)) ∧
      ∀ ls d, (∀ l ∈ ls, l.own = true) → d.moment = .idle →
        Trace { c with moment := .opening o (budget.getD Solver.unlimited) } ls d →
        d = c.solved (fun _ => false) o budget

namespace Solver

/-- **No request to stop is lost or invented**, on any solver, whatever requests, calls of `solve`
and other uses of the solver came before in whatever order, and whatever comes after. -/
theorem no_request_lost_or_invented (s : Solver α) (calls : Nat) (before : List Happening)
    (c : Driver α) (reached : Trace ⟨s, calls, .idle⟩ before c) : c.Honoured s before := by
  have token : c.solver.token.cancelled = owed s.token.cancelled before := reached.flag
  have going : c.Going := reached.stays_going trivial
  refine ⟨token, ?taken, ?marks, fun l d busy h => h.status_cancelled busy, ?stops,
    Happens.progress, ?resumes, ?pending, fun r d => generated_anywhere going r, ?solves⟩
  case taken =>
    intro seen d h
    exact ⟨h.seen_eq.trans token, h.flag⟩
  case marks =>
    intro d h
    have here : c.moment = .marking := by
      cases h
      rfl
    rcases reached.marking here with ⟨idle, _⟩ | taken
    · cases idle
    · exact taken
  case stops =>
    intro busy asked ls d h within kept
    have stopping : c.Stopping := Or.inr (Or.inr (token.trans asked))
    obtain ⟨committed, done⟩ := h.stopping stopping busy within kept
    have few := c.moment.remaining_le
    exact ⟨by omega, by omega⟩
  case resumes =>
    intro gap budget ls d h only more undisturbed before_generation
    cases h with
    | cons took rest =>
        obtain ⟨e, quiet, rest⟩ := rest.split
        obtain ⟨down, goes⟩ := quiet.cleared only took.flag (took.going_of_taken going)
        cases rest with
        | cons call rest =>
            exact rest.proceeding (call.proceeding_of_called down goes more) undisturbed
              before_generation
  case pending =>
    intro l d busy h returned asked
    rw [h.flag, Happening.owes_of_returns ((h.returns_iff busy).2 returned)]
    exact token.trans asked
  case solves =>
    intro idle o budget
    refine ⟨fun asks => ?_, fun ls d mine returned h => Driver.eq_solved budget mine returned h⟩
    obtain ⟨ls, quiet, h⟩ :=
      Driver.trace_solveFrom asks o (budget.getD unlimited) c.calls [] c.solver
    obtain ⟨t, n, m⟩ := c
    cases idle
    exact ⟨ls, quiet, .cons (.called o budget) h⟩

/-! ### A request within the first generation -/

/-- A request falls into the first of five generations that a call may make.  Unless somebody takes
it back, the call commits no other one, and returns within five things of its own. -/
theorem no_request_lost_or_invented_twoProbes :
    ∃ c : Driver Float, Trace ⟨twoProbes, 0, .idle⟩
        [.called (some 5), .viewed false, .taken false, .counted true, .requested] c ∧
      c.solver.token.cancelled = true ∧
      ∀ ls d, Trace c ls d → (∀ l ∈ ls.dropLast, l.returns = false) → .withdrawn ∉ ls →
        d.solver.state.generation ≤ 1 ∧ ls.countP Happening.own ≤ 5 := by
  have going : twoProbes.state.isTerminated = false := by decide +kernel
  have down : twoProbes.token.take.1 = false := by decide +kernel
  have start : (twoProbes.setToken twoProbes.token.take.2).cancel.state.generation = 0 := by
    decide +kernel
  have history : Trace ⟨twoProbes, 0, .idle⟩
      [.called (some 5), .viewed false, .taken false, .counted true, .requested] _ :=
    .cons (.called (.ofFunction fun x => x.headD 0) _)
      (.cons (.going going) (.cons (.unseen down) (.cons .due (.single .requested))))
  have honoured := no_request_lost_or_invented twoProbes 0 _ _ history
  refine ⟨_, history, rfl, fun ls d h within kept => ?_⟩
  have asked : owed twoProbes.token.cancelled
      [.called (some 5), .viewed false, .taken false, .counted true, .requested] = true := rfl
  obtain ⟨committed, done⟩ := honoured.stops nofun asked ls d h within kept
  rw [start] at committed
  exact ⟨committed, done⟩

end Solver

end

end BoxSearch

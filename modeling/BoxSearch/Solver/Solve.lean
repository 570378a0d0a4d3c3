import BoxSearch.Solver.Tree

/-!
# Running to the end

`Solver.solve` steps a solver until its run has ended, a request to stop is seen,
or the call has made as many steps as it may.  Between two generations it does
these things in this order: it looks whether the run has ended, takes a request to
stop, looks whether a step is left, and steps.  A request that is taken is spent:
the next call goes on from the last committed generation.

`Turn` is what happens between two generations, and `solve` repeats `turn`.  A
request can come from inside a generation, from a monitor that watches its events;
`asks` says on which events that happens.
-/

namespace BoxSearch

namespace Solver

variable {α : Type} [Scalar α]

/-- Why a call of `solve` returns between two generations. -/
inductive Turn where
  /-- the run has ended -/
  | ended
  /-- a request to stop was taken -/
  | cancelled
  /-- the call has made all its steps -/
  | spent
  /-- another generation is due -/
  | due
  deriving DecidableEq, Repr

/-- What is to be done between two generations, with the given number of steps left. -/
def turn (s : Solver α) (left : Nat) : Turn :=
  if s.state.isTerminated then .ended
  else if s.token.cancelled then .cancelled
  else if left = 0 then .spent
  else .due

/-- The solver after a request to stop was taken. -/
def takeCancel (s : Solver α) : Solver α := (s.setToken s.token.take.2).markCancelled

/-- The solver after a generation, with the request of a monitor, if one made it. -/
def heed (asks : Event α → Bool) (reply : Reply (Solver α) α Bool) : Solver α :=
  if reply.events.any asks then reply.after.cancel else reply.after

/-- The number of steps of a call without a limit, more than any run makes. -/
def unlimited : Nat := UInt64.size - 1

/-- Solves with the given number of steps left; `past` holds the events so far, newest
first. -/
def solveFrom (asks : Event α → Bool) (o : Objective α) :
    Nat → Nat → List (Event α) → Solver α → Reply (Solver α) α Unit × Nat
  | left, calls, past, s =>
    match s.turn left, left with
    | .due, left + 1 =>
      let (reply, calls) := s.step o calls
      let s := heed asks reply
      let past := reply.events.reverse ++ past
      match reply.result with
      | .error e => (⟨.error e, s, past.reverse⟩, calls)
      | .ok true => (.done s () past.reverse, calls)
      | .ok false => solveFrom asks o left calls past s
    | .cancelled, _ =>
      (.done s.takeCancel () (.log (.cancelled s.state.generation) :: past).reverse, calls)
    | _, _ => (.done s () past.reverse, calls)

/-- Solves: steps until the run has ended, a request to stop is seen, or `budget` steps
are made. -/
def solve (s : Solver α) (asks : Event α → Bool) (o : Objective α) (calls : Nat)
    (budget : Option Nat) : Reply (Solver α) α Unit × Nat :=
  solveFrom asks o (budget.getD unlimited) calls [] s

end Solver

end BoxSearch

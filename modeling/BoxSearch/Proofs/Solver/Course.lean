import BoxSearch.Proofs.Solver.Committed
import Mathlib.Data.List.Chain

/-!
# The course of a run

What the monitors see of a run, its course, is the start point and then the best point after every
generation that was committed.  A generation stalls if its best energy is no lower than the one
before.

* `Reply.milestones` — the generations that an operation committed, and `course` — those of a run;
* `stalls` — how many generations stalled, and `stalls_concat` — one generation more;
* `Descending` — every generation that does not stall lowers the energy, and the others repeat the
  best pair;
* `EndedOnce` — no generation is committed after the one that ended the run.
-/

namespace BoxSearch

/-- The best points of the generations that an operation committed, as it recorded them. -/
def Reply.milestones {σ α ρ : Type} (r : Reply σ α ρ) : List (Record α) :=
  match r.result with
  | .ok _ => r.events.filterMap Event.generation?
  | .error _ => []

/-- The start point of a run and its best points after each committed generation, as its replies
recorded them. -/
def course {σ α ρ : Type} (rs : List (Reply σ α ρ)) : List (Record α) :=
  (rs.flatMap Reply.committed).take 1 ++ rs.flatMap Reply.milestones

/-- How often the energy is not below the one before. -/
def stalls {α : Type} : List (Record α) → Nat
  | a :: b :: rest => (if b.energy < a.energy then 0 else 1) + stalls (b :: rest)
  | _ => 0

/-- Every entry has a lower energy than the one before, or it repeats that one's point and
energy. -/
def Descending {α : Type} (records : List (Record α)) : Prop :=
  records.IsChain fun a b => b.energy < a.energy ∨ b.point = a.point ∧ b.energy = a.energy

/-- A run is not taken up again once a generation has ended it. -/
def EndedOnce {σ α : Type} (rs : List (Reply σ α Bool)) : Prop :=
  rs.Pairwise fun r later => r.result = .ok true → later.milestones = []

section

variable {σ α ρ : Type}

theorem Reply.milestones_of_ok {r : Reply σ α ρ} {x : ρ} (h : r.result = .ok x) :
    r.milestones = r.events.filterMap Event.generation? := by
  simp [milestones, h]

theorem Reply.milestones_of_error {r : Reply σ α ρ} {e : SolverError} (h : r.result = .error e) :
    r.milestones = [] := by
  simp [milestones, h]

theorem stalls_concat (before : List (Record α)) (a b : Record α) :
    stalls (before ++ [a, b]) =
      stalls (before ++ [a]) + if b.energy < a.energy then 0 else 1 := by
  induction before with
  | nil => simp [stalls]
  | cons x before ih =>
      cases before with
      | nil => simp [stalls]
      | cons y before =>
          simp only [List.cons_append, stalls] at ih ⊢
          omega

theorem Descending.concat {before : List (Record α)} {a b : Record α}
    (h : Descending (before ++ [a]))
    (next : b.energy < a.energy ∨ b.point = a.point ∧ b.energy = a.energy) :
    Descending (before ++ [a, b]) := by
  unfold Descending at *
  rw [List.isChain_append_cons_cons]
  exact ⟨h, next, List.isChain_singleton b⟩

/-- A generation is completed only in a run that had not ended. -/
theorem EndedOnce.of_concat {rs : List (Reply σ α Bool)} {r : Reply σ α Bool}
    (once : EndedOnce (rs ++ [r])) (completed : r.milestones ≠ []) :
    ∀ r' ∈ rs, r'.result ≠ .ok true := by
  intro r' hr' ended
  exact completed ((List.pairwise_append.1 once).2.2 r' hr' r (List.mem_singleton_self r) ended)

/-- A reply that commits nothing leaves no trace in the course. -/
theorem course_concat_of_silent (rs : List (Reply σ α ρ)) {r : Reply σ α ρ}
    (unevaluated : r.committed = []) (incomplete : r.milestones = []) :
    course (rs ++ [r]) = course rs := by
  simp [course, unevaluated, incomplete]

/-- Once the start point is known, a reply adds the generations that it committed. -/
theorem course_concat {rs : List (Reply σ α ρ)} (begun : rs.flatMap Reply.committed ≠ [])
    (r : Reply σ α ρ) : course (rs ++ [r]) = course rs ++ r.milestones := by
  have first : (rs.flatMap Reply.committed ++ r.committed).take 1 =
      (rs.flatMap Reply.committed).take 1 := by
    cases h : rs.flatMap Reply.committed with
    | nil => exact absurd h begun
    | cons a rest => rfl
  simp [course, first]

end

end BoxSearch

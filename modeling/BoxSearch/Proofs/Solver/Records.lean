import BoxSearch.Solver.Tree
import Mathlib.Data.List.Range

/-!
# Records and the attempts that made them

Every batch that succeeds reports its evaluations one by one, numbered on from the
evaluations that its solver had spent before (`evaluated_records`).  Two batches number
their evaluations as one would when the second begins where the first one ended
(`numbered_append`), so a log whose batches follow each other without a gap reads
`1, 2, 3, …`.

Events stand even when the operation that reported them fails.  `Reply.spilled` are the
numbers that a failed operation left in the log, and `Solver.Tried` is a run by single
steps that keeps the reply to every one of them, so that a statement about the log can
tell what the failed steps added to it.
-/

namespace BoxSearch

variable {α σ ρ : Type}

/-! ## Numbers -/

/-- The records of evaluated points, the first of which has the number `first`. -/
def numbered (first : Nat) (xs : List (Point α × Float)) : List (Record α) :=
  xs.mapIdx fun k x => ⟨first + k, x.1, x.2⟩

theorem numbered_append (first : Nat) (xs ys : List (Point α × Float)) :
    numbered first (xs ++ ys) = numbered first xs ++ numbered (first + xs.length) ys := by
  unfold numbered
  rw [List.mapIdx_append]
  simp only [Nat.add_assoc, Nat.add_comm xs.length]

/-- The numbers count on without a gap. -/
theorem map_evaluations_numbered (first : Nat) (xs : List (Point α × Float)) :
    (numbered first xs).map (·.evaluations) = List.range' first xs.length := by
  refine List.ext_getElem (by simp [numbered]) fun k hk _ => ?_
  simp [numbered]

namespace Batch

variable {first : Nat} {xs : List (Point α)} {es : List Float}

theorem records_eq : records first xs es = (numbered first (xs.zip es)).map .evaluated := by
  unfold records numbered
  rw [List.mapIdx_eq_zipIdx_map, List.mapIdx_eq_zipIdx_map, List.map_map]
  rfl

theorem evaluated_records :
    (records first xs es).filterMap Event.evaluated? = numbered first (xs.zip es) := by
  rw [records_eq, List.filterMap_map]
  exact List.filterMap_some

theorem generation_records : (records first xs es).filterMap Event.generation? = [] := by
  rw [records_eq, List.filterMap_map]
  exact List.filterMap_eq_nil_iff.2 fun _ _ => rfl

end Batch

namespace Event

/-- The numbers of the evaluations among events. -/
def numbers (events : List (Event α)) : List Nat :=
  (events.filterMap evaluated?).map (·.evaluations)

theorem numbers_nil : numbers ([] : List (Event α)) = [] := rfl

@[simp]
theorem numbers_append (es later : List (Event α)) :
    numbers (es ++ later) = numbers es ++ numbers later := by
  simp [numbers]

@[simp]
theorem numbers_log (entry : LogEntry) (es : List (Event α)) :
    numbers (.log entry :: es) = numbers es := rfl

theorem numbers_filter (es : List (Event α)) :
    numbers (es.filter (!·.isGeneration)) = numbers es := by
  induction es with
  | nil => rfl
  | cons e es ih =>
      cases e with
      | evaluated r => exact congrArg (r.evaluations :: ·) ih
      | generation r => exact ih
      | log entry => exact ih

/-- A batch with an energy for every point is numbered on from where it begins. -/
theorem numbers_records {first : Nat} {xs : List (Point α)} {es : List Float}
    (hl : es.length = xs.length) :
    numbers (Batch.records first xs es) = List.range' first xs.length := by
  rw [numbers, Batch.evaluated_records, map_evaluations_numbered, List.length_zip, hl, Nat.min_self]

/-- The events of a part of a run account for its evaluations: they are numbered one by one,
from the counter before it to the counter after it. -/
def Spends (before : Nat) (events : List (Event α)) (after : Nat) : Prop :=
  ∃ k, numbers events = List.range' (before + 1) k ∧ after = before + k

namespace Spends

variable {a b c : Nat} {es later : List (Event α)}

theorem of_numbers_eq_nil (h : numbers es = []) : Spends a es a := ⟨0, h, rfl⟩

/-- Two parts of a run account for both together. -/
theorem append (h : Spends a es b) (h' : Spends b later c) : Spends a (es ++ later) c := by
  obtain ⟨k, hk, rfl⟩ := h
  obtain ⟨l, hl, rfl⟩ := h'
  refine ⟨k + l, ?_, Nat.add_assoc a k l⟩
  rw [numbers_append, hk, hl, ← List.range'_append, Nat.one_mul, Nat.add_right_comm]

theorem append_of_numbers_eq_nil (h : Spends a es b) (hl : numbers later = []) :
    Spends a (es ++ later) b :=
  h.append (of_numbers_eq_nil hl)

theorem records {xs : List (Point α)} {es : List Float} (hl : es.length = xs.length) :
    Spends a (Batch.records (a + 1) xs es) (a + xs.length) :=
  ⟨xs.length, numbers_records hl, rfl⟩

/-- As many evaluations are recorded as are counted. -/
theorem length_numbers (h : Spends a es b) : b = a + (numbers es).length := by
  obtain ⟨k, hk, rfl⟩ := h
  rw [hk, List.length_range']

end Spends

end Event

/-! ## Attempts -/

/-- The numbers of the evaluations that an operation recorded before it failed. -/
def Reply.spilled (r : Reply σ α ρ) : List Nat :=
  match r.result with
  | .ok _ => []
  | .error _ => Event.numbers r.events

theorem Reply.spilled_of_ok {r : Reply σ α ρ} {x : ρ} (h : r.result = .ok x) : r.spilled = [] := by
  unfold spilled
  rw [h]

theorem Reply.spilled_of_error {r : Reply σ α ρ} {e : SolverError} (h : r.result = .error e) :
    r.spilled = Event.numbers r.events := by
  unfold spilled
  rw [h]

namespace Solver

variable [Scalar α]

/-- A setting of a solver is replaced, and this is what is said about it. -/
inductive Tuned (s : Solver α) : List (Event α) → Solver α → Prop
  /-- what makes the trials -/
  | strategy (x : Strategy α) : Tuned s (s.setStrategy x).2 (s.setStrategy x).1
  /-- what ends the run -/
  | watch (x : Watch) : Tuned s [] (s.setWatch x)
  /-- what evaluates the batches, or dispatches the members -/
  | map (x : EvaluationMap α) : Tuned s (s.setMap x).2 (s.setMap x).1
  /-- the hard caps -/
  | limits (x : Limits) : Tuned s [] (s.setLimits x)
  /-- how the next population is drawn -/
  | init (x : Init) : Tuned s [] (s.setInit x)
  /-- repair and penalty -/
  | constraints (x : Constraints α) : Tuned s [] (s.setConstraints x)

/-- A solver is stepped again and again, each time on an objective of its own and whether
or not the step before succeeded, and these are the replies.  Between steps the run may be
asked to stop, and get another start point and other settings.  A step that meets a fault
has no reply. -/
inductive Tried (s : Solver α) : List (Reply (Solver α) α Bool) → Solver α → Prop
  /-- nothing was tried -/
  | start : Tried s [] s
  /-- the last call was a step -/
  | stepped {rs : List (Reply (Solver α) α Bool)} {t : Solver α} (o : Objective α) (calls : Nat)
      (before : Tried s rs t) (returned : ∀ c, (t.step o calls).1.result ≠ .error (.fault c)) :
      Tried s (rs ++ [(t.step o calls).1]) (t.step o calls).1.after
  /-- the last call asked the run to stop -/
  | cancelled {rs : List (Reply (Solver α) α Bool)} {t : Solver α} (before : Tried s rs t) :
      Tried s rs t.cancel
  /-- the last call recorded that a request was seen -/
  | marked {rs : List (Reply (Solver α) α Bool)} {t : Solver α} (before : Tried s rs t) :
      Tried s rs t.markCancelled
  /-- the last call replaced the start point -/
  | guessed {rs : List (Reply (Solver α) α Bool)} {t u : Solver α} {x : Point α}
      (before : Tried s rs t) (h : t.setInitialGuess x = .ok u) : Tried s rs u
  /-- the last call replaced a setting -/
  | tuned {rs : List (Reply (Solver α) α Bool)} {t u : Solver α} {said : List (Event α)}
      (before : Tried s rs t) (h : t.Tuned said u) : Tried s rs u

end Solver

end BoxSearch

import BoxSearch.Proofs.EvaluationMap.Faithful

/-!
# All evaluation maps agree

Threads take up the points of a batch in an order that nobody fixes: a point may be
evaluated when none or all of the others have been.  The order of a run is written as its
`turn`s: `turn i` evaluations were begun before the one of the point at place `i`.

* `threadedIn`, `poolIn` — the answers of the two maps when the points are taken up in
  given turns; one thread or many, every run has its turns.  The maps that a solver works
  with are the ones whose turns follow the batch (`threaded_evaluate`, `pool_evaluate`).
* `Answered` — what a batch should come to: the values of all points in their order, or the
  failure of the first point that fails, with its place and its message.
* `evaluate_agree` — on a pure objective all maps give the answer of the serial one,
  whatever the turns, and that answer is the one the batch should come to.
-/

namespace BoxSearch
namespace EvaluationMap

variable {α : Type} {o : Objective α}

/-! ## Batches in any order -/

/-- Evaluates every point, the first of them at place `index` and each in its own turn. -/
def scattered (o : Objective α) (turn : Nat → Nat) (index : Nat) (xs : List (Point α)) :
    List (Except SolverError Float) :=
  xs.mapIdx fun k x => o.evaluateAt (turn (index + k)) (index + k) x

/-- The answer of a threaded map whose threads take up the points in the given turns. -/
def threadedIn (turn : Nat → Nat) (minBatch : Nat) (o : Objective α) (calls : Nat)
    (xs : List (Point α)) : Except SolverError (List Float) :=
  if xs.length < minBatch then (serial.evaluate o calls xs).1 else gather (scattered o turn 0 xs)

/-- The number of points in each piece but the last. -/
def pieceLength (workers n : Nat) : Nat := (n + max workers 1 - 1) / max workers 1

/-- The answers on the pieces of a batch, piece `c` from place `c * length` on. -/
def scatteredPieces (o : Objective α) (turn : Nat → Nat) (length : Nat)
    (parts : List (List (Point α))) : List (List (Except SolverError Float)) :=
  parts.mapIdx fun c part => scattered o turn (c * length) part

/-- The answer of a pool whose workers take up the points in the given turns. -/
def poolIn (turn : Nat → Nat) (workers : Nat) (o : Objective α) (xs : List (Point α)) :
    Except SolverError (List Float) :=
  if xs.isEmpty then .ok []
  else
    let length := pieceLength workers xs.length
    gather (scatteredPieces o turn length (pieces length xs.length xs)).flatten

theorem scattered_nil (turn : Nat → Nat) (index : Nat) : scattered o turn index [] = [] := rfl

theorem scattered_cons (turn : Nat → Nat) (index : Nat) (x : Point α) (xs : List (Point α)) :
    scattered o turn index (x :: xs) =
      o.evaluateAt (turn index) index x :: scattered o turn (index + 1) xs := by
  rw [scattered, List.mapIdx_cons, scattered]
  congr 2
  funext k x
  rw [show index + (k + 1) = index + 1 + k by omega]

theorem scattered_append (turn : Nat → Nat) (index : Nat) (xs ys : List (Point α)) :
    scattered o turn index (xs ++ ys) =
      scattered o turn index xs ++ scattered o turn (index + xs.length) ys := by
  induction xs generalizing index with
  | nil => rfl
  | cons x xs ih =>
      rw [List.cons_append, scattered_cons, ih, scattered_cons, List.cons_append, List.length_cons,
        show index + 1 + xs.length = index + (xs.length + 1) by omega]

/-- Evaluating point after point is one of the orders. -/
theorem each_eq_scattered (calls : Nat) (xs : List (Point α)) :
    (each o 0 calls xs).1 = scattered o (calls + ·) 0 xs := by
  show (xs.mapIdx fun k x => o.evaluateAt (calls + k) (0 + k) x) = _
  rw [scattered]
  congr 1
  funext k x
  rw [Nat.zero_add]

/-- The answers of a pure objective do not depend on the turns. -/
theorem scattered_congr (pure : o.Pure) (turn turn' : Nat → Nat) (index : Nat)
    (xs : List (Point α)) : scattered o turn index xs = scattered o turn' index xs := by
  rw [scattered, scattered]
  congr 1
  funext k x
  rw [Objective.evaluateAt, pure (turn (index + k)) (turn' (index + k)) x, Objective.evaluateAt]

/-! ## Pieces -/

theorem pieceLength_pos {workers n : Nat} (h : 0 < n) : 0 < pieceLength workers n := by
  refine Nat.div_pos ?_ (by omega)
  omega

/-- The places of the pieces are those of their points in the batch: every piece before the
last has the full length. -/
theorem flatten_mapIdx_pieces (turn : Nat → Nat) {length : Nat} (pos : 0 < length) (fuel : Nat)
    (xs : List (Point α)) (enough : xs.length ≤ fuel) (index : Nat) :
    ((pieces length fuel xs).mapIdx fun c part =>
      scattered o turn (index + c * length) part).flatten = scattered o turn index xs := by
  induction fuel generalizing xs index with
  | zero =>
      rw [List.length_eq_zero_iff.1 (Nat.le_zero.1 enough)]
      rfl
  | succ fuel ih =>
      rw [pieces]
      cases xs with
      | nil => rfl
      | cons x xs =>
          have shorter : ((x :: xs).drop length).length ≤ fuel := by
            simp only [List.length_drop, List.length_cons] at enough ⊢
            omega
          have later : (fun (c : Nat) part => scattered o turn (index + (c + 1) * length) part) =
              fun c part => scattered o turn (index + length + c * length) part := by
            funext c part
            rw [Nat.succ_mul, Nat.add_comm (c * length), Nat.add_assoc]
          rw [if_neg (by simp), List.mapIdx_cons, List.flatten_cons, later,
            ih _ shorter (index + length), Nat.zero_mul, Nat.add_zero]
          by_cases full : length ≤ (x :: xs).length
          · conv_rhs => rw [← List.take_append_drop length (x :: xs), scattered_append,
              List.length_take_of_le full]
          · have short : (x :: xs).length ≤ length := by omega
            rw [List.drop_eq_nil_of_le short, List.take_of_length_le short, scattered_nil,
              List.append_nil]

/-! ## The two maps in any order -/

theorem poolIn_eq_gather (turn : Nat → Nat) (workers : Nat) (xs : List (Point α)) :
    poolIn turn workers o xs = gather (scattered o turn 0 xs) := by
  cases xs with
  | nil => rfl
  | cons x xs =>
      have pos : 0 < pieceLength workers (x :: xs).length := pieceLength_pos (by simp)
      have whole := flatten_mapIdx_pieces (o := o) turn pos (x :: xs).length (x :: xs)
        (Nat.le_refl _) 0
      simp only [Nat.zero_add] at whole
      rw [poolIn, if_neg (by simp)]
      show gather (scatteredPieces o turn _ _).flatten = _
      rw [scatteredPieces, whole]

/-- The threaded map of a solver takes up the points in their order. -/
theorem threaded_evaluate (minBatch calls : Nat) (xs : List (Point α)) :
    ((threaded minBatch).evaluate o calls xs).1 = threadedIn (calls + ·) minBatch o calls xs := by
  rw [threadedIn, ← each_eq_scattered, serial_orderly, threaded_orderly, ite_self]

/-- The pool of a solver takes up the points in their order. -/
theorem pool_evaluate (workers calls : Nat) (xs : List (Point α)) :
    ((pool workers).evaluate o calls xs).1 = poolIn (calls + ·) workers o xs := by
  rw [poolIn_eq_gather, ← each_eq_scattered, pool_orderly]

theorem serial_evaluate_of_pure (pure : o.Pure) (turn : Nat → Nat) (calls : Nat)
    (xs : List (Point α)) :
    (serial.evaluate o calls xs).1 = gather (scattered o turn 0 xs) := by
  rw [serial_orderly, each_eq_scattered, scattered_congr pure (calls + ·) turn]

theorem threadedIn_of_pure (pure : o.Pure) (turn : Nat → Nat) (minBatch calls : Nat)
    (xs : List (Point α)) :
    threadedIn turn minBatch o calls xs = (serial.evaluate o calls xs).1 := by
  rw [threadedIn, serial_evaluate_of_pure pure turn, ite_self]

theorem poolIn_of_pure (pure : o.Pure) (turn : Nat → Nat) (workers calls : Nat)
    (xs : List (Point α)) : poolIn turn workers o xs = (serial.evaluate o calls xs).1 := by
  rw [poolIn_eq_gather, serial_evaluate_of_pure pure turn]

/-! ## What a batch should come to -/

/-- What the points `xs`, the first of them at place `index`, come to under a pure
objective. -/
inductive Answered (o : Objective α) (index : Nat) (xs : List (Point α)) :
    Except SolverError (List Float) → Prop
  /-- one value per point, in the order of the points -/
  | values {vs : List Float} (each : List.Forall₂ (fun x v => o.eval 0 x = .ok v) xs vs) :
      Answered o index xs (.ok vs)
  /-- the failure of a point before which no other fails -/
  | failure {i : Nat} {x : Point α} {b : Breakdown} (place : xs[i]? = some x)
      (fails : o.eval 0 x = .error b)
      (lowest : ∀ j y, j < i → xs[j]? = some y → ∃ v, o.eval 0 y = .ok v) :
      Answered o index xs (.error (.evaluation (index + i) b.message))

/-- One more point with a value comes first in the answer, and moves the failures by one
place. -/
theorem Answered.cons {index : Nat} {x : Point α} {xs : List (Point α)} {v : Float}
    {r : Except SolverError (List Float)} (hx : o.eval 0 x = .ok v)
    (h : Answered o (index + 1) xs r) : Answered o index (x :: xs) (r.map (v :: ·)) := by
  cases h with
  | values each => exact .values (.cons hx each)
  | @failure i y b place fails lowest =>
      have moved : Answered o index (x :: xs) (.error (.evaluation (index + (i + 1)) b.message)) := by
        refine .failure (by rwa [List.getElem?_cons_succ]) fails ?_
        intro j z hj hz
        cases j with
        | zero =>
            rw [List.getElem?_cons_zero, Option.some.injEq] at hz
            exact ⟨v, hz ▸ hx⟩
        | succ j => exact lowest j z (by omega) (by rwa [List.getElem?_cons_succ] at hz)
      rwa [show index + (i + 1) = index + 1 + i by omega] at moved

theorem answered_gather (pure : o.Pure) (turn : Nat → Nat) (index : Nat) (xs : List (Point α)) :
    Answered o index xs (gather (scattered o turn index xs)) := by
  induction xs generalizing index with
  | nil => exact .values .nil
  | cons x xs ih =>
      have here : o.eval (turn index) x = o.eval 0 x := pure _ _ x
      rw [scattered_cons]
      cases hx : o.eval 0 x with
      | ok v =>
          rw [Objective.evaluateAt, here, hx]
          exact (ih (index + 1)).cons hx
      | error b =>
          rw [Objective.evaluateAt, here, hx]
          exact .failure rfl hx fun j y hj _ => absurd hj (Nat.not_lt_zero j)

/-- **All maps agree.**  On a pure objective the threaded map and the pool, whatever the
order in which their threads take up the points, give what the serial map gives: one value
per point in the order of the batch, or the failure of the first point that fails. -/
theorem evaluate_agree (pure : o.Pure) (turn : Nat → Nat) (minBatch workers calls : Nat)
    (xs : List (Point α)) :
    threadedIn turn minBatch o calls xs = (serial.evaluate o calls xs).1 ∧
      poolIn turn workers o xs = (serial.evaluate o calls xs).1 ∧
      ((threaded minBatch).evaluate o calls xs).1 = (serial.evaluate o calls xs).1 ∧
      ((pool workers).evaluate o calls xs).1 = (serial.evaluate o calls xs).1 ∧
      Answered o 0 xs (serial.evaluate o calls xs).1 := by
  refine ⟨threadedIn_of_pure pure turn minBatch calls xs, poolIn_of_pure pure turn workers calls xs,
    ?_, ?_, ?_⟩
  · rw [threaded_evaluate, threadedIn_of_pure pure]
  · rw [pool_evaluate, poolIn_of_pure pure]
  · rw [serial_evaluate_of_pure pure turn]
    exact answered_gather pure turn 0 xs

/-- Seven points among three workers: the pieces have three points and the last has one, and
the lower of two failures, in another piece than the higher one, is the answer of all maps. -/
theorem evaluate_agree_sevenPoints :
    let o : Objective Rat := .ofFallible fun x =>
      if x = [2] then .error (.crashed none) else if x = [5] then .error (.refused "no") else .ok 1
    let xs : List (Point Rat) := [[0], [1], [2], [3], [4], [5], [6]]
    o.Pure ∧ poolIn (6 - ·) 3 o xs = .error (.evaluation 2 "objective panicked") ∧
      (serial.evaluate o 0 xs).1 = .error (.evaluation 2 "objective panicked") ∧
      threadedIn (6 - ·) 4 o 0 xs = .error (.evaluation 2 "objective panicked") := by
  intro o xs
  have pure : o.Pure := fun _ _ _ => rfl
  obtain ⟨threads, workers, -, -, -⟩ := evaluate_agree pure (6 - ·) 4 3 0 xs
  have first : (serial.evaluate o 0 xs).1 = .error (.evaluation 2 "objective panicked") := by rfl
  exact ⟨pure, workers.trans first, first, threads.trans first⟩

end EvaluationMap
end BoxSearch

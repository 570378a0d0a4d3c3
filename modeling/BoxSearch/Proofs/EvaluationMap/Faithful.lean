import BoxSearch.Solver.Basic
import Mathlib.Data.List.Forall2

/-!
# What a solver may expect of its evaluation map

A map may fail, and a map may answer with the wrong number of values; what it may
not do is hand back as many values as there were points and let them belong to
other points.  This file states that promise and what follows from it for a batch.

* `Faithful` — where a map answers with one value per point, each value is an
  answer of the objective on its own point.
* `Dependable` — on an objective that never fails the map answers.
* `Complete` — the map dispatches every task.
* `Orderly` — the maps of this library all give what evaluating point after point
  gives, whatever the objective does, so all three have both properties.
* `Batch.energies` — the penalised energies of points whose values are those of a
  function; `Batch.evaluate_of_faithful` and `Batch.evaluate_of_dependable` say
  that a batch comes to these energies or fails, and when it cannot fail.
-/

namespace BoxSearch

variable {α : Type}

namespace Objective

/-- Where the objective answers at all, it answers with the values of a function. -/
def AgreesWith (o : Objective α) (f : Point α → Float) : Prop :=
  ∀ n x v, o.eval n x = .ok v → v = f x

theorem ofFunction_agreesWith (f : Point α → Float) : (ofFunction f).AgreesWith f := by
  intro n x v h
  cases h
  rfl

theorem evaluateAt_eq_ok {o : Objective α} {n i : Nat} {x : Point α} {v : Float}
    (h : o.evaluateAt n i x = .ok v) : o.eval n x = .ok v := by
  unfold evaluateAt at h
  split at h
  · next hv =>
      cases h
      exact hv
  · cases h

end Objective

namespace EvaluationMap

variable {o : Objective α} {m : EvaluationMap α}

/-- Each value a map answers with belongs to its own point, provided that there are
as many values as points. -/
def Faithful (m : EvaluationMap α) : Prop :=
  ∀ o calls xs vs, (m.evaluate o calls xs).1 = .ok vs → vs.length = xs.length →
    List.Forall₂ (fun x v => ∃ n, o.eval n x = .ok v) xs vs

/-- The map answers whenever the objective does. -/
def Dependable (m : EvaluationMap α) : Prop :=
  ∀ f calls xs, (m.evaluate (Objective.ofFunction f) calls xs).1 = .ok (xs.map f)

/-- The map leaves out none of the tasks that it dispatches. -/
def Complete (m : EvaluationMap α) : Prop := ∀ n i, i < n → i ∈ m.dispatch n

/-! ## Point after point -/

theorem each_cons (index calls : Nat) (x : Point α) (xs : List (Point α)) :
    each o index calls (x :: xs) =
      (o.evaluateAt calls index x :: (each o (index + 1) (calls + 1) xs).1,
        (each o (index + 1) (calls + 1) xs).2) := by
  simp only [each, List.mapIdx_cons, List.length_cons, Nat.add_zero, Prod.mk.injEq, List.cons.injEq,
    true_and]
  refine ⟨?_, by omega⟩
  congr 1
  funext k x
  rw [show calls + (k + 1) = calls + 1 + k by omega, show index + (k + 1) = index + 1 + k by omega]

theorem each_append (index calls : Nat) (xs ys : List (Point α)) :
    each o index calls (xs ++ ys) =
      ((each o index calls xs).1 ++ (each o (index + xs.length) (calls + xs.length) ys).1,
        (each o (index + xs.length) (calls + xs.length) ys).2) := by
  induction xs generalizing index calls with
  | nil => simp [each]
  | cons x xs ih =>
      rw [List.cons_append, each_cons, ih (index + 1) (calls + 1), each_cons]
      simp only [List.length_cons, List.cons_append]
      rw [show index + 1 + xs.length = index + (xs.length + 1) by omega,
        show calls + 1 + xs.length = calls + (xs.length + 1) by omega]

/-- Stopping at the first failure and gathering up to it come to the same. -/
theorem inOrder_fst (index calls : Nat) (xs : List (Point α)) :
    (inOrder o index calls xs).1 = gather (each o index calls xs).1 := by
  induction xs generalizing index calls with
  | nil => rfl
  | cons x xs ih =>
      rw [each_cons, inOrder]
      cases hv : o.evaluateAt calls index x with
      | error e => rfl
      | ok v =>
          simp only [gather]
          rw [← ih (index + 1) (calls + 1)]

theorem piecewise_eq_each (index calls : Nat) (pieces : List (List (Point α))) :
    piecewise o index calls pieces = each o index calls pieces.flatten := by
  induction pieces generalizing index calls with
  | nil => rfl
  | cons piece pieces ih =>
      rw [List.flatten_cons, each_append, piecewise]
      simp only [ih, each]

/-- Cutting a list into pieces loses nothing. -/
theorem flatten_pieces {β : Type} {length : Nat} (pos : 0 < length) {fuel : Nat} {xs : List β}
    (enough : xs.length ≤ fuel) : (pieces length fuel xs).flatten = xs := by
  induction fuel generalizing xs with
  | zero =>
      rw [List.length_eq_zero_iff.1 (Nat.le_zero.1 enough)]
      rfl
  | succ fuel ih =>
      rw [pieces]
      cases xs with
      | nil => rfl
      | cons x xs =>
          have hd : ((x :: xs).drop length).length ≤ fuel := by
            simp only [List.length_drop, List.length_cons] at enough ⊢
            omega
          rw [if_neg (by simp), List.flatten_cons, ih hd, List.take_append_drop]

/-! ## The three maps -/

/-- The map gives what evaluating point after point gives. -/
def Orderly (m : EvaluationMap α) : Prop :=
  ∀ o calls xs, (m.evaluate o calls xs).1 = gather (each o 0 calls xs).1

theorem serial_orderly : (serial : EvaluationMap α).Orderly :=
  fun _ calls xs => inOrder_fst 0 calls xs

theorem threaded_orderly (minBatch : Nat) : (threaded minBatch : EvaluationMap α).Orderly := by
  intro o calls xs
  by_cases h : xs.length < minBatch
  · simp only [threaded, if_pos h]
    exact inOrder_fst 0 calls xs
  · simp only [threaded, if_neg h]

theorem pool_orderly (workers : Nat) : (pool workers : EvaluationMap α).Orderly := by
  intro o calls xs
  cases xs with
  | nil => rfl
  | cons x xs =>
      have pos : 0 < ((x :: xs).length + max workers 1 - 1) / max workers 1 := by
        refine Nat.div_pos ?_ (by omega)
        simp only [List.length_cons]
        omega
      simp only [pool, List.isEmpty_cons, Bool.false_eq_true, if_false, piecewise_eq_each,
        flatten_pieces pos (Nat.le_refl _)]

theorem serial_complete : (serial : EvaluationMap α).Complete :=
  fun _ _ hi => List.mem_range.2 hi

theorem gather_eq_ok {results : List (Except SolverError Float)} {vs : List Float}
    (h : gather results = .ok vs) : results = vs.map .ok := by
  induction results generalizing vs with
  | nil => cases h; rfl
  | cons r results ih =>
      cases r with
      | error e => cases h
      | ok v =>
          rw [gather] at h
          cases hg : gather results with
          | error e => rw [hg] at h; cases h
          | ok ws =>
              rw [hg] at h
              cases h
              rw [ih hg, List.map_cons]

theorem gather_map_ok (vs : List Float) : gather (vs.map .ok) = .ok vs := by
  induction vs with
  | nil => rfl
  | cons v vs ih => rw [List.map_cons, gather, ih]; rfl

theorem Orderly.faithful (h : m.Orderly) : m.Faithful := by
  intro o calls xs vs hv _
  rw [h] at hv
  have key : ∀ (index calls : Nat) (xs : List (Point α)) (vs : List Float),
      (each o index calls xs).1 = vs.map .ok →
        List.Forall₂ (fun x v => ∃ n, o.eval n x = .ok v) xs vs := by
    intro index calls xs
    induction xs generalizing index calls with
    | nil =>
        intro vs hv
        rw [List.map_eq_nil_iff.1 hv.symm]
        exact .nil
    | cons x xs ih =>
        intro vs hv
        rw [each_cons] at hv
        obtain ⟨v, ws, rfl, hx, hxs⟩ := List.map_eq_cons_iff.1 hv.symm
        exact .cons ⟨calls, Objective.evaluateAt_eq_ok hx.symm⟩
          (ih (index + 1) (calls + 1) ws hxs.symm)
  exact key 0 calls xs vs (gather_eq_ok hv)

theorem Orderly.dependable (h : m.Orderly) : m.Dependable := by
  intro f calls xs
  rw [h]
  have key : ∀ (index calls : Nat) (xs : List (Point α)),
      (each (Objective.ofFunction f) index calls xs).1 = (xs.map f).map .ok := by
    intro index calls xs
    induction xs generalizing index calls with
    | nil => rfl
    | cons x xs ih => rw [each_cons, ih]; rfl
  rw [key, gather_map_ok]

end EvaluationMap

/-! ## Batches -/

namespace Batch

variable {o : Objective α} {m : EvaluationMap α} {c : Constraints α} {f : Point α → Float}
variable {name : String} {calls : Nat} {xs : List (Point α)} {es : List Float}

/-- The penalised energies of points that have the values of a function; none when a
penalty has none. -/
def energies (c : Constraints α) (f : Point α → Float) (xs : List (Point α)) :
    Option (List Float) :=
  (c.applyPenalties (xs.zip (xs.map f))).toOption

/-- A batch that succeeds went through the map with one value per point. -/
theorem evaluate_eq_ok (h : (evaluate m name c o calls xs).1 = .ok es) :
    ∃ vs, (m.evaluate o calls xs).1 = .ok vs ∧ vs.length = xs.length ∧
      c.applyPenalties (xs.zip vs) = .ok es := by
  unfold evaluate at h
  rcases hm : m.evaluate o calls xs with ⟨e | vs, n⟩
  · rw [hm] at h; cases h
  · rw [hm] at h
    by_cases hl : vs.length = xs.length
    · simp only [if_pos hl] at h
      cases hp : c.applyPenalties (xs.zip vs) with
      | error e => rw [hp] at h; cases h
      | ok ws =>
          rw [hp] at h
          cases h
          exact ⟨vs, rfl, hl, hp⟩
    · simp only [if_neg hl] at h
      cases h

theorem map_eq_of_forall₂ {vs : List Float} (h : List.Forall₂ (fun x v => v = f x) xs vs) :
    vs = xs.map f := by
  induction h with
  | nil => rfl
  | cons hv _ ih => rw [List.map_cons, ← hv, ← ih]

/-- A batch that succeeds under a faithful map has the energies of the function that
the objective agrees with. -/
theorem evaluate_of_faithful (faithful : m.Faithful) (agrees : o.AgreesWith f)
    (h : (evaluate m name c o calls xs).1 = .ok es) : energies c f xs = some es := by
  obtain ⟨vs, hm, hl, hp⟩ := evaluate_eq_ok h
  have hf : List.Forall₂ (fun x v => v = f x) xs vs :=
    (faithful o calls xs vs hm hl).imp fun x v ⟨n, hx⟩ => agrees n x v hx
  rw [energies, ← map_eq_of_forall₂ hf, hp]
  rfl

/-- Under a dependable map a batch of points with the values of a function succeeds
whenever the penalties have values. -/
theorem evaluate_of_dependable (dependable : m.Dependable) (h : energies c f xs = some es) :
    (evaluate m name c (.ofFunction f) calls xs).1 = .ok es := by
  have hp : c.applyPenalties (xs.zip (xs.map f)) = .ok es := by
    unfold energies at h
    cases hc : c.applyPenalties (xs.zip (xs.map f)) with
    | error e => rw [hc] at h; cases h
    | ok ws => rw [hc] at h; cases h; rfl
  have hm := dependable f calls xs
  unfold evaluate
  rcases hx : m.evaluate (.ofFunction f) calls xs with ⟨r, n⟩
  rw [hx] at hm
  cases hm
  simp only [List.length_map, if_true, hp]

end Batch

end BoxSearch

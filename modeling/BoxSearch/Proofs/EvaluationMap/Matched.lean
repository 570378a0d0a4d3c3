import BoxSearch.Proofs.EvaluationMap.Faithful
import BoxSearch.Proofs.Energy.Matching

/-!
# Two objectives whose values compare alike

When two objectives fail on the same points, in the same way, and have matched values on
the others, then they are `Matched`.  An objective whose values are sent through a function
that keeps their order is matched with the one it was made from.

An orderly map gives matched batches on matched objectives: both fail with the same error,
or the energies are matched one by one (`Batch.evaluate_matched`).  That takes a run
without penalty, since a penalty adds to a value, and sums do not follow the order of
their terms.
-/

namespace BoxSearch

/-- Two answers are the same error, or two results in a relation. -/
inductive Answers {ε β γ : Type} (R : β → γ → Prop) : Except ε β → Except ε γ → Prop
  /-- both have a result -/
  | ok {b : β} {c : γ} (h : R b c) : Answers R (.ok b) (.ok c)
  /-- both fail, for the same reason -/
  | error (e : ε) : Answers R (.error e) (.error e)

theorem Answers.map {ε β γ δ η : Type} {R : β → γ → Prop} {S : δ → η → Prop} {r : Except ε β}
    {r' : Except ε γ} {f : β → δ} {f' : γ → η} (h : Answers R r r')
    (hf : ∀ {b c}, R b c → S (f b) (f' c)) : Answers S (r.map f) (r'.map f') := by
  cases h with
  | ok h => exact .ok (hf h)
  | error e => exact .error e

variable {α : Type} {ρ : Float → Float → Prop}

/-! ## Objectives -/

namespace Objective

variable {V : Float → Prop} {g : Float → Float} {o o' : Objective α}

/-- Two objectives fail alike and have matched values, whatever was evaluated before. -/
structure Matched (ρ : Float → Float → Prop) (o o' : Objective α) : Prop where
  answers : ∀ m n x, Answers ρ (o.eval m x) (o'.eval n x)
  dimension : o'.dimension = o.dimension

/-- The objective with its values sent through a function. -/
def through (g : Float → Float) (o : Objective α) : Objective α :=
  { o with eval := fun n x => (o.eval n x).map g }

/-- **A rescaled objective is matched with the original.** -/
theorem matched_through (pure : o.Pure) (values : ∀ n x v, o.eval n x = .ok v → V v) :
    Matched (fun a a' => V a ∧ a' = g a) o (o.through g) := by
  refine ⟨fun m n x => ?_, rfl⟩
  show Answers _ (o.eval m x) ((o.eval n x).map g)
  rw [pure n m x]
  cases h : o.eval m x with
  | error b => exact .error b
  | ok v => exact .ok ⟨values m x v h, rfl⟩

theorem Matched.evaluateAt (h : Matched ρ o o') (calls calls' index : Nat) (x : Point α) :
    Answers ρ (o.evaluateAt calls index x) (o'.evaluateAt calls' index x) := by
  have answers := h.answers calls calls' x
  unfold Objective.evaluateAt
  generalize o.eval calls x = r, o'.eval calls' x = r' at answers
  cases answers with
  | ok h => exact .ok h
  | error b => exact .error _

theorem Matched.checkDimension (h : Matched ρ o o') (dim : Nat) :
    o'.checkDimension dim = o.checkDimension dim := by
  rw [Objective.checkDimension, Objective.checkDimension, h.dimension]

end Objective

/-! ## Maps -/

namespace EvaluationMap

variable {o o' : Objective α} {m : EvaluationMap α}

theorem each_matched (h : o.Matched ρ o') (index calls calls' : Nat) (xs : List (Point α)) :
    List.Forall₂ (Answers ρ) (each o index calls xs).1 (each o' index calls' xs).1 := by
  induction xs generalizing index calls calls' with
  | nil => exact .nil
  | cons x xs ih =>
      rw [each_cons, each_cons]
      exact .cons (h.evaluateAt calls calls' index x) (ih (index + 1) _ _)

theorem gather_matched {rs rs' : List (Except SolverError Float)}
    (h : List.Forall₂ (Answers ρ) rs rs') :
    Answers (List.Forall₂ ρ) (gather rs) (gather rs') := by
  induction h with
  | nil => exact .ok .nil
  | @cons r r' rs rs' hr _ ih =>
      cases hr with
      | error e => exact .error e
      | ok hv =>
          rw [gather, gather]
          exact ih.map fun hvs => .cons hv hvs

/-- Every answer of an orderly map has one value per point. -/
theorem Orderly.length (orderly : m.Orderly) {calls : Nat} {xs : List (Point α)}
    {vs : List Float} (h : (m.evaluate o calls xs).1 = .ok vs) : vs.length = xs.length := by
  rw [orderly] at h
  have hlen := congrArg List.length (gather_eq_ok h)
  rw [List.length_map, each, List.length_mapIdx] at hlen
  exact hlen.symm

theorem Orderly.matched (orderly : m.Orderly) (h : o.Matched ρ o') (calls calls' : Nat)
    (xs : List (Point α)) :
    Answers (List.Forall₂ ρ) (m.evaluate o calls xs).1 (m.evaluate o' calls' xs).1 := by
  rw [orderly, orderly]
  exact gather_matched (each_matched h 0 calls calls' xs)

end EvaluationMap

/-! ## Batches -/

/-- Without a penalty the energies are the values. -/
theorem Constraints.applyPenalties_of_none {c : Constraints α} (unpenalised : c.penalty = .none)
    (xs : List (Point α)) (vs : List Float) (h : vs.length = xs.length) :
    c.applyPenalties (xs.zip vs) = .ok vs := by
  induction xs generalizing vs with
  | nil =>
      rw [List.eq_nil_of_length_eq_zero h]
      rfl
  | cons x xs ih =>
      cases vs with
      | nil => cases h
      | cons v vs =>
          rw [List.zip_cons_cons, applyPenalties, applyPenalty, unpenalised]
          simp only [ih vs (Nat.succ.inj h)]
          rfl

namespace Batch

variable {o o' : Objective α} {m : EvaluationMap α} {c : Constraints α}

theorem evaluate_of_orderly (orderly : m.Orderly) (unpenalised : c.penalty = none) (name : String)
    (calls : Nat) (xs : List (Point α)) :
    (evaluate m name c o calls xs).1 = (m.evaluate o calls xs).1 := by
  unfold evaluate
  rcases hm : m.evaluate o calls xs with ⟨e | vs, n⟩
  · rfl
  · have hl : vs.length = xs.length := orderly.length (by rw [hm])
    simp only [if_pos hl, Constraints.applyPenalties_of_none unpenalised xs vs hl]

/-- **Batches of matched objectives are matched**: the same error, or matched energies. -/
theorem evaluate_matched (orderly : m.Orderly) (unpenalised : c.penalty = none)
    (h : o.Matched ρ o') (name : String) (calls calls' : Nat) (xs : List (Point α)) :
    Answers (List.Forall₂ ρ) (evaluate m name c o calls xs).1
      (evaluate m name c o' calls' xs).1 := by
  rw [evaluate_of_orderly orderly unpenalised, evaluate_of_orderly orderly unpenalised]
  exact orderly.matched h calls calls' xs

end Batch

end BoxSearch

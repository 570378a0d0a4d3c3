import BoxSearch.Proofs.Box.Affine
import BoxSearch.Proofs.Strategy.Fitting

/-!
# Draws in changed boxes

A draw takes fractions from the source of words, and places them between the ends of the
intervals.  The fractions do not depend on the box, and neither does the number of words, as
long as the same intervals are free; so a draw in a changed box is the changed draw, and the
source is left where it was (`Init.draw_box`).
-/

namespace BoxSearch

variable {γ : Type} [WordSource γ]

/-- A shuffle keeps the number of elements. -/
theorem Shuffle.length_shuffle {β : Type} (xs : List β) (g : γ) :
    (shuffle xs g).1.length = xs.length := by
  unfold shuffle
  split
  · rfl
  · exact (perm_walk _ _ _ xs.toArray g).length_eq

theorem WordSource.uniforms_succ {α : Type} [Scalar α] (n : Nat) (g : γ) :
    uniforms (α := α) (n + 1) g =
      ((uniform (α := α) g).1 :: (uniforms n (uniform (α := α) g).2).1,
        (uniforms (α := α) n (uniform (α := α) g).2).2) := rfl

theorem WordSource.length_uniforms {α : Type} [Scalar α] (n : Nat) (g : γ) :
    (uniforms (α := α) n g).1.length = n := by
  induction n generalizing g with
  | zero => rfl
  | succ n ih => exact congrArg (· + 1) (ih _)

namespace Sampling

/-- A fraction of a changed interval is the changed fraction. -/
theorem along_interval (a : Axis) (s : Interval Rat) (u : Rat) :
    along (a.interval s) u = a.apply (along s u) := by
  show a.scale * s.lower + a.offset + u * (a.scale * s.upper + a.offset -
    (a.scale * s.lower + a.offset)) = a.scale * (s.lower + u * (s.upper - s.lower)) + a.offset
  ring

/-! ## Uniform draws -/

theorem uniformPoint_interval {axes : List Axis} {sides : List (Interval Rat)}
    (h : sides.length = axes.length) (g : γ) :
    uniformPoint (List.zipWith Axis.interval axes sides) g =
      (List.zipWith Axis.apply axes (uniformPoint sides g).1, (uniformPoint sides g).2) := by
  induction axes generalizing sides g with
  | nil =>
      rw [List.eq_nil_of_length_eq_zero h]
      rfl
  | cons a axes ih =>
      cases sides with
      | nil => cases h
      | cons s sides =>
          simp only [List.zipWith_cons_cons, uniformPoint, a.isFree_interval,
            ih (Nat.succ.inj h), along_interval]
          split <;> rfl

variable (T : Change) {b : Box Rat} (h : b.dim = T.dim)

include h

theorem uniformPoint_box (g : γ) :
    uniformPoint (T.box b).sides g = (T.point (uniformPoint b.sides g).1,
      (uniformPoint b.sides g).2) := uniformPoint_interval h g

theorem uniform_box (count : Nat) (g : γ) :
    uniform count (T.box b) g = (T.population (uniform count b g).1, (uniform count b g).2) := by
  have points (g : γ) : uniformPoints (T.box b).sides count g =
      ((uniformPoints b.sides count g).1.map T.point, (uniformPoints b.sides count g).2) := by
    induction count generalizing g with
    | zero => rfl
    | succ count ih =>
        simp only [uniformPoints, uniformPoint_box T h, ih]
        rfl
  rw [uniform, points]
  simp only [T.dim_box h, ← h]
  rfl

/-! ## Latin hypercubes -/

omit h

theorem stratifiedColumn_interval (a : Axis) (count : Nat) (s : Interval Rat) (g : γ) :
    stratifiedColumn count (a.interval s) g =
      ((stratifiedColumn count s g).1.map a.apply, (stratifiedColumn count s g).2) := by
  have moved : along (a.interval s) = a.apply ∘ along s := funext (along_interval a s)
  unfold stratifiedColumn
  rw [a.isFree_interval, moved]
  split
  · simp only [List.map_map]
  · simp only [List.map_replicate]
    rfl

theorem length_stratifiedColumn {α : Type} [Scalar α] (count : Nat) (s : Interval α) (g : γ) :
    (stratifiedColumn count s g).1.length = count := by
  unfold stratifiedColumn
  split
  · simp only [List.length_map, Shuffle.length_shuffle, strata, List.length_mapIdx,
      WordSource.length_uniforms]
  · exact List.length_replicate

/-- The columns of a table, each changed along its own axis. -/
def changeColumns (axes : List Axis) (columns : List (List Rat)) : List (List Rat) :=
  List.zipWith (fun a column => column.map a.apply) axes columns

theorem stratifiedColumns_interval (count : Nat) {axes : List Axis}
    {sides : List (Interval Rat)} (h : sides.length = axes.length) (g : γ) :
    stratifiedColumns count (List.zipWith Axis.interval axes sides) g =
      (changeColumns axes (stratifiedColumns count sides g).1,
        (stratifiedColumns count sides g).2) := by
  induction axes generalizing sides g with
  | nil =>
      rw [List.eq_nil_of_length_eq_zero h]
      rfl
  | cons a axes ih =>
      cases sides with
      | nil => cases h
      | cons s sides =>
          simp only [List.zipWith_cons_cons, stratifiedColumns, stratifiedColumn_interval,
            ih (Nat.succ.inj h)]
          rfl

theorem length_of_mem_stratifiedColumns {α : Type} [Scalar α] {count : Nat}
    {sides : List (Interval α)} {g : γ} {column : List α}
    (hc : column ∈ (stratifiedColumns count sides g).1) : column.length = count := by
  induction sides generalizing g with
  | nil => cases hc
  | cons s sides ih =>
      rcases List.mem_cons.1 hc with rfl | hc
      · exact length_stratifiedColumn count s g
      · exact ih hc

/-- The first row of changed columns is the changed first row. -/
theorem heads_changeColumns (axes : List Axis) {columns : List (List Rat)} {count : Nat}
    (hl : ∀ column ∈ columns, column.length = count + 1) :
    (changeColumns axes columns).map (·.headD Scalar.zero) =
      List.zipWith Axis.apply axes (columns.map (·.headD Scalar.zero)) := by
  unfold changeColumns
  induction axes generalizing columns with
  | nil => rfl
  | cons a axes ih =>
      cases columns with
      | nil => rfl
      | cons column columns =>
          obtain ⟨here, rest⟩ := List.forall_mem_cons.1 hl
          cases column with
          | nil => cases here
          | cons v column =>
              simp only [List.zipWith_cons_cons, List.map_cons, ih rest, List.headD_cons]

theorem tails_changeColumns (axes : List Axis) (columns : List (List Rat)) :
    (changeColumns axes columns).map List.tail = changeColumns axes (columns.map List.tail) := by
  unfold changeColumns
  rw [List.map_zipWith, List.zipWith_map_right]
  simp only [List.map_tail]

/-- The rows of changed columns are the changed rows, when no column is too short. -/
theorem rowsOfColumns_change {count : Nat} {columns : List (List Rat)}
    (hl : ∀ column ∈ columns, column.length = count) :
    rowsOfColumns count (changeColumns T.axes columns) =
      (rowsOfColumns count columns).map T.point := by
  induction count generalizing columns with
  | zero => rfl
  | succ count ih =>
      have shorter : ∀ column ∈ columns.map List.tail, column.length = count := by
        intro column hc
        obtain ⟨longer, hm, rfl⟩ := List.mem_map.1 hc
        rw [List.length_tail, hl longer hm, Nat.add_sub_cancel]
      rw [rowsOfColumns, rowsOfColumns, List.map_cons, heads_changeColumns T.axes hl,
        tails_changeColumns, ih shorter]
      rfl

include h

theorem latinHypercube_box (count : Nat) (g : γ) :
    latinHypercube count (T.box b) g =
      (T.population (latinHypercube count b g).1, (latinHypercube count b g).2) := by
  have columns : stratifiedColumns count (T.box b).sides g =
      (changeColumns T.axes (stratifiedColumns count b.sides g).1,
        (stratifiedColumns count b.sides g).2) := stratifiedColumns_interval count h g
  rw [latinHypercube, columns]
  simp only [T.dim_box h, ← h, rowsOfColumns_change T fun _ => length_of_mem_stratifiedColumns]
  rfl

end Sampling

/-- **A draw in a changed box is the changed draw**, and takes the same words. -/
theorem Init.draw_box (init : Init) (T : Change) {b : Box Rat} (h : b.dim = T.dim) (count : Nat)
    (g : γ) :
    init.draw count (T.box b) g =
      (T.population (init.draw count b g).1, (init.draw count b g).2) := by
  cases init with
  | latinHypercube => exact Sampling.latinHypercube_box T h count g
  | random => exact Sampling.uniform_box T h count g

end BoxSearch

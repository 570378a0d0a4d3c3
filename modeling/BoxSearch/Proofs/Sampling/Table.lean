import BoxSearch.Sampling

/-!
# Populations are tables

A population is written down as a list of points, which could be of any lengths.  Those that
a search works with are tables: every member has the dimension that the population says it
has, and that dimension is the problem's (`Population.Table`).

Every way of drawing a population gives a table with as many rows as were asked for
(`Init.table_draw`).
-/

namespace BoxSearch

variable {α : Type}

namespace Population

/-- The members of a population have a dimension, and the population says so. -/
structure Table (dim : Nat) (p : Population α) : Prop where
  width : p.width = dim
  lengths : ∀ x ∈ p.rows, x.length = dim

variable {dim i : Nat} {p : Population α} {x : Point α}

theorem row_mem (h : i < p.rows.length) : p.row i ∈ p.rows := by
  rw [row, List.getD_eq_getElem?_getD, List.getElem?_eq_getElem h]
  exact List.getElem_mem h

theorem Table.length_row (h : p.Table dim) (hi : i < p.size) : (p.row i).length = dim :=
  h.lengths _ (row_mem hi)

theorem Table.setRow (h : p.Table dim) (hx : x.length = dim) : (p.setRow i x).Table dim where
  width := h.width
  lengths y hy := by
    rcases List.mem_or_eq_of_mem_set hy with hy | rfl
    · exact h.lengths y hy
    · exact hx

end Population

variable [Scalar α] {γ : Type} [WordSource γ]

namespace Sampling

theorem length_uniformPoint (sides : List (Interval α)) (g : γ) :
    (uniformPoint sides g).1.length = sides.length := by
  induction sides generalizing g with
  | nil => rfl
  | cons s sides ih =>
      rw [uniformPoint]
      split <;> exact congrArg (· + 1) (ih _)

theorem uniformPoints_table (sides : List (Interval α)) (count : Nat) (g : γ) :
    (uniformPoints sides count g).1.length = count ∧
      ∀ x ∈ (uniformPoints sides count g).1, x.length = sides.length := by
  induction count generalizing g with
  | zero => exact ⟨rfl, nofun⟩
  | succ count ih =>
      obtain ⟨hl, hx⟩ := ih (uniformPoint sides g).2
      exact ⟨congrArg (· + 1) hl, List.forall_mem_cons.2 ⟨length_uniformPoint sides g, hx⟩⟩

theorem table_uniform (count : Nat) (box : Box α) (g : γ) :
    (uniform count box g).1.Table box.dim ∧ (uniform count box g).1.rows.length = count :=
  ⟨⟨rfl, (uniformPoints_table box.sides count g).2⟩, (uniformPoints_table box.sides count g).1⟩

/-- There is a column for each side, whatever stands in it. -/
theorem length_stratifiedColumns (count : Nat) (sides : List (Interval α)) (g : γ) :
    (stratifiedColumns count sides g).1.length = sides.length := by
  induction sides generalizing g with
  | nil => rfl
  | cons s sides ih => exact congrArg (· + 1) (ih _)

theorem rowsOfColumns_table (count : Nat) (columns : List (List α)) :
    (rowsOfColumns count columns).length = count ∧
      ∀ x ∈ rowsOfColumns count columns, x.length = columns.length := by
  induction count generalizing columns with
  | zero => exact ⟨rfl, nofun⟩
  | succ count ih =>
      obtain ⟨hl, hx⟩ := ih (columns.map List.tail)
      rw [List.length_map] at hx
      exact ⟨congrArg (· + 1) hl, List.forall_mem_cons.2 ⟨List.length_map _, hx⟩⟩

theorem table_latinHypercube (count : Nat) (box : Box α) (g : γ) :
    (latinHypercube count box g).1.Table box.dim ∧
      (latinHypercube count box g).1.rows.length = count := by
  have rows := rowsOfColumns_table count (stratifiedColumns count box.sides g).1
  rw [length_stratifiedColumns] at rows
  exact ⟨⟨rfl, rows.2⟩, rows.1⟩

end Sampling

/-- **Every draw is a table** with the dimension of the box and the rows asked for. -/
theorem Init.table_draw (init : Init) (count : Nat) (box : Box α) (g : γ) :
    (init.draw count box g).1.Table box.dim ∧ (init.draw count box g).1.rows.length = count := by
  cases init with
  | latinHypercube => exact Sampling.table_latinHypercube count box g
  | random => exact Sampling.table_uniform count box g

end BoxSearch

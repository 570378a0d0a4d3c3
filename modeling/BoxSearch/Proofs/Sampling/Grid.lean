import BoxSearch.Sampling
import Mathlib.Algebra.Order.Field.Rat
import Mathlib.Data.List.Lex
import Mathlib.Data.Set.Function
import Mathlib.Tactic.FieldSimp
import Mathlib.Tactic.Linarith
import Mathlib.Tactic.Positivity

/-!
# Regular grids

A grid cuts every free side of a box into equal cells, and has one row for the centre of each
combination of cells.  The number of a row is read in the mixed radix of the bins: its digits are
the cells, the last side being the lowest place.

* `gridCell_eq_peeled` — the digits are the remainders of repeated division, from the last side on;
* `gridCell_cellRow`, `cellRow_gridCell` — a cell vector has one row and a row one cell vector;
* `strictMonoOn_gridCell` — the rows are in lexicographic order of their cells;
* `gridCoordinate_mem`, `gridCoordinate_inj` — in exact arithmetic the centres of the cells of a
  side are different, and strictly inside it if it is free;
* `gridCentres_enumerates` — which grids are refused, and what the others consist of.
-/

namespace BoxSearch

namespace Sampling

/-! ## Rows and cells -/

theorem cellCount_eq_prod (bins : List Nat) : cellCount bins = bins.prod := rfl

theorem cellCount_cons (b : Nat) (bins : List Nat) :
    cellCount (b :: bins) = b * cellCount bins := rfl

theorem cellCount_pos {bins : List Nat} (h : ∀ b ∈ bins, 0 < b) : 0 < cellCount bins := by
  induction bins with
  | nil => exact Nat.one_pos
  | cons b bins ih =>
      obtain ⟨first, others⟩ := List.forall_mem_cons.1 h
      exact Nat.mul_pos first (ih others)

/-- The row of a cell vector: the number with these digits. -/
def cellRow : List Nat → List Nat → Nat
  | _ :: bins, c :: cell => c * cellCount bins + cellRow bins cell
  | _, _ => 0

theorem length_gridCell (bins : List Nat) (k : Nat) : (gridCell bins k).length = bins.length := by
  induction bins with
  | nil => rfl
  | cons b bins ih => exact congrArg (· + 1) ih

theorem gridCell_lt {bins : List Nat} (h : ∀ b ∈ bins, 0 < b) (k : Nat) :
    List.Forall₂ (· < ·) (gridCell bins k) bins := by
  induction bins with
  | nil => exact .nil
  | cons b bins ih =>
      obtain ⟨first, others⟩ := List.forall_mem_cons.1 h
      exact .cons (Nat.mod_lt _ first) (ih others)

/-- Where there are cells there are bins. -/
theorem pos_of_cell {bins cell : List Nat} (h : List.Forall₂ (· < ·) cell bins) :
    ∀ b ∈ bins, 0 < b := by
  induction h with
  | nil => exact nofun
  | cons first _ ih => exact List.forall_mem_cons.2 ⟨Nat.zero_lt_of_lt first, ih⟩

theorem cellRow_lt {bins cell : List Nat} (h : List.Forall₂ (· < ·) cell bins) :
    cellRow bins cell < cellCount bins := by
  induction h with
  | nil => exact Nat.one_pos
  | @cons c b cell bins first _ ih =>
      calc cellRow (b :: bins) (c :: cell) < c * cellCount bins + cellCount bins :=
            Nat.add_lt_add_left ih _
        _ = (c + 1) * cellCount bins := (Nat.succ_mul c _).symm
        _ ≤ b * cellCount bins := Nat.mul_le_mul_right _ first

/-- The digits do not depend on the places above them. -/
theorem gridCell_add {bins : List Nat} (h : ∀ b ∈ bins, 0 < b) (c k : Nat) :
    gridCell bins (c * cellCount bins + k) = gridCell bins k := by
  induction bins generalizing c with
  | nil => rfl
  | cons b bins ih =>
      obtain ⟨-, others⟩ := List.forall_mem_cons.1 h
      have places : c * cellCount (b :: bins) = c * b * cellCount bins :=
        (Nat.mul_assoc c b _).symm
      have digit : (c * b * cellCount bins + k) / cellCount bins % b = k / cellCount bins % b := by
        rw [Nat.add_comm, Nat.add_mul_div_right _ _ (cellCount_pos others),
          Nat.add_mul_mod_self_right]
      rw [gridCell, gridCell, places, ih others, digit]

/-- **The cells of the row of a cell vector are that vector.** -/
theorem gridCell_cellRow {bins cell : List Nat} (h : List.Forall₂ (· < ·) cell bins) :
    gridCell bins (cellRow bins cell) = cell := by
  induction h with
  | nil => rfl
  | @cons c b cell bins first others ih =>
      have positive := pos_of_cell others
      have digit : (c * cellCount bins + cellRow bins cell) / cellCount bins % b = c := by
        rw [Nat.add_comm, Nat.add_mul_div_right _ _ (cellCount_pos positive),
          Nat.div_eq_of_lt (cellRow_lt others), Nat.zero_add, Nat.mod_eq_of_lt first]
      rw [cellRow, gridCell, gridCell_add positive, ih, digit]

/-- **The row of the cells of a row is that row**, up to whole grids. -/
theorem cellRow_gridCell {bins : List Nat} (h : ∀ b ∈ bins, 0 < b) (k : Nat) :
    cellRow bins (gridCell bins k) = k % cellCount bins := by
  induction bins with
  | nil => exact (Nat.mod_one k).symm
  | cons b bins ih =>
      obtain ⟨-, others⟩ := List.forall_mem_cons.1 h
      rw [gridCell, cellRow, ih others, cellCount_cons, Nat.mul_comm b, Nat.mod_mul,
        Nat.mul_comm (cellCount bins), Nat.add_comm]

/-- The cell vectors with the lower ones first stand for the lower rows. -/
theorem cellRow_lt_cellRow {bins cell cell' : List Nat} (h : List.Forall₂ (· < ·) cell bins)
    (h' : List.Forall₂ (· < ·) cell' bins) (lt : cell < cell') :
    cellRow bins cell < cellRow bins cell' := by
  induction h generalizing cell' with
  | nil =>
      cases h'
      exact absurd lt (List.lt_irrefl _)
  | @cons c b cell bins _ others ih =>
      cases h' with
      | @cons c' _ cell' _ _ others' =>
          rcases List.cons_lt_cons_iff.1 lt with first | ⟨rfl, rest⟩
          · -- the rows of one cell of the first side are all before those of the next one
            calc cellRow (b :: bins) (c :: cell) < c * cellCount bins + cellCount bins :=
                  Nat.add_lt_add_left (cellRow_lt others) _
              _ = (c + 1) * cellCount bins := (Nat.succ_mul c _).symm
              _ ≤ c' * cellCount bins := Nat.mul_le_mul_right _ first
              _ ≤ cellRow (b :: bins) (c' :: cell') := Nat.le_add_right _ _
          · exact Nat.add_lt_add_left (ih others' rest) _

/-- **The rows are in lexicographic order of their cells**, so the last side runs fastest. -/
theorem strictMonoOn_gridCell {bins : List Nat} (h : ∀ b ∈ bins, 0 < b) :
    StrictMonoOn (gridCell bins) {k | k < cellCount bins} := by
  intro k hk k' hk' lt
  have row {k : Nat} (hk : k < cellCount bins) : cellRow bins (gridCell bins k) = k := by
    rw [cellRow_gridCell h, Nat.mod_eq_of_lt hk]
  rcases lt_trichotomy (gridCell bins k) (gridCell bins k') with below | same | above
  · exact below
  · rw [← row hk, ← row hk', same] at lt
    exact absurd lt (lt_irrefl _)
  · have reversed := cellRow_lt_cellRow (gridCell_lt h k') (gridCell_lt h k) above
    rw [row hk, row hk'] at reversed
    exact absurd lt reversed.not_gt

/-- **Every cell vector is that of exactly one row.** -/
theorem bijOn_gridCell {bins : List Nat} (h : ∀ b ∈ bins, 0 < b) :
    Set.BijOn (gridCell bins) {k | k < cellCount bins}
      {cell | List.Forall₂ (· < ·) cell bins} := by
  refine ⟨fun k _ => gridCell_lt h k, (strictMonoOn_gridCell h).injOn, ?_⟩
  intro cell hcell
  exact ⟨cellRow bins cell, cellRow_lt hcell, gridCell_cellRow hcell⟩

/-! ### Repeated division -/

/-- The remainders of a number that is divided by one bin after the other. -/
def peeledCell : List Nat → Nat → List Nat
  | [], _ => []
  | b :: bins, rest => rest % b :: peeledCell bins (rest / b)

theorem peeledCell_concat (bins : List Nat) (b k : Nat) :
    peeledCell (bins ++ [b]) k = peeledCell bins k ++ [k / bins.prod % b] := by
  induction bins generalizing k with
  | nil => simp [peeledCell]
  | cons a bins ih =>
      rw [List.cons_append, peeledCell, ih, Nat.div_div_eq_div_mul, peeledCell, List.prod_cons,
        List.cons_append]

/-- **The cells of a row are peeled off it**: the remainder for the last side first, then that of
the quotient for the side before it, and so on. -/
theorem gridCell_eq_peeled (bins : List Nat) (k : Nat) :
    gridCell bins k = (peeledCell bins.reverse k).reverse := by
  induction bins with
  | nil => rfl
  | cons b bins ih =>
      rw [List.reverse_cons, peeledCell_concat, List.reverse_concat, ← ih,
        (List.reverse_perm bins).prod_eq]
      rfl

/-! ## The bins of each side -/

section

variable {α : Type} [Scalar α]

/-- One entry serves for all sides. -/
def spreadBins (dim : Nat) : List Nat → List Nat
  | [b] => List.replicate dim b
  | bins => bins

/-- The number of cells along each side: a fixed side has one, whatever its entry is. -/
def sideBins (bins : List Nat) (sides : List (Interval α)) : List Nat :=
  List.zipWith (fun b s => if s.isFree then b else 1) (spreadBins sides.length bins) sides

variable {bins : List Nat} {sides : List (Interval α)}

theorem length_spreadBins {dim : Nat} (h : bins.length = 1 ∨ bins.length = dim) :
    (spreadBins dim bins).length = dim := by
  unfold spreadBins
  split
  · exact List.length_replicate
  · next single =>
      rcases h with h | h
      · obtain ⟨b, rfl⟩ := List.length_eq_one_iff.1 h
        exact absurd rfl (single b)
      · exact h

theorem zero_mem_spreadBins {dim : Nat} (h : 0 < dim) : 0 ∈ spreadBins dim bins ↔ 0 ∈ bins := by
  unfold spreadBins
  split
  · rw [List.mem_replicate, List.mem_singleton]
    exact and_iff_right h.ne'
  · exact Iff.rfl

theorem length_sideBins (h : bins.length = 1 ∨ bins.length = sides.length) :
    (sideBins bins sides).length = sides.length := by
  rw [sideBins, List.length_zipWith, length_spreadBins h, min_self]

theorem sideBins_pos (h : 0 < sides.length) (none : 0 ∉ bins) :
    ∀ b ∈ sideBins bins sides, 0 < b := by
  intro b hb
  obtain ⟨i, hi, rfl⟩ := List.getElem_of_mem hb
  simp only [sideBins, List.getElem_zipWith]
  split
  · rw [← zero_mem_spreadBins h] at none
    exact Nat.pos_of_ne_zero fun zero => none (zero ▸ List.getElem_mem _)
  · exact Nat.one_pos

/-- Bins for another number of sides are refused. -/
theorem gridBins_of_length (h : bins.length ≠ 1) (h' : bins.length ≠ sides.length) :
    gridBins bins sides = .error (.dimensionMismatch "grid bins" sides.length bins.length) := by
  rcases bins with _ | ⟨b, _ | ⟨b', bins⟩⟩
  · simp only [gridBins, if_neg h']
  · exact absurd rfl h
  · simp only [gridBins, if_neg h']

/-- Bins for the right number of sides are refused if one of them is zero. -/
theorem gridBins_of_fitting (h : bins.length = 1 ∨ bins.length = sides.length) :
    gridBins bins sides = if 0 ∈ spreadBins sides.length bins then .error (.configuration .zeroBins)
      else .ok (sideBins bins sides) := by
  rcases bins with _ | ⟨b, _ | ⟨b', bins⟩⟩
  · have fits := h.resolve_left (by decide)
    simp only [gridBins, if_pos fits, List.contains_iff_mem]
    rfl
  · simp only [gridBins, List.contains_iff_mem]
    rfl
  · have fits := h.resolve_left (by simp)
    simp only [gridBins, if_pos fits, List.contains_iff_mem]
    rfl

/-- A fixed side has one bin. -/
theorem sideBins_single (h : bins.length = 1 ∨ bins.length = sides.length) :
    List.Forall₂ (fun b (s : Interval α) => s.isFree = false → b = 1) (sideBins bins sides)
      sides := by
  rw [List.forall₂_iff_get]
  refine ⟨length_sideBins h, fun i _ _ fixed => ?_⟩
  simp only [List.get_eq_getElem] at fixed
  simp [sideBins, fixed]

/-! ## Grids -/

/-- The centre of a cell vector. -/
def cellCentre (sides : List (Interval α)) (bins cell : List Nat) : Point α :=
  List.zipWith (fun s (bc : Nat × Nat) => gridCoordinate s bc.1 bc.2) sides (bins.zip cell)

/-- The centres of all cells, row by row. -/
def cellTable (bins : List Nat) (box : Box α) : Population α :=
  ⟨box.dim, (List.range (sideBins bins box.sides).prod).map fun k =>
    cellCentre box.sides (sideBins bins box.sides) (gridCell (sideBins bins box.sides) k)⟩

theorem length_cellTable (bins : List Nat) (box : Box α) :
    (cellTable bins box).rows.length = (sideBins bins box.sides).prod := by
  rw [cellTable, List.length_map, List.length_range]

variable {box : Box α} {p : Population α}

/-- What a grid has to pass, and what it is then. -/
theorem gridCentres_ok (h : gridCentres bins box = .ok p) :
    (bins.length = 1 ∨ bins.length = box.dim) ∧ 0 ∉ spreadBins box.dim bins ∧
      p = cellTable bins box := by
  have fits : bins.length = 1 ∨ bins.length = box.dim := by
    by_contra wrong
    obtain ⟨many, other⟩ := not_or.1 wrong
    simp only [gridCentres, gridBins_of_length many other] at h
    cases h
  refine ⟨fits, ?_⟩
  simp only [gridCentres, gridBins_of_fitting fits] at h
  by_cases zero : 0 ∈ spreadBins box.sides.length bins
  · simp only [if_pos zero] at h
    cases h
  · refine ⟨zero, ?_⟩
    simp only [if_neg zero] at h
    cases counted : Size.count (cellCount (sideBins bins box.sides)) with
    | error e =>
        rw [counted] at h
        cases h
    | ok total =>
        have whole : total = cellCount (sideBins bins box.sides) := by
          unfold Size.count at counted
          split at counted
          · exact (Except.ok.inj counted).symm
          · cases counted
        simp only [counted] at h
        cases room : Size.checkTable total box.dim with
        | error e =>
            rw [room] at h
            cases h
        | ok =>
            simp only [room] at h
            rw [whole] at h
            exact (Except.ok.inj h).symm

theorem gridCentres_eq_ok (positive : 0 < box.dim)
    (h : bins.length = 1 ∨ bins.length = box.dim) (none : 0 ∉ bins)
    (fits : 8 * ((sideBins bins box.sides).prod * box.dim) ≤ Size.addressable) :
    gridCentres bins box = .ok (cellTable bins box) := by
  have zero : 0 ∉ spreadBins box.sides.length bins := fun zero =>
    none ((zero_mem_spreadBins positive).1 zero)
  have rows := cellCount_pos (sideBins_pos positive none)
  rw [← cellCount_eq_prod] at fits
  have side : max (cellCount (sideBins bins box.sides)) box.dim ≤
      cellCount (sideBins bins box.sides) * box.dim :=
    max_le (Nat.le_mul_of_pos_right _ positive) (Nat.le_mul_of_pos_left _ rows)
  have most : Size.addressable < UInt64.size := by decide
  have counted : Size.count (cellCount (sideBins bins box.sides)) =
      .ok (cellCount (sideBins bins box.sides)) :=
    if_pos (by have := le_max_left (cellCount (sideBins bins box.sides)) box.dim; omega)
  have room : Size.checkTable (cellCount (sideBins bins box.sides)) box.dim = .ok () := by
    rw [Size.checkTable, if_neg (by omega)]
    exact if_neg (not_lt.2 fits)
  simp only [gridCentres, gridBins_of_fitting h, if_neg zero, counted, room]
  rfl

theorem gridCentres_eq_fault (positive : 0 < box.dim)
    (h : bins.length = 1 ∨ bins.length = box.dim) (none : 0 ∉ bins)
    (large : Size.addressable < 8 * ((sideBins bins box.sides).prod * box.dim)) :
    ∃ fault, gridCentres bins box = .error (.fault fault) := by
  have zero : 0 ∉ spreadBins box.sides.length bins := fun zero =>
    none ((zero_mem_spreadBins positive).1 zero)
  simp only [gridCentres, gridBins_of_fitting h, if_neg zero]
  by_cases counted : cellCount (sideBins bins box.sides) < UInt64.size
  · have full : Size.checkTable (cellCount (sideBins bins box.sides)) box.dim =
        .error (.fault .tooLarge) := by
      rw [Size.checkTable]
      split
      · rfl
      · exact if_pos large
    exact ⟨.tooLarge, by rw [Size.count, if_pos counted]; simp only [full]⟩
  · exact ⟨.overflow, by rw [Size.count, if_neg counted]⟩

/-- Which grids are refused. -/
theorem refused_iff (positive : 0 < box.dim) :
    (∃ e, gridCentres bins box = .error e ∧ e.fault? = none) ↔
      (bins.length ≠ 1 ∧ bins.length ≠ box.dim) ∨ 0 ∈ bins := by
  by_cases fits : bins.length = 1 ∨ bins.length = box.dim
  · by_cases zero : 0 ∈ bins
    · have spread : 0 ∈ spreadBins box.sides.length bins := (zero_mem_spreadBins positive).2 zero
      refine iff_of_true ⟨.configuration .zeroBins, ?_, rfl⟩ (.inr zero)
      simp only [gridCentres, gridBins_of_fitting fits, if_pos spread]
    · refine iff_of_false ?_ (not_or.2 ⟨fun wrong => not_or.2 wrong fits, zero⟩)
      rintro ⟨e, refused, cause⟩
      by_cases room : 8 * ((sideBins bins box.sides).prod * box.dim) ≤ Size.addressable
      · rw [gridCentres_eq_ok positive fits zero room] at refused
        cases refused
      · obtain ⟨fault, h⟩ := gridCentres_eq_fault positive fits zero (not_le.1 room)
        cases h.symm.trans refused
        cases cause
  · obtain ⟨many, other⟩ := not_or.1 fits
    refine iff_of_true ⟨.dimensionMismatch "grid bins" box.dim bins.length, ?_, rfl⟩
      (.inl ⟨many, other⟩)
    simp only [gridCentres, gridBins_of_length many other]
    rfl

end

/-! ## Exact coordinates -/

section

variable {s : Interval Rat} {b c c' : Nat}

theorem isFree_iff_lt : s.isFree = true ↔ s.lower < s.upper := decide_eq_true_iff

theorem upper_eq_of_fixed (h : s.isFree = false) : s.upper = s.lower :=
  le_antisymm (not_lt.1 fun lt => by simp [isFree_iff_lt.2 lt] at h) s.lower_le_upper

/-- The centre of a cell, of a free side as of a fixed one. -/
theorem gridCoordinate_eq (s : Interval Rat) (b c : Nat) :
    gridCoordinate s b c = s.lower + ((c : Rat) + 1 / 2) * (s.upper - s.lower) / b := by
  unfold gridCoordinate
  cases free : s.isFree with
  | true =>
      have half : (Scalar.half : Rat) = 1 / 2 := by decide +kernel
      rw [half]
      rfl
  | false =>
      rw [upper_eq_of_fixed free]
      simp

/-- The centre of the cell `c` of `b` equal cells of an interval. -/
structure Centred (s : Interval Rat) (b c : Nat) (v : Rat) : Prop where
  /-- half a cell above its lower end -/
  value : v = s.lower + ((c : Rat) + 1 / 2) * (s.upper - s.lower) / b
  /-- strictly inside a free interval -/
  inside : s.lower < s.upper → s.lower < v ∧ v < s.upper
  /-- the one coordinate of a fixed interval -/
  fixed : s.lower = s.upper → v = s.lower

/-- The centre of a cell of a free side is strictly inside the side. -/
theorem gridCoordinate_mem (free : s.lower < s.upper) (h : c < b) :
    s.lower < gridCoordinate s b c ∧ gridCoordinate s b c < s.upper := by
  have bins : (0 : Rat) < b := by exact_mod_cast Nat.zero_lt_of_lt h
  have below : ((c : Rat) + 1 / 2) < b := by
    have next : (c : Rat) + 1 ≤ b := by exact_mod_cast h
    linarith
  have span := sub_pos.2 free
  rw [gridCoordinate_eq]
  constructor
  · have positive : 0 < ((c : Rat) + 1 / 2) * (s.upper - s.lower) / b := by positivity
    linarith
  · have fraction : ((c : Rat) + 1 / 2) * (s.upper - s.lower) / b < s.upper - s.lower := by
      rw [div_lt_iff₀ bins, mul_comm]
      exact mul_lt_mul_of_pos_left below span
    linarith

theorem centred_gridCoordinate (h : c < b) : Centred s b c (gridCoordinate s b c) where
  value := gridCoordinate_eq s b c
  inside free := gridCoordinate_mem free h
  fixed ends := by rw [gridCoordinate_eq, ends, sub_self, mul_zero, zero_div, add_zero]

/-- Different cells of a side have different centres. -/
theorem gridCoordinate_inj (single : s.isFree = false → b = 1) (h : c < b) (h' : c' < b)
    (same : gridCoordinate s b c = gridCoordinate s b c') : c = c' := by
  cases free : s.isFree with
  | true =>
      have span := (sub_pos.2 (isFree_iff_lt.1 free)).ne'
      have bins : (b : Rat) ≠ 0 := by exact_mod_cast (Nat.zero_lt_of_lt h).ne'
      rw [gridCoordinate_eq, gridCoordinate_eq, add_right_inj, div_left_inj' bins,
        mul_left_inj' span, add_left_inj] at same
      exact_mod_cast same
  | false =>
      have one := single free
      omega

end

/-- Different cell vectors have different centres. -/
theorem cellCentre_inj {sides : List (Interval Rat)} {bins cell cell' : List Nat}
    (single : List.Forall₂ (fun b (s : Interval Rat) => s.isFree = false → b = 1) bins sides)
    (h : List.Forall₂ (· < ·) cell bins) (h' : List.Forall₂ (· < ·) cell' bins)
    (same : cellCentre sides bins cell = cellCentre sides bins cell') : cell = cell' := by
  induction single generalizing cell cell' with
  | nil =>
      cases h
      cases h'
      rfl
  | cons one _ ih =>
      cases h with
      | cons first others =>
          cases h' with
          | cons first' others' =>
              obtain ⟨coordinate, rest⟩ := List.cons.inj same
              rw [gridCoordinate_inj one first first' coordinate, ih others others' rest]

/-- The coordinate of a cell vector along one side. -/
theorem cellCentre_along {sides : List (Interval Rat)} {bins cell : List Nat}
    (length : bins.length = sides.length) (h : List.Forall₂ (· < ·) cell bins) {j : Nat}
    {s : Interval Rat} (hs : sides[j]? = some s) :
    ∃ b c v, bins[j]? = some b ∧ cell[j]? = some c ∧ (cellCentre sides bins cell)[j]? = some v ∧
      Centred s b c v := by
  have hj := (List.getElem?_eq_some_iff.1 hs).1
  have hb : j < bins.length := length ▸ hj
  have hc : j < cell.length := h.length_eq ▸ hb
  have entries : (bins.zip cell)[j]? = some (bins[j], cell[j]) :=
    List.getElem?_zip_eq_some.2 ⟨List.getElem?_eq_getElem hb, List.getElem?_eq_getElem hc⟩
  have coordinate : (cellCentre sides bins cell)[j]? = some (gridCoordinate s bins[j] cell[j]) :=
    List.getElem?_zipWith_eq_some.2 ⟨s, _, hs, entries, rfl⟩
  exact ⟨_, _, _, List.getElem?_eq_getElem hb, List.getElem?_eq_getElem hc, coordinate,
    centred_gridCoordinate (h.get hc hb)⟩

/-! ## Enumeration -/

/-- **A grid has each cell once.**  In any arithmetic a grid on a box of at least one dimension is
refused exactly if the number of its entries is neither one nor that of the sides, or an entry is
zero.  Otherwise the numbers below the product of the bins, one on a fixed side, are in
lexicographic order of their cells, and every cell vector is that of exactly one of them; the cells
are the remainders of repeated division from the last side on.  If a table of so many rows of
doubles can be addressed, the grid is the table of the centres of the cells; if not, there is no
table.

In exact arithmetic the rows of a grid are all different, and the coordinate of the cell `c` of `b`
is `lower + (c + 1 / 2) * (upper - lower) / b`, strictly inside a free side and the one coordinate
of a fixed side. -/
theorem gridCentres_enumerates (bins : List Nat) :
    (∀ {α : Type} [Scalar α] (box : Box α), 0 < box.dim →
      ((∃ e, gridCentres bins box = .error e ∧ e.fault? = none) ↔
        (bins.length ≠ 1 ∧ bins.length ≠ box.dim) ∨ 0 ∈ bins) ∧
      ((bins.length = 1 ∨ bins.length = box.dim) → 0 ∉ bins →
        Set.BijOn (gridCell (sideBins bins box.sides)) {k | k < (sideBins bins box.sides).prod}
          {cell | List.Forall₂ (· < ·) cell (sideBins bins box.sides)} ∧
        StrictMonoOn (gridCell (sideBins bins box.sides))
          {k | k < (sideBins bins box.sides).prod} ∧
        (∀ k, gridCell (sideBins bins box.sides) k =
          (peeledCell (sideBins bins box.sides).reverse k).reverse) ∧
        (8 * ((sideBins bins box.sides).prod * box.dim) ≤ Size.addressable →
          gridCentres bins box = .ok (cellTable bins box) ∧
            (cellTable bins box).rows.length = (sideBins bins box.sides).prod) ∧
        (Size.addressable < 8 * ((sideBins bins box.sides).prod * box.dim) →
          ∃ fault, gridCentres bins box = .error (.fault fault)))) ∧
    ∀ (box : Box Rat) (p : Population Rat), 0 < box.dim → gridCentres bins box = .ok p →
      p.rows.Nodup ∧
      ∀ (k : Nat) (x : Point Rat), p.rows[k]? = some x → x.length = box.dim ∧
        ∀ (j : Nat) (s : Interval Rat), box.sides[j]? = some s → ∃ b c v,
          (sideBins bins box.sides)[j]? = some b ∧
          (gridCell (sideBins bins box.sides) k)[j]? = some c ∧ x[j]? = some v ∧
          Centred s b c v := by
  constructor
  · intro α _ box positive
    constructor
    · exact refused_iff positive
    · intro fits none
      have bins_pos : ∀ b ∈ sideBins bins box.sides, 0 < b := sideBins_pos positive none
      exact ⟨bijOn_gridCell bins_pos, strictMonoOn_gridCell bins_pos, gridCell_eq_peeled _,
        fun room => ⟨gridCentres_eq_ok positive fits none room, length_cellTable bins box⟩,
        gridCentres_eq_fault positive fits none⟩
  · intro box p positive h
    obtain ⟨fits, zero, rfl⟩ := gridCentres_ok h
    have bins_pos : ∀ b ∈ sideBins bins box.sides, 0 < b :=
      sideBins_pos positive fun none => zero ((zero_mem_spreadBins positive).2 none)
    constructor
    · refine List.nodup_range.map_on fun k hk k' hk' same => ?_
      exact (strictMonoOn_gridCell bins_pos).injOn (List.mem_range.1 hk) (List.mem_range.1 hk')
        (cellCentre_inj (sideBins_single fits) (gridCell_lt bins_pos k) (gridCell_lt bins_pos k')
          same)
    · intro k x hx
      simp only [cellTable, List.getElem?_map] at hx
      obtain ⟨k', hk', rfl⟩ := Option.map_eq_some_iff.1 hx
      obtain ⟨_, same⟩ := List.getElem?_eq_some_iff.1 hk'
      rw [List.getElem_range] at same
      subst same
      refine ⟨?_, fun j s hs => cellCentre_along (length_sideBins fits) (gridCell_lt bins_pos k) hs⟩
      simp only [cellCentre, List.length_zipWith, List.length_zip, length_gridCell,
        length_sideBins fits, min_self]
      rfl

/-! ### A fixed side -/

theorem segment_ordered : (0 : Rat) ≤ 2 := by decide

/-- The second of two sides is fixed. -/
def segmentBox : Box Rat := ⟨[⟨0, 2, segment_ordered⟩, ⟨5, 5, le_rfl⟩]⟩

/-- A single entry of four makes four rows, the last of them at the centre of the last cell. -/
theorem gridCentres_enumerates_segmentBox :
    gridCentres [4] segmentBox =
        .ok ⟨2, [[1 / 4, 5], [3 / 4, 5], [5 / 4, 5], [7 / 4, 5]]⟩ ∧
      [[1 / 4, 5], [3 / 4, 5], [5 / 4, 5], [(7 / 4 : Rat), 5]].Nodup ∧
      Centred ⟨0, 2, segment_ordered⟩ 4 3 (7 / 4) := by
  have centres : (cellTable [4] segmentBox).rows =
      [[1 / 4, 5], [3 / 4, 5], [5 / 4, 5], [7 / 4, 5]] := by decide +kernel
  have fits : 8 * ((sideBins [4] segmentBox.sides).prod * segmentBox.dim) ≤ Size.addressable := by
    decide +kernel
  obtain ⟨-, -, -, table, -⟩ :=
    ((gridCentres_enumerates [4]).1 segmentBox (by decide)).2 (.inl rfl) (by decide)
  have grid := (table fits).1
  obtain ⟨distinct, rows⟩ := (gridCentres_enumerates [4]).2 _ _ (by decide) grid
  have last : (cellTable [4] segmentBox).rows[3]? = some [7 / 4, 5] := by rw [centres]; rfl
  obtain ⟨b, c, v, hb, hc, hv, centred⟩ := (rows 3 _ last).2 0 _ rfl
  have bins : sideBins [4] segmentBox.sides = [4, 1] := by decide +kernel
  rw [bins] at hb hc
  cases hb
  cases hc
  cases hv
  rw [centres] at distinct
  refine ⟨?_, distinct, centred⟩
  rw [grid, ← centres]
  rfl

/-! ### Beyond the addressable -/

theorem unit_ordered : (0 : Float) ≤ 1 := by decide +kernel

/-- The interval from nothing to one. -/
def unitBox : Box Float := ⟨[⟨0, 1, unit_ordered⟩]⟩

/-- The product of the bins is within 64 bits, and there is no table of so many rows. -/
theorem gridCentres_beyond_addressable :
    0 < unitBox.dim ∧ [2 ^ 64 - 1].length = unitBox.dim ∧ 0 ∉ [2 ^ 64 - 1] ∧
      (sideBins [2 ^ 64 - 1] unitBox.sides).prod < 2 ^ 64 ∧
      gridCentres [2 ^ 64 - 1] unitBox = .error (.fault .tooLarge) := by
  have bins : sideBins [2 ^ 64 - 1] unitBox.sides = [2 ^ 64 - 1] := by decide +kernel
  refine ⟨by decide, rfl, by decide, by rw [bins]; decide, ?_⟩
  have counted : cellCount (sideBins [2 ^ 64 - 1] unitBox.sides) = 2 ^ 64 - 1 := by
    rw [bins]
    rfl
  have positive : 0 ∉ spreadBins unitBox.sides.length [2 ^ 64 - 1] := by decide
  have spread : gridBins [2 ^ 64 - 1] unitBox.sides =
      .ok (sideBins [2 ^ 64 - 1] unitBox.sides) :=
    (gridBins_of_fitting (.inl rfl)).trans (if_neg positive)
  simp only [gridCentres, spread, counted]
  rfl

end Sampling

end BoxSearch

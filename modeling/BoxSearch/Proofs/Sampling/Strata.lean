import BoxSearch.Proofs.Double.Nearest
import BoxSearch.Proofs.Sampling.Affine
import BoxSearch.Proofs.Sampling.Grid
import BoxSearch.Proofs.Sampling.Table

/-!
# One sample in each stratum

A Latin hypercube cuts each free side of a box into as many strata as there are members, draws
one fraction for each stratum, and shuffles the coordinates of the side.  Read column by column,
this has three consequences, whatever the stream of words.

* `Shuffle.perm_shuffle` — a shuffle changes nothing but the order, so a column holds the
  coordinates of all strata (`perm_stratifiedColumn`);
* `countP_stratum` — in exact arithmetic the coordinate of a stratum lies in its stratum, so each
  stratum of a column holds exactly one of them;
* `stratifiedColumns_free` — the columns of the free sides are drawn as if there were no others.

`latinHypercube_stratifies` says all this of the drawn population.
-/

namespace BoxSearch

variable {γ : Type} [WordSource γ]

/-- **A shuffle changes nothing but the order.** -/
theorem Shuffle.perm_shuffle {β : Type} (xs : List β) (g : γ) : (shuffle xs g).1.Perm xs := by
  unfold shuffle
  split
  · exact .refl _
  · exact perm_walk _ _ _ xs.toArray g

namespace WordSource

variable {α : Type} [Scalar α]

/-- The numerator of a fraction has 53 bits, since eleven of the 64 bits drawn are dropped. -/
theorem fraction53_lt (g : γ) : (fraction53 g).1 < 2 ^ 53 := by
  have word := (next64 g).1.toNat_lt
  have dropped : ((next64 g).1 >>> 11).toNat = (next64 g).1.toNat / 2 ^ 11 := by
    rw [UInt64.toNat_shiftRight, Nat.shiftRight_eq_div_pow]
    rfl
  show ((next64 g).1 >>> 11).toNat < 2 ^ 53
  omega

/-- What is drawn is a multiple of `2 ^ -53` below one. -/
theorem exists_of_mem_uniforms {u : α} {n : Nat} {g : γ} (h : u ∈ (uniforms n g).1) :
    ∃ m < 2 ^ 53, u = Scalar.dyadic m 53 := by
  induction n generalizing g with
  | zero => cases h
  | succ n ih =>
      rcases List.mem_cons.1 h with rfl | h
      · exact ⟨_, fraction53_lt g, rfl⟩
      · exact ih h

/-- In exact arithmetic what is drawn is in the half-open unit interval. -/
theorem mem_unit_of_mem_uniforms {u : Rat} {n : Nat} {g : γ} (h : u ∈ (uniforms n g).1) :
    0 ≤ u ∧ u < 1 := by
  obtain ⟨m, lt, rfl⟩ := exists_of_mem_uniforms h
  have positive : (0 : Rat) < (Nat.pow 2 53 : Nat) := by exact_mod_cast Nat.two_pow_pos 53
  have below : (m : Rat) < (Nat.pow 2 53 : Nat) := by exact_mod_cast lt
  exact ⟨div_nonneg m.cast_nonneg positive.le, (div_lt_one positive).2 below⟩

/-- On the machine it is there too, up to the last double before one. -/
theorem unitFraction_of_mem_uniforms {u : Float} {n : Nat} {g : γ} (h : u ∈ (uniforms n g).1) :
    Double.UnitFraction u := by
  obtain ⟨m, lt, rfl⟩ := exists_of_mem_uniforms h
  exact Double.unitFraction_dyadic lt

theorem isNaN_uniform (g : γ) : (uniform (α := Float) g).1.isNaN = false :=
  Double.isNaN_of_isFinite (Double.unitFraction_dyadic (fraction53_lt g)).finite

end WordSource

/-! ## Columns -/

/-- The coordinates of all members along one dimension. -/
def Population.column {α : Type} (p : Population α) (j : Nat) : List α := p.rows.filterMap (·[j]?)

/-- The entries that belong to free sides, of a point or of anything else that has an entry for
each side. -/
def freeEntries {α β : Type} [Scalar α] (sides : List (Interval α)) (xs : List β) : List β :=
  (sides.zip xs).filterMap fun sx => if sx.1.isFree then some sx.2 else none

theorem freeEntries_map {α β δ : Type} [Scalar α] (sides : List (Interval α)) (f : β → δ)
    (xs : List β) : freeEntries sides (xs.map f) = (freeEntries sides xs).map f := by
  unfold freeEntries
  rw [List.zip_map_right, List.filterMap_map, List.map_filterMap]
  refine List.filterMap_congr fun sx _ => ?_
  by_cases free : sx.1.isFree = true <;> simp [free]

namespace Sampling

section

variable {α : Type} [Scalar α] {count j : Nat} {s : Interval α} {g : γ}

/-- The transposed table has the columns that it was made of. -/
theorem filterMap_rowsOfColumns {columns : List (List α)} {column : List α}
    (hl : ∀ c ∈ columns, c.length = count) (h : columns[j]? = some column) :
    (rowsOfColumns count columns).filterMap (·[j]?) = column := by
  induction count generalizing columns column with
  | zero => exact (List.eq_nil_of_length_eq_zero (hl _ (List.mem_of_getElem? h))).symm
  | succ count ih =>
      have here := hl _ (List.mem_of_getElem? h)
      have shorter : ∀ c ∈ columns.map List.tail, c.length = count := by
        intro c hc
        obtain ⟨longer, hm, rfl⟩ := List.mem_map.1 hc
        rw [List.length_tail, hl longer hm, Nat.add_sub_cancel]
      have rest : (columns.map List.tail)[j]? = some column.tail := by
        rw [List.getElem?_map, h, Option.map_some]
      have first : (columns.map (·.headD Scalar.zero))[j]? = some (column.headD Scalar.zero) := by
        rw [List.getElem?_map, h, Option.map_some]
      rw [rowsOfColumns, List.filterMap_cons, first, ih shorter rest]
      cases column with
      | nil => cases here
      | cons v column => rfl

theorem rowsOfColumns_freeEntries (sides : List (Interval α)) (count : Nat)
    (columns : List (List α)) :
    rowsOfColumns count (freeEntries sides columns) =
      (rowsOfColumns count columns).map (freeEntries sides) := by
  induction count generalizing columns with
  | zero => rfl
  | succ count ih =>
      rw [rowsOfColumns, rowsOfColumns, List.map_cons, ← ih, freeEntries_map, freeEntries_map]

/-! ### A single column -/

/-- **The column of a free side holds the coordinates of all strata**, in some order. -/
theorem perm_stratifiedColumn (free : s.isFree = true) (count : Nat) (g : γ) :
    (stratifiedColumn count s g).1.Perm ((WordSource.uniforms count g).1.mapIdx fun k u =>
      s.lower + (Scalar.ofNat k + u) / Scalar.ofNat count * (s.upper - s.lower)) := by
  let drawn := WordSource.uniforms (α := α) count g
  have column : (stratifiedColumn count s g).1 =
      (Shuffle.shuffle (strata count drawn.1) drawn.2).1.map (along s) := by
    unfold stratifiedColumn
    rw [if_pos free]
  rw [column]
  refine ((Shuffle.perm_shuffle _ _).map _).trans (.of_eq ?_)
  rw [strata, List.mapIdx_eq_zipIdx_map, List.mapIdx_eq_zipIdx_map, List.map_map]
  rfl

/-- A fixed side has one coordinate, and takes nothing from the source. -/
theorem stratifiedColumn_of_fixed (fixed : s.isFree = false) (count : Nat) (g : γ) :
    stratifiedColumn count s g = (List.replicate count s.lower, g) := by
  unfold stratifiedColumn
  rw [if_neg (by rw [fixed]; exact Bool.false_ne_true)]

/-! ### All columns -/

/-- The source from which the column of a side is drawn: what the columns before it leave. -/
def sourceAt (count : Nat) (b : Box α) (j : Nat) (g : γ) : γ :=
  (stratifiedColumns count (b.sides.take j) g).2

theorem getElem?_stratifiedColumns (count : Nat) {sides : List (Interval α)}
    (h : sides[j]? = some s) (g : γ) :
    (stratifiedColumns count sides g).1[j]? =
        some (stratifiedColumn count s (stratifiedColumns count (sides.take j) g).2).1 ∧
      (stratifiedColumns count (sides.take (j + 1)) g).2 =
        (stratifiedColumn count s (stratifiedColumns count (sides.take j) g).2).2 := by
  induction sides generalizing j g with
  | nil => cases h
  | cons side sides ih =>
      cases j with
      | zero =>
          cases Option.some.inj h
          exact ⟨rfl, rfl⟩
      | succ j => exact ih h _

/-- **The columns of the free sides are drawn as if there were no others.** -/
theorem stratifiedColumns_free (count : Nat) (sides : List (Interval α)) (g : γ) :
    stratifiedColumns count (sides.filter (·.isFree)) g =
      (freeEntries sides (stratifiedColumns count sides g).1,
        (stratifiedColumns count sides g).2) := by
  induction sides generalizing g with
  | nil => rfl
  | cons side sides ih =>
      cases free : side.isFree with
      | true =>
          rw [List.filter_cons_of_pos (by exact free)]
          simp only [stratifiedColumns, ih, freeEntries, List.zip_cons_cons, List.filterMap_cons,
            free, if_true]
      | false =>
          rw [List.filter_cons_of_neg (by rw [free]; exact Bool.false_ne_true)]
          simp only [stratifiedColumns, stratifiedColumn_of_fixed free, ih, freeEntries,
            List.zip_cons_cons, List.filterMap_cons, free, Bool.false_eq_true, if_false]

/-! ### The population -/

theorem column_latinHypercube {b : Box α} (h : b.sides[j]? = some s) (g : γ) :
    (latinHypercube count b g).1.column j =
      (stratifiedColumn count s (sourceAt count b j g)).1 :=
  filterMap_rowsOfColumns (fun _ => length_of_mem_stratifiedColumns)
    (getElem?_stratifiedColumns count h g).1

/-- Two boxes with the same free sides get the same coordinates along them, and leave the source
in the same place. -/
theorem latinHypercube_of_free {b b' : Box α}
    (same : b'.sides.filter (·.isFree) = b.sides.filter (·.isFree)) (count : Nat) (g : γ) :
    (latinHypercube count b' g).1.rows.map (freeEntries b'.sides) =
        (latinHypercube count b g).1.rows.map (freeEntries b.sides) ∧
      (latinHypercube count b' g).2 = (latinHypercube count b g).2 := by
  have columns := stratifiedColumns_free count b'.sides g
  rw [same, stratifiedColumns_free count b.sides g] at columns
  obtain ⟨entries, source⟩ := Prod.mk.inj columns
  refine ⟨?_, source.symm⟩
  show (rowsOfColumns count _).map _ = (rowsOfColumns count _).map _
  rw [← rowsOfColumns_freeEntries, ← rowsOfColumns_freeEntries, entries]

end

/-! ## Exact strata -/

/-- Whether a coordinate lies in stratum `k` of `count` equal strata of an interval. -/
def inStratum (count : Nat) (s : Interval Rat) (k : Nat) (x : Rat) : Bool :=
  s.lower + k / count * (s.upper - s.lower) ≤ x ∧
    x < s.lower + (k + 1) / count * (s.upper - s.lower)

/-- The coordinate of a stratum lies in its stratum and in no other. -/
theorem inStratum_iff {count k k' : Nat} {s : Interval Rat} {u : Rat} (free : s.isFree = true)
    (positive : 0 < count) (unit : 0 ≤ u ∧ u < 1) :
    inStratum count s k' (s.lower + (k + u) / count * (s.upper - s.lower)) = true ↔ k = k' := by
  have span := sub_pos.2 (isFree_iff_lt.1 free)
  have members : (0 : Rat) < count := by exact_mod_cast positive
  unfold inStratum
  rw [decide_eq_true_iff, add_le_add_iff_left, add_lt_add_iff_left, mul_le_mul_iff_left₀ span,
    mul_lt_mul_iff_left₀ span, div_le_div_iff_of_pos_right members,
    div_lt_div_iff_of_pos_right members]
  constructor
  · rintro ⟨low, high⟩
    have above : (k' : Rat) < k + 1 := by linarith
    have below : (k : Rat) < k' + 1 := by linarith
    norm_cast at above below
    omega
  · rintro rfl
    constructor <;> linarith

/-- **Each stratum of a column holds exactly one coordinate.** -/
theorem countP_stratum {count k : Nat} {s : Interval Rat} {us : List Rat} (free : s.isFree = true)
    (length : us.length = count) (units : ∀ u ∈ us, 0 ≤ u ∧ u < 1) (h : k < count) :
    (us.mapIdx fun i u => s.lower + ((i : Rat) + u) / count * (s.upper - s.lower)).countP
      (inStratum count s k) = 1 := by
  have own : ∀ ui ∈ us.zipIdx, (inStratum count s k
      (s.lower + ((ui.2 : Rat) + ui.1) / count * (s.upper - s.lower)) = true ↔
        (ui.2 == k) = true) := by
    intro ui hui
    rw [inStratum_iff free (Nat.zero_lt_of_lt h) (units _ (List.fst_mem_of_mem_zipIdx hui)),
      beq_iff_eq]
  have places : us.zipIdx.countP (fun ui => ui.2 == k) = (us.zipIdx.map Prod.snd).count k := by
    rw [List.count, List.countP_map]
    rfl
  rw [List.mapIdx_eq_zipIdx_map, List.countP_map]
  calc us.zipIdx.countP _ = us.zipIdx.countP fun ui => ui.2 == k := List.countP_congr own
    _ = (List.range' 0 us.length).count k := by rw [places, List.zipIdx_map_snd]
    _ = 1 := List.count_eq_one_of_mem List.nodup_range' (by simp [length, h])

/-! ## The theorem -/

/-- **A Latin hypercube has one sample in each stratum.**  The fractions that a side draws are
multiples of `2 ^ -53` below one, and come from the source as the sides before it leave it; on the
machine, too, they stand for numbers from zero up to but without one.  The column of a free side is
the list of the coordinates of all strata in some order, that of a fixed side is constant and leaves
the source alone, and boxes with the same free sides get the same coordinates along them.  In exact
arithmetic each of the equal parts of a free side holds exactly one coordinate. -/
theorem latinHypercube_stratifies (count : Nat) (g : γ) :
    (∀ {α : Type} [Scalar α] (b : Box α),
      (latinHypercube count b g).1.Table b.dim ∧
      (latinHypercube count b g).1.rows.length = count ∧
      (∀ j s, b.sides[j]? = some s →
        ∃ us : List α, us = (WordSource.uniforms count (sourceAt count b j g)).1 ∧
          us.length = count ∧
          (∀ u ∈ us, ∃ m < 2 ^ 53, u = Scalar.dyadic m 53) ∧
          (s.isFree = true →
            ((latinHypercube count b g).1.column j).Perm (us.mapIdx fun k u =>
              s.lower + (Scalar.ofNat k + u) / Scalar.ofNat count * (s.upper - s.lower))) ∧
          (s.isFree = false →
            (latinHypercube count b g).1.column j = List.replicate count s.lower ∧
            sourceAt count b (j + 1) g = sourceAt count b j g)) ∧
      ∀ b' : Box α, b'.sides.filter (·.isFree) = b.sides.filter (·.isFree) →
        (latinHypercube count b' g).1.rows.map (freeEntries b'.sides) =
          (latinHypercube count b g).1.rows.map (freeEntries b.sides) ∧
        (latinHypercube count b' g).2 = (latinHypercube count b g).2) ∧
    (∀ (b : Box Float) (j : Nat), ∀ u ∈ (WordSource.uniforms count (sourceAt count b j g)).1,
      Double.isFinite u = true ∧ 0 ≤ Double.value u ∧ Double.value u < 1) ∧
    ∀ (b : Box Rat) (j : Nat) (s : Interval Rat), b.sides[j]? = some s → s.isFree = true →
      (∀ u ∈ (WordSource.uniforms count (sourceAt count b j g)).1, (0 : Rat) ≤ u ∧ u < 1) ∧
      ∀ k < count,
        ((latinHypercube count b g).1.column j).countP (inStratum count s k) = 1 := by
  refine ⟨?_, ?_, ?_⟩
  · intro α _ b
    obtain ⟨table, rows⟩ := table_latinHypercube count b g
    refine ⟨table, rows, fun j s hs => ?_, fun b' same => latinHypercube_of_free same count g⟩
    refine ⟨_, rfl, WordSource.length_uniforms _ _, fun u => WordSource.exists_of_mem_uniforms,
      fun free => ?_, fun fixed => ?_⟩
    · rw [column_latinHypercube hs]
      exact perm_stratifiedColumn free count _
    · obtain ⟨-, source⟩ := getElem?_stratifiedColumns count hs g
      rw [stratifiedColumn_of_fixed fixed] at source
      rw [column_latinHypercube hs, stratifiedColumn_of_fixed fixed]
      exact ⟨rfl, source⟩
  · intro b j u hu
    have unit := WordSource.unitFraction_of_mem_uniforms hu
    exact ⟨unit.finite, unit.nonneg, unit.lt_one⟩
  · intro b j s hs free
    have units := fun u (hu : u ∈ (WordSource.uniforms count (sourceAt count b j g)).1) =>
      WordSource.mem_unit_of_mem_uniforms hu
    refine ⟨units, fun k hk => ?_⟩
    rw [column_latinHypercube hs, (perm_stratifiedColumn free count _).countP_eq]
    exact countP_stratum free (WordSource.length_uniforms _ _) units hk

end Sampling
end BoxSearch

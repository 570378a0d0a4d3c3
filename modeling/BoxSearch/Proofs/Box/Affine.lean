import BoxSearch.Box
import BoxSearch.Objective
import BoxSearch.State
import BoxSearch.Strategy.Mutation
import Mathlib.Algebra.Order.Field.Rat
import Mathlib.Tactic.FieldSimp
import Mathlib.Tactic.Ring

/-!
# Changes of variables

A change of variables stretches every coordinate by a positive factor and moves it.  On
exact coordinates it has an inverse, keeps the order of each coordinate, and takes boxes to
boxes.  This file says what it does to the things that a search is made of: points, boxes,
populations, states and objectives.

* `Axis` — the change of one coordinate, and `Change` — one for each coordinate;
* `Change.clip_box` — clipping comes before or after the change;
* `Change.blend` — a change of variables for sums of points: the offset counts as often as
  the coefficients of the points amount to.  Where they amount to one it is the change of a
  point (`blend_one`).
-/

namespace BoxSearch

/-! ## One coordinate -/

/-- The change of a coordinate. -/
structure Axis where
  /-- the factor by which it is stretched -/
  scale : Rat
  /-- the distance by which it is moved -/
  offset : Rat
  /-- its direction is kept -/
  scale_pos : 0 < scale

namespace Axis

/-- The coordinate after the change. -/
def apply (a : Axis) (v : Rat) : Rat := a.scale * v + a.offset

/-- The coordinate before it. -/
def undo (a : Axis) (v : Rat) : Rat := (v - a.offset) / a.scale

variable (a : Axis) (u v : Rat)

theorem undo_apply : a.undo (a.apply v) = v := by
  have nonzero : a.scale ≠ 0 := a.scale_pos.ne'
  unfold undo apply
  field_simp
  ring

theorem apply_lt_iff : a.apply u < a.apply v ↔ u < v := by
  unfold apply
  rw [add_lt_add_iff_right, mul_lt_mul_iff_right₀ a.scale_pos]

theorem apply_le_iff : a.apply u ≤ a.apply v ↔ u ≤ v := by
  unfold apply
  rw [add_le_add_iff_right, mul_le_mul_iff_right₀ a.scale_pos]

/-- The change of an interval. -/
def interval (s : Interval Rat) : Interval Rat :=
  ⟨a.apply s.lower, a.apply s.upper, (a.apply_le_iff _ _).2 s.lower_le_upper⟩

variable (s : Interval Rat)

@[simp]
theorem isFree_interval : (a.interval s).isFree = s.isFree :=
  decide_eq_decide.2 (a.apply_lt_iff s.lower s.upper)

/-- Moving a coordinate into an interval comes before or after the change. -/
theorem clamp_interval : (a.interval s).clamp (a.apply v) = a.apply (s.clamp v) := by
  have below : a.apply v < (a.interval s).lower ↔ v < s.lower := a.apply_lt_iff v s.lower
  have above : (a.interval s).upper < a.apply v ↔ s.upper < v := a.apply_lt_iff s.upper v
  unfold Interval.clamp
  rw [isFree_interval]
  split
  · by_cases hb : v < s.lower
    · rw [if_pos hb, if_pos (below.2 hb)]
      rfl
    by_cases ha : s.upper < v
    · rw [if_neg hb, if_neg fun h => hb (below.1 h), if_pos ha, if_pos (above.2 ha)]
      rfl
    · rw [if_neg hb, if_neg fun h => hb (below.1 h), if_neg ha, if_neg fun h => ha (above.1 h)]
  · rfl

end Axis

/-! ## All coordinates -/

/-- A change of variables. -/
structure Change where
  /-- the change of each coordinate -/
  axes : List Axis

namespace Change

/-- The number of coordinates that are changed. -/
def dim (T : Change) : Nat := T.axes.length

/-- The point after the change. -/
def point (T : Change) (x : Point Rat) : Point Rat := List.zipWith Axis.apply T.axes x

/-- The point before it. -/
def back (T : Change) (x : Point Rat) : Point Rat := List.zipWith Axis.undo T.axes x

/-- The change of a box. -/
def box (T : Change) (b : Box Rat) : Box Rat := ⟨List.zipWith Axis.interval T.axes b.sides⟩

/-- The change of a population. -/
def population (T : Change) (p : Population Rat) : Population Rat :=
  { p with rows := p.rows.map T.point }

/-- The change of what a run has committed. -/
def state (T : Change) (s : State Rat) : State Rat :=
  { s with population := T.population s.population, bestSolution := T.point s.bestSolution }

/-- The objective on the changed points. -/
def objective (T : Change) (o : Objective Rat) : Objective Rat :=
  { o with eval := fun n x => o.eval n (T.back x) }

variable (T : Change) {x y : Point Rat} {b : Box Rat}

@[simp]
theorem length_point (h : x.length = T.dim) : (T.point x).length = T.dim := by
  rw [point, List.length_zipWith, h, dim, Nat.min_self]

theorem point_nil : T.point [] = [] := List.zipWith_nil_right

theorem dim_box (h : b.dim = T.dim) : (T.box b).dim = T.dim := by
  show (List.zipWith Axis.interval T.axes b.sides).length = T.dim
  rw [List.length_zipWith, show b.sides.length = T.dim from h, dim, Nat.min_self]

/-- Going back undoes the change. -/
theorem back_point (h : x.length = T.dim) : T.back (T.point x) = x := by
  obtain ⟨axes⟩ := T
  simp only [dim] at h
  unfold back point
  induction axes generalizing x with
  | nil => rw [List.eq_nil_of_length_eq_zero h]; rfl
  | cons a axes ih =>
      cases x with
      | nil => rfl
      | cons v x =>
          simp only [List.zipWith_cons_cons, a.undo_apply, ih (Nat.succ.inj h)]

/-- **Clipping comes before or after the change.** -/
theorem clip_box (hb : b.dim = T.dim) (hx : x.length = T.dim) :
    (T.box b).clip (T.point x) = T.point (b.clip x) := by
  obtain ⟨axes⟩ := T
  obtain ⟨sides⟩ := b
  simp only [dim, Box.dim] at hb hx
  unfold Box.clip box point
  induction axes generalizing sides x with
  | nil => rw [List.eq_nil_of_length_eq_zero hx, List.eq_nil_of_length_eq_zero hb]; rfl
  | cons a axes ih =>
      cases x with
      | nil => cases hx
      | cons v x =>
          cases sides with
          | nil => cases hb
          | cons s sides =>
              simp only [List.zipWith_cons_cons, Box.clipSides, a.clamp_interval]
              rw [ih (Nat.succ.inj hx) sides (Nat.succ.inj hb)]

/-! ## Members -/

@[simp]
theorem size_population (p : Population Rat) : (T.population p).size = p.size :=
  List.length_map _

@[simp]
theorem row_population (p : Population Rat) (i : Nat) :
    (T.population p).row i = T.point (p.row i) := by
  show (p.rows.map T.point).getD i [] = T.point (p.rows.getD i [])
  rw [List.getD_eq_getElem?_getD, List.getD_eq_getElem?_getD, List.getElem?_map]
  cases p.rows[i]? with
  | none => exact T.point_nil.symm
  | some x => rfl

/-! ## Objectives -/

theorem eval_objective (o : Objective Rat) (n : Nat) (h : x.length = T.dim) :
    (T.objective o).eval n (T.point x) = o.eval n x := by
  show o.eval n (T.back (T.point x)) = _
  rw [T.back_point h]

/-! ## Sums of points -/

/-- The change of a sum of points whose coefficients amount to `w`. -/
def blend (w : Rat) (x : Point Rat) : Point Rat :=
  List.zipWith (fun (a : Axis) v => a.scale * v + w * a.offset) T.axes x

/-- A point is the sum of itself once. -/
theorem blend_one (x : Point Rat) : T.blend 1 x = T.point x := by
  unfold blend point Axis.apply
  simp only [one_mul]

section

variable (w w' f : Rat)

theorem blend_add (x y : Point Rat) :
    (T.blend w x).add (T.blend w' y) = T.blend (w + w') (x.add y) := by
  unfold blend Point.add
  induction T.axes generalizing x y with
  | nil => rfl
  | cons a axes ih =>
      cases x with
      | nil => rfl
      | cons u x =>
          cases y with
          | nil => rfl
          | cons v y =>
              simp only [List.zipWith_cons_cons, ih x y, List.cons.injEq, and_true]
              show a.scale * u + w * a.offset + (a.scale * v + w' * a.offset) =
                a.scale * (u + v) + (w + w') * a.offset
              ring

theorem blend_sub (x y : Point Rat) :
    (T.blend w x).sub (T.blend w' y) = T.blend (w - w') (x.sub y) := by
  unfold blend Point.sub
  induction T.axes generalizing x y with
  | nil => rfl
  | cons a axes ih =>
      cases x with
      | nil => rfl
      | cons u x =>
          cases y with
          | nil => rfl
          | cons v y =>
              simp only [List.zipWith_cons_cons, ih x y, List.cons.injEq, and_true]
              show a.scale * u + w * a.offset - (a.scale * v + w' * a.offset) =
                a.scale * (u - v) + (w - w') * a.offset
              ring

theorem blend_scale (x : Point Rat) :
    (T.blend w x).scale f = T.blend (w * f) (x.scale f) := by
  unfold blend Point.scale
  induction T.axes generalizing x with
  | nil => rfl
  | cons a axes ih =>
      cases x with
      | nil => rfl
      | cons u x =>
          simp only [List.zipWith_cons_cons, List.map_cons, ih x, List.cons.injEq, and_true]
          show (a.scale * u + w * a.offset) * f = a.scale * (u * f) + w * f * a.offset
          ring

end

end Change
end BoxSearch

import BoxSearch.Proofs.Repair.Rounding

/-!
# Repairs that can change places

A chain applies one repair after the other, so in general their order matters, and going through
a chain twice is not going through it once.  Neither matters if each of the repairs does nothing
the second time and any two of them can change places.

* `Repair.Commuting` — such repairs, on certain points and up to a relation between points;
* `Commuting.applyAll_same` — chains of the same of them, in whatever order and number, agree;
* `Repair.commuting_whole` — rounding and clipping in a box with whole ends are such repairs on
  finite points, up to the sign of zero;
* `Repair.chain_of_commuting` — what follows for chains, with equality of points where the
  repairs are such up to equality, and up to the sign of zero for rounding and clipping.
-/

namespace BoxSearch

open Double (value IsWhole Direction)

namespace Repair

/-! ## Chains -/

section Chains

variable {α : Type} [Scalar α] {P : Point α → Prop} {R : Point α → Point α → Prop}
variable {members rules others : List (Repair α)} {r s : Repair α} {x y : Point α}

/-- Repairs that stay among certain points, and on these, up to a relation, do nothing the second
time and can change places. -/
structure Commuting (P : Point α → Prop) (R : Point α → Point α → Prop)
    (members : List (Repair α)) : Prop where
  /-- what is taken for the same -/
  same : Equivalence R
  /-- none of them leaves the points -/
  closed : ∀ r ∈ members, ∀ x, P x → P (r.apply x)
  /-- none of them tells points apart that are taken for the same -/
  congr : ∀ r ∈ members, ∀ x y, P x → P y → R x y → R (r.apply x) (r.apply y)
  /-- the second time they do nothing -/
  again : ∀ r ∈ members, ∀ x, P x → R (r.apply (r.apply x)) (r.apply x)
  /-- they can change places -/
  swap : ∀ r ∈ members, ∀ s ∈ members, ∀ x, P x →
    R (r.apply (s.apply x)) (s.apply (r.apply x))

namespace Commuting

theorem closed_applyAll (h : Commuting P R members) (sub : rules ⊆ members) (hx : P x) :
    P (applyAll rules x) := by
  induction rules generalizing x with
  | nil => exact hx
  | cons r rules ih =>
      obtain ⟨first, rest⟩ := List.cons_subset.1 sub
      exact ih rest (h.closed r first x hx)

theorem congr_applyAll (h : Commuting P R members) (sub : rules ⊆ members) (hx : P x) (hy : P y)
    (hxy : R x y) : R (applyAll rules x) (applyAll rules y) := by
  induction rules generalizing x y with
  | nil => exact hxy
  | cons r rules ih =>
      obtain ⟨first, rest⟩ := List.cons_subset.1 sub
      exact ih rest (h.closed r first x hx) (h.closed r first y hy) (h.congr r first x y hx hy hxy)

/-- Before a chain, too, two of them can change places. -/
theorem applyAll_swap (h : Commuting P R members) (sub : rules ⊆ members) (hr : r ∈ members)
    (hs : s ∈ members) (hx : P x) :
    R (applyAll rules (r.apply (s.apply x))) (applyAll rules (s.apply (r.apply x))) :=
  h.congr_applyAll sub (h.closed r hr _ (h.closed s hs x hx))
    (h.closed s hs _ (h.closed r hr x hx)) (h.swap r hr s hs x hx)

/-- One of them can change places with a chain. -/
theorem applyAll_apply (h : Commuting P R members) (sub : rules ⊆ members) (hr : r ∈ members)
    (hx : P x) : R (applyAll rules (r.apply x)) (r.apply (applyAll rules x)) := by
  induction rules generalizing x with
  | nil => exact h.same.refl _
  | cons s rules ih =>
      obtain ⟨first, rest⟩ := List.cons_subset.1 sub
      exact h.same.trans (h.applyAll_swap rest first hr hx) (ih rest (h.closed s first x hx))

/-- A member of a chain adds nothing before it. -/
theorem applyAll_absorb (h : Commuting P R members) (sub : rules ⊆ members) (hr : r ∈ rules)
    (hx : P x) : R (applyAll rules (r.apply x)) (applyAll rules x) := by
  induction rules generalizing x with
  | nil => cases hr
  | cons s rules ih =>
      obtain ⟨first, rest⟩ := List.cons_subset.1 sub
      have hs := h.closed s first x hx
      rcases List.mem_cons.1 hr with rfl | later
      · show R (applyAll rules (r.apply (r.apply x))) (applyAll rules (r.apply x))
        exact h.congr_applyAll rest (h.closed r first _ hs) hs (h.again r first x hx)
      · exact h.same.trans (h.applyAll_swap rest first (rest later) hx) (ih rest later hs)

/-- Nor does a chain of members. -/
theorem applyAll_absorbAll (h : Commuting P R members) (sub : rules ⊆ members)
    (part : others ⊆ rules) (hx : P x) :
    R (applyAll rules (applyAll others x)) (applyAll rules x) := by
  induction others generalizing x with
  | nil => exact h.same.refl _
  | cons r others ih =>
      obtain ⟨first, rest⟩ := List.cons_subset.1 part
      exact h.same.trans (ih rest (h.closed r (sub first) x hx)) (h.applyAll_absorb sub first hx)

/-- Two chains can change places. -/
theorem applyAll_swapAll (h : Commuting P R members) (sub : rules ⊆ members)
    (sub' : others ⊆ members) (hx : P x) :
    R (applyAll rules (applyAll others x)) (applyAll others (applyAll rules x)) := by
  induction others generalizing x with
  | nil => exact h.same.refl _
  | cons r others ih =>
      obtain ⟨first, rest⟩ := List.cons_subset.1 sub'
      have hr := h.closed r first x hx
      have moved :
          R (applyAll others (applyAll rules (r.apply x)))
            (applyAll others (r.apply (applyAll rules x))) :=
        h.congr_applyAll rest (h.closed_applyAll sub hr)
          (h.closed r first _ (h.closed_applyAll sub hx)) (h.applyAll_apply sub first hx)
      exact h.same.trans (ih rest hr) moved

/-- **Chains of the same repairs agree**, in whatever order the repairs stand there, and however
often. -/
theorem applyAll_same (h : Commuting P R members) (sub : rules ⊆ members)
    (same : ∀ r, r ∈ others ↔ r ∈ rules) (hx : P x) :
    R (applyAll others x) (applyAll rules x) := by
  have part : others ⊆ rules := fun r hr => (same r).1 hr
  have whole : rules ⊆ others := fun r hr => (same r).2 hr
  have sub' : others ⊆ members := fun r hr => sub (part hr)
  -- one chain after the other comes to the second of them, and the two can change places
  have left := h.applyAll_absorbAll sub' whole hx
  have right := h.applyAll_absorbAll sub part hx
  exact h.same.trans (h.same.symm left) (h.same.trans (h.applyAll_swapAll sub' sub hx) right)

end Commuting

/-- The second time the repair does nothing. -/
def Idempotent (r : Repair α) : Prop := ∀ x, r.apply (r.apply x) = r.apply x

/-- The two repairs can change places. -/
def Commutes (r s : Repair α) : Prop := ∀ x, r.apply (s.apply x) = s.apply (r.apply x)

/-- Such repairs, on all points and up to equality. -/
theorem commuting_of_idempotent (again : ∀ r ∈ rules, r.Idempotent)
    (swap : ∀ r ∈ rules, ∀ s ∈ rules, r.Commutes s) : Commuting (fun _ => True) Eq rules where
  same := eq_equivalence
  closed _ _ _ _ := trivial
  congr _ _ _ _ _ _ same := congrArg _ same
  again r hr x _ := again r hr x
  swap r hr s hs x _ := swap r hr s hs x

end Chains

end Repair

/-! ## Values -/

/-- The fraction between two ends that is nearest to a fraction. -/
def confine (l u q : ℚ) : ℚ := max l (min u q)

/-- Rounding and confining can change places, if the ends are whole. -/
theorem wholeOf_confine (d : Direction) (l u : ℤ) (q : ℚ) :
    (Double.wholeOf d (confine l u q) : ℚ) = confine l u (Double.wholeOf d q) := by
  have mono : Monotone (Double.wholeOf d) := fun _ _ => Double.wholeOf_mono d
  rw [confine, confine, mono.map_max, mono.map_min, Double.wholeOf_intCast, Double.wholeOf_intCast]
  push_cast
  rfl

namespace Interval

variable {s : Interval Float} {v : Float}

/-- Both ends are whole numbers. -/
structure Whole (s : Interval Float) : Prop where
  /-- the lower end -/
  lower : IsWhole s.lower
  /-- the upper end -/
  upper : IsWhole s.upper

theorem Whole.finite (h : s.Whole) : s.Finite := ⟨h.lower.1, h.upper.1⟩

theorem value_lower_le (h : s.Finite) : value s.lower ≤ value s.upper :=
  (Double.le_iff_value h.lower h.upper).1 s.lower_le_upper

theorem isFinite_clamp (h : s.Finite) (hv : Double.isFinite v = true) :
    Double.isFinite (s.clamp v) = true := by
  unfold clamp
  split
  · split
    · exact h.lower
    · split
      · exact h.upper
      · exact hv
  · exact h.lower

/-- What a number becomes that is replaced where it is outside. -/
theorem value_inside (h : s.Finite) (hv : Double.isFinite v = true) {a b : Float}
    (low : value a = value s.lower) (high : value b = value s.upper) :
    value (if v < s.lower then a else if s.upper < v then b else v) =
      confine (value s.lower) (value s.upper) (value v) := by
  unfold confine
  by_cases below : v < s.lower
  · rw [if_pos below, low]
    rw [Double.lt_iff_value hv h.lower] at below
    exact (max_eq_left ((min_le_right _ _).trans below.le)).symm
  rw [if_neg below]
  rw [Double.lt_iff_value hv h.lower, not_lt] at below
  by_cases above : s.upper < v
  · rw [if_pos above, high]
    rw [Double.lt_iff_value h.upper hv] at above
    rw [min_eq_left above.le, max_eq_right (value_lower_le h)]
  · rw [if_neg above]
    rw [Double.lt_iff_value h.upper hv, not_lt] at above
    rw [min_eq_right above, max_eq_right below]

/-- What clamping does to a value. -/
theorem value_clamp (h : s.Finite) (hv : Double.isFinite v = true) :
    value (s.clamp v) = confine (value s.lower) (value s.upper) (value v) := by
  unfold clamp
  cases free : s.isFree with
  | false =>
      have ends : ¬ s.lower < s.upper := decide_eq_false_iff_not.1 free
      rw [Double.lt_iff_value h.lower h.upper, not_lt] at ends
      rw [if_neg Bool.false_ne_true]
      exact (max_eq_left ((min_le_left _ _).trans ends)).symm
  | true => exact value_inside h hv rfl rfl

end Interval

namespace Repair

variable {s : Interval Float} {v : Float}

/-- What rounding does to a value, if the ends are whole. -/
theorem value_wholeIn (h : s.Whole) (hv : Double.isFinite v = true) :
    value (wholeIn s v) =
      confine (value s.lower) (value s.upper) (Double.wholeOf .halfAway (value v)) := by
  have finite := h.finite
  obtain ⟨-, l, low⟩ := h.lower
  obtain ⟨-, u, high⟩ := h.upper
  have some : ¬ s.upper < Double.ceil s.lower := by
    rw [Interval.upper_lt_ceil_iff finite, not_not]
    exact ⟨l, low.le, low ▸ Interval.value_lower_le finite⟩
  have branches : wholeIn s v =
      if Double.round v < s.lower then Double.ceil s.lower
      else if s.upper < Double.round v then Double.floor s.upper else Double.round v := by
    rw [wholeIn_eq]
    by_cases below : Double.round v < s.lower
    · rw [if_pos below, if_neg some, if_pos below]
    · rw [if_neg below, if_neg below]
  have ceil : value (Double.ceil s.lower) = value s.lower := by
    rw [Double.value_ceil finite.lower, low, Int.ceil_intCast]
  have floor : value (Double.floor s.upper) = value s.upper := by
    rw [Double.value_floor finite.upper, high, Int.floor_intCast]
  have integer : value (Double.round v) = Double.wholeOf .halfAway (value v) :=
    Double.value_toWhole .halfAway hv
  rw [branches, Interval.value_inside finite (Double.isFinite_round hv) ceil floor, integer]

end Repair

/-! ## Points -/

/-- The values are the same, coordinate by coordinate: at most zeros differ, in their sign. -/
def SameValues (x y : Point Float) : Prop := x.map value = y.map value

theorem sameValues_equivalence : Equivalence SameValues where
  refl _ := rfl
  symm := Eq.symm
  trans := Eq.trans

/-- Finite points of the same values agree as lists of numbers. -/
theorem SameValues.beq {x y : Point Float} (same : SameValues x y) (hx : FinitePoint x)
    (hy : FinitePoint y) : (x == y) = true := by
  unfold SameValues at same
  induction x generalizing y with
  | nil =>
      cases y with
      | nil => rfl
      | cons w y => cases same
  | cons v x ih =>
      cases y with
      | nil => cases same
      | cons w y =>
          obtain ⟨first, rest⟩ := List.cons.inj same
          obtain ⟨finite, finites⟩ := List.forall_mem_cons.1 hx
          obtain ⟨finite', finites'⟩ := List.forall_mem_cons.1 hy
          rw [List.cons_beq_cons, (Double.beq_iff_value finite finite').2 first,
            ih rest finites finites']
          rfl

/-- A function of doubles is known by what it does to values, as far as they are finite. -/
structure ReadsAs (f : Float → Float) (F : ℚ → ℚ) : Prop where
  /-- finite numbers stay finite -/
  finite : ∀ v, Double.isFinite v = true → Double.isFinite (f v) = true
  /-- what becomes of the value -/
  value : ∀ v, Double.isFinite v = true → value (f v) = F (value v)

/-- So is a function of points that goes along sides. -/
theorem reads_along {β : Type} {f : β → Float → Float} {F : β → ℚ → ℚ} {sides : List β}
    (h : ∀ p ∈ sides, ReadsAs (f p) (F p)) {x : Point Float} (hx : FinitePoint x) :
    FinitePoint (along f sides x) ∧
      (along f sides x).map value = along F sides (x.map value) := by
  induction sides generalizing x with
  | nil => cases x <;> exact ⟨hx, rfl⟩
  | cons p sides ih =>
      obtain ⟨first, others⟩ := List.forall_mem_cons.1 h
      cases x with
      | nil => exact ⟨hx, rfl⟩
      | cons v x =>
          obtain ⟨finite, finites⟩ := List.forall_mem_cons.1 hx
          obtain ⟨rest, values⟩ := ih others finites
          exact ⟨List.forall_mem_cons.2 ⟨first.finite v finite, rest⟩,
            congrArg₂ List.cons (first.value v finite) values⟩

namespace Repair

variable {b : Box Float} {mask : List Bool} {r : Repair Float} {x : Point Float}

/-- What clamping does to the value of a coordinate. -/
def clampValue (p : Bool × Interval Float) (q : ℚ) : ℚ :=
  confine (value p.2.lower) (value p.2.upper) q

/-- What rounding does to the value of a coordinate, where the ends are whole. -/
def wholeValue (p : Bool × Interval Float) (q : ℚ) : ℚ :=
  if p.1 then confine (value p.2.lower) (value p.2.upper) (Double.wholeOf .halfAway q) else q

/-- **Rounding and clamping can change places.** -/
theorem wholeValue_clampValue {p : Bool × Interval Float} (h : p.2.Whole) (q : ℚ) :
    wholeValue p (clampValue p q) = clampValue p (wholeValue p q) := by
  obtain ⟨marked, s⟩ := p
  obtain ⟨-, l, low⟩ := h.lower
  obtain ⟨-, u, high⟩ := h.upper
  cases marked with
  | true => simp only [wholeValue, clampValue, if_true, low, high, wholeOf_confine]
  | false => simp only [wholeValue, Bool.false_eq_true, if_false]

theorem readsAs_wholeAt {p : Bool × Interval Float} (h : p.2.Whole) :
    ReadsAs (wholeAt p) (wholeValue p) := by
  obtain ⟨marked, s⟩ := p
  cases marked with
  | true =>
      refine ⟨fun v hv => ?_, fun v hv => ?_⟩
      · rw [wholeAt_true]
        exact (isWhole_wholeIn h.finite (Double.isNaN_of_isFinite hv)).1
      · rw [wholeAt_true, value_wholeIn h hv, wholeValue, if_pos rfl]
  | false =>
      refine ⟨fun v hv => ?_, fun v _ => ?_⟩
      · rwa [wholeAt_false]
      · rw [wholeAt_false, wholeValue, if_neg Bool.false_ne_true]

theorem readsAs_clamp {p : Bool × Interval Float} (h : p.2.Finite) :
    ReadsAs p.2.clamp (clampValue p) :=
  ⟨fun _ => Interval.isFinite_clamp h, fun _ => Interval.value_clamp h⟩

/-- What rounding does to the values of a point. -/
theorem reads_whole (ends : ∀ p ∈ mask.zip b.sides, p.2.Whole) (hx : FinitePoint x) :
    FinitePoint ((whole (mask.zip b.sides)).apply x) ∧
      ((whole (mask.zip b.sides)).apply x).map value =
        along wholeValue (mask.zip b.sides) (x.map value) := by
  rw [apply, wholeMarked_eq_along]
  exact reads_along (fun p hp => readsAs_wholeAt (ends p hp)) hx

/-- What clipping does to them. -/
theorem reads_clip (ends : ∀ p ∈ mask.zip b.sides, p.2.Whole) (length : mask.length = b.dim)
    (hx : FinitePoint x) :
    FinitePoint ((clip b).apply x) ∧
      ((clip b).apply x).map value = along clampValue (mask.zip b.sides) (x.map value) := by
  rw [apply, Box.clip_eq_along length]
  exact reads_along (fun p hp => readsAs_clamp (ends p hp).finite) hx

/-- **Rounding and clipping are repairs that can change places**, where the ends are whole, for
finite points and up to the sign of zero. -/
theorem commuting_whole (ends : ∀ s ∈ b.sides, s.Whole) (length : mask.length = b.dim) :
    Commuting FinitePoint SameValues [.whole (mask.zip b.sides), .clip b] := by
  have marked (p : Bool × Interval Float) (hp : p ∈ mask.zip b.sides) : p.2.Whole :=
    ends p.2 (List.of_mem_zip hp).2
  have change (x : Point Float) (hx : FinitePoint x) :
      SameValues ((whole (mask.zip b.sides)).apply ((clip b).apply x))
        ((clip b).apply ((whole (mask.zip b.sides)).apply x)) := by
    obtain ⟨clipped, clippedValues⟩ := reads_clip marked length hx
    obtain ⟨rounded, roundedValues⟩ := reads_whole marked hx
    rw [SameValues, (reads_whole marked clipped).2, clippedValues,
      (reads_clip marked length rounded).2, roundedValues, along_along, along_along]
    exact along_ext (fun p hp => wholeValue_clampValue (marked p hp)) _
  constructor
  case same => exact sameValues_equivalence
  case closed =>
    intro r hr x hx
    rcases List.mem_pair.1 hr with rfl | rfl
    · exact (reads_whole marked hx).1
    · exact (reads_clip marked length hx).1
  case congr =>
    intro r hr x y hx hy same
    rcases List.mem_pair.1 hr with rfl | rfl
    · rw [SameValues, (reads_whole marked hx).2, (reads_whole marked hy).2, same]
    · rw [SameValues, (reads_clip marked length hx).2, (reads_clip marked length hy).2, same]
  case again =>
    intro r hr x _
    rcases List.mem_pair.1 hr with rfl | rfl
    · exact congrArg (List.map value)
        (wholeMarked_wholeMarked (fun p hp => (marked p hp).finite) x)
    · exact congrArg (List.map value) (Box.clip_clip length x)
  case swap =>
    intro r hr s hs x hx
    rcases List.mem_pair.1 hr with rfl | rfl <;> rcases List.mem_pair.1 hs with rfl | rfl
    · rfl
    · exact change x hx
    · exact (change x hx).symm
    · rfl

/-- **Chains of repairs that can change places.**  Let each repair of a list do nothing the second
time, and any two of them be able to change places.  Then going through the list twice is going
through it once, and any list of the same repairs, in another order or with repetitions, leads to
the same points.

Let a box have finite ends that are whole numbers, and a mask one mark for each side.  Then there
is a repair for the mask, and on finite points it can change places with the clip, up to the sign of
zero.  So up to the sign of zero all chains of the two, in either order and with repetitions, lead
to the same points, and going through one of them twice is going through it once. -/
theorem chain_of_commuting :
    (∀ (α : Type) [Scalar α] (rules : List (Repair α)),
      (∀ r ∈ rules, r.Idempotent) → (∀ r ∈ rules, ∀ s ∈ rules, r.Commutes s) →
        (Repair.chain rules).Idempotent ∧
        ∀ others, (∀ r, r ∈ others ↔ r ∈ rules) →
          ∀ x, (Repair.chain others).apply x = (Repair.chain rules).apply x) ∧
    ∀ (b : Box Float) (mask : List Bool), (∀ s ∈ b.sides, s.Whole) → mask.length = b.dim →
      ∃ r, integrality mask b = .ok r ∧
        (∀ x, FinitePoint x →
          (r.apply ((clip b).apply x) == (clip b).apply (r.apply x)) = true) ∧
        ∀ rules, (∀ q ∈ rules, q = r ∨ q = .clip b) → ∀ x, FinitePoint x →
          ((Repair.chain rules).apply ((Repair.chain rules).apply x) ==
            (Repair.chain rules).apply x) = true ∧
          ∀ others, (∀ q, q ∈ others ↔ q ∈ rules) →
            ((Repair.chain others).apply x == (Repair.chain rules).apply x) = true := by
  constructor
  · intro α _ rules again swap
    have commuting := commuting_of_idempotent again swap
    refine ⟨fun x => ?_, fun others same x => ?_⟩
    · exact commuting.applyAll_absorbAll (List.Subset.refl _) (List.Subset.refl _) trivial
    · exact commuting.applyAll_same (List.Subset.refl _) same trivial
  · intro b mask ends length
    have commuting := commuting_whole ends length
    refine ⟨_, integrality_eq length, fun x hx => ?_, fun rules two x hx => ?_⟩
    · have first := List.mem_cons_self (a := Repair.whole (mask.zip b.sides)) (l := [.clip b])
      have second := List.mem_cons_of_mem (.whole (mask.zip b.sides))
        (List.mem_cons_self (a := Repair.clip b) (l := []))
      exact (commuting.swap _ first _ second x hx).beq
        (commuting.closed _ first _ (commuting.closed _ second x hx))
        (commuting.closed _ second _ (commuting.closed _ first x hx))
    · have sub : rules ⊆ [.whole (mask.zip b.sides), .clip b] := fun q hq =>
        List.mem_pair.2 (two q hq)
      have once := commuting.closed_applyAll sub hx
      refine ⟨?_, fun others same => ?_⟩
      · exact (commuting.applyAll_absorbAll sub (List.Subset.refl _) hx).beq
          (commuting.closed_applyAll sub once) once
      · have sub' : others ⊆ [.whole (mask.zip b.sides), .clip b] := fun q hq =>
          sub ((same q).1 hq)
        exact (commuting.applyAll_same sub same hx).beq (commuting.closed_applyAll sub' hx) once

/-! ### Zeros of both signs -/

/-- Drops all but two coordinates. -/
def cut : Repair Float := .custom (List.take 2)

/-- Replaces all coordinates by zero. -/
def blank : Repair Float := .custom (List.map fun _ => 0)

/-- Six numbers to choose from, and one that is fixed. -/
def tallyBox : Box Float := ⟨[⟨0, 5, by decide +kernel⟩, ⟨4, 4, by decide +kernel⟩]⟩

theorem tallyBox_whole : ∀ s ∈ tallyBox.sides, s.Whole := by
  intro s hs
  rcases List.mem_pair.1 hs with rfl | rfl
  · exact ⟨⟨by decide +kernel, 0, by decide +kernel⟩, ⟨by decide +kernel, 5, by decide +kernel⟩⟩
  · exact ⟨⟨by decide +kernel, 4, by decide +kernel⟩, ⟨by decide +kernel, 4, by decide +kernel⟩⟩

/-- Cutting and blanking in any order and number, and a small negative number that is rounded to
the negative zero, unless it is clipped before. -/
theorem chain_of_commuting_tallyBox :
    (∀ x, (Repair.chain [blank, cut, blank]).apply x = (Repair.chain [cut, blank]).apply x) ∧
      ∃ r, integrality [true, true] tallyBox = .ok r ∧
        ((Repair.chain [r, .clip tallyBox]).apply [-0.25, 7] ==
          (Repair.chain [.clip tallyBox, r, r]).apply [-0.25, 7]) = true ∧
        (r.apply ((clip tallyBox).apply [-0.25, 7])).map Float.toBits ≠
          ((clip tallyBox).apply (r.apply [-0.25, 7])).map Float.toBits := by
  obtain ⟨abstract, concrete⟩ := chain_of_commuting
  have again : ∀ r ∈ [cut, blank], r.Idempotent := by
    intro r hr x
    rcases List.mem_pair.1 hr with rfl | rfl
    · exact (List.take_take ..).trans (congrArg (List.take · x) (min_self 2))
    · exact List.map_map ..
  have swap : ∀ r ∈ [cut, blank], ∀ s ∈ [cut, blank], r.Commutes s := by
    intro r hr s hs x
    rcases List.mem_pair.1 hr with rfl | rfl <;> rcases List.mem_pair.1 hs with rfl | rfl
    · rfl
    · exact List.map_take.symm
    · exact List.map_take
    · rfl
  obtain ⟨r, made, -, chains⟩ := concrete tallyBox [true, true] tallyBox_whole rfl
  have finite : FinitePoint [-0.25, 7] := by
    unfold FinitePoint
    decide +kernel
  refine ⟨(abstract Float [cut, blank] again swap).2 _ (by simp [or_comm]), r, made, ?_, ?_⟩
  · exact (chains [.clip tallyBox, r, r] (by simp) _ finite).2 _ (by simp [or_comm])
  · cases made
    decide +kernel

end Repair
end BoxSearch

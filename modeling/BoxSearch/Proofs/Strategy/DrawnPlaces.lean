import BoxSearch.Proofs.Sampling.Strata
import BoxSearch.Proofs.Strategy.Composition
import Mathlib.Data.Finset.Card

/-!
# Coordinates taken one by one

The binomial kind decides about each coordinate by a uniform fraction of its own, except for one,
which is drawn first and taken always.  No fraction is drawn for that one, so from there on the
fractions stand one place behind the coordinates they decide about; here every fraction is given back
to its place.

* `placesOver` — the places that get a fraction, from some place on, and `takesDrawn` — the places
  taken, given the fractions;
* `binomialFrom_takes` — what is taken from some place on, and what is drawn for it;
* `drawnSet` — all places taken, and what becomes of it at the rates zero and one;
* `binomialTrial_takes_drawn` — what a binomial trial takes, and what is drawn for it.
-/

namespace BoxSearch

variable {α γ : Type} [WordSource γ]

namespace Crossover

open WordSource (uniform uniforms below)

/-! ## Places with fractions of their own -/

/-- The places from `i` on that get a fraction of their own: all but the one that is always taken. -/
def placesOver (always i count : Nat) : List Nat := (List.range' i count).filter (· ≠ always)

theorem placesOver_here (i count : Nat) :
    placesOver i i (count + 1) = placesOver i (i + 1) count := by
  rw [placesOver, List.range'_succ, List.filter_cons, if_neg (by simp), placesOver]

theorem placesOver_other {always i : Nat} (other : i ≠ always) (count : Nat) :
    placesOver always i (count + 1) = i :: placesOver always (i + 1) count := by
  rw [placesOver, List.range'_succ, List.filter_cons, if_pos (by simpa using other), placesOver]

theorem le_of_mem_placesOver {always i count j : Nat} (h : j ∈ placesOver always i count) :
    i ≤ j :=
  (List.mem_range'_1.1 (List.mem_filter.1 h).1).1

/-- Whether a place is taken: always, or because its fraction is below the rate. -/
def takesDrawn (rate : Float) (always : Nat) (draws : List (Nat × Float)) (j : Nat) : Bool :=
  j == always || draws.any fun d => d.1 == j && decide (d.2 < rate)

section

variable {rate : Float} {always j : Nat} {draws : List (Nat × Float)}

theorem takesDrawn_iff : takesDrawn rate always draws j = true ↔
    j = always ∨ ∃ u, (j, u) ∈ draws ∧ u < rate := by
  simp only [takesDrawn, Bool.or_eq_true, beq_iff_eq, List.any_eq_true, Bool.and_eq_true,
    decide_eq_true_iff]
  refine or_congr_right ⟨?_, ?_⟩
  · rintro ⟨⟨_, u⟩, member, rfl, under⟩
    exact ⟨u, member, under⟩
  · rintro ⟨u, member, under⟩
    exact ⟨(j, u), member, rfl, under⟩

theorem takesDrawn_always : takesDrawn rate always draws always = true :=
  takesDrawn_iff.2 (Or.inl rfl)

/-- The first fraction decides about its place. -/
theorem takesDrawn_first (other : j ≠ always) (u : Float) (later : ∀ d ∈ draws, j < d.1) :
    takesDrawn rate always ((j, u) :: draws) j = decide (u < rate) := by
  have none : (draws.any fun d => d.1 == j && decide (d.2 < rate)) = false :=
    List.any_eq_false.2 fun d hd => by simp [(later d hd).ne']
  rw [takesDrawn, List.any_cons, none, beq_eq_false_iff_ne.2 other]
  simp

/-- The first fraction decides about no other place. -/
theorem takesDrawn_later {i : Nat} (apart : i ≠ j) (u : Float) :
    takesDrawn rate always ((i, u) :: draws) j = takesDrawn rate always draws j := by
  rw [takesDrawn, List.any_cons, beq_eq_false_iff_ne.2 apart, takesDrawn]
  simp

end

/-- **From any place on, the places taken are those whose own fraction is below the rate**, and the
one that is always taken; a fraction was drawn for each of the others, in order.  The induction is on
the coordinates, and every step but one uses up one fraction. -/
theorem binomialFrom_takes (always : Nat) (rate : Float) (i : Nat) {target mutant : Point α}
    (h : mutant.length = target.length) (g : γ) :
    Mixes target mutant
        (fun j => takesDrawn rate always ((placesOver always i target.length).zip
          (uniforms (placesOver always i target.length).length g).1) (i + j))
        (binomialFrom always rate i target mutant g).1 ∧
      (binomialFrom always rate i target mutant g).2 =
        (uniforms (α := Float) (placesOver always i target.length).length g).2 := by
  induction target generalizing i mutant g with
  | nil =>
      cases List.eq_nil_of_length_eq_zero h
      exact ⟨⟨rfl, fun j => by simp [binomialFrom]⟩, rfl⟩
  | cons t target ih =>
      cases mutant with
      | nil => cases h
      | cons m mutant =>
          rw [List.length_cons, binomialFrom]
          by_cases here : i = always
          · subst here
            obtain ⟨mixes, source⟩ := ih (i + 1) (Nat.succ.inj h) g
            rw [placesOver_here, if_pos rfl]
            refine ⟨(mixes.cons true t m).congr h fun j _ => ?_, source⟩
            cases j with
            | zero => exact takesDrawn_always.symm
            | succ j => rw [takesFirst, Nat.add_assoc, Nat.add_comm 1]
          · obtain ⟨mixes, source⟩ := ih (i + 1) (Nat.succ.inj h) (uniform (α := Float) g).2
            rw [placesOver_other here, if_neg here, List.length_cons, WordSource.uniforms_succ,
              List.zip_cons_cons]
            have taken := mixes.cons (decide ((uniform (α := Float) g).1 < rate)) t m
            simp only [decide_eq_true_eq] at taken
            refine ⟨taken.congr h fun j _ => ?_, source⟩
            cases j with
            | zero =>
                refine (takesDrawn_first here _ fun d hd => ?_).symm
                exact le_of_mem_placesOver (List.of_mem_zip hd).1
            | succ j =>
                rw [takesFirst, takesDrawn_later (by omega), Nat.add_assoc, Nat.add_comm 1]

/-! ## The binomial kind -/

/-- All places but one in increasing order, each with the fraction that is drawn for it. -/
def assigned (n always : Nat) (us : List Float) : List (Nat × Float) :=
  ((List.range n).filter (· ≠ always)).zip us

/-- The places taken with these fractions. -/
def drawnSet (rate : Float) (n always : Nat) (us : List Float) : Finset Nat :=
  (Finset.range n).filter fun j => takesDrawn rate always (assigned n always us) j = true

section

variable {rate : Float} {n always j : Nat} {us : List Float}

theorem of_mem_assigned {u : Float} (h : (j, u) ∈ assigned n always us) : j < n ∧ u ∈ us := by
  obtain ⟨place, fraction⟩ := List.of_mem_zip h
  exact ⟨List.mem_range.1 (List.mem_filter.1 place).1, fraction⟩

theorem length_assigned (inside : always < n) (enough : us.length = n - 1) :
    (assigned n always us).length = n - 1 := by
  rw [assigned, List.length_zip, Shuffle.length_pool inside, enough, Nat.min_self]

/-- Every place but the one has its fraction. -/
theorem exists_assigned (inside : always < n) (enough : us.length = n - 1) (hj : j < n)
    (other : j ≠ always) : ∃ u, (j, u) ∈ assigned n always us := by
  have place : j ∈ (List.range n).filter (· ≠ always) :=
    List.mem_filter.2 ⟨List.mem_range.2 hj, by simpa using other⟩
  have fits : ((List.range n).filter (· ≠ always)).length ≤ us.length :=
    ((Shuffle.length_pool inside).trans enough.symm).le
  rw [← List.map_fst_zip fits] at place
  obtain ⟨⟨_, u⟩, member, rfl⟩ := List.mem_map.1 place
  exact ⟨u, member⟩

theorem mem_drawnSet (inside : always < n) : j ∈ drawnSet rate n always us ↔
    j = always ∨ ∃ u, (j, u) ∈ assigned n always us ∧ u < rate := by
  rw [drawnSet, Finset.mem_filter, takesDrawn_iff, Finset.mem_range]
  refine ⟨And.right, fun reason => ⟨?_, reason⟩⟩
  rcases reason with rfl | ⟨u, hu, -⟩
  · exact inside
  · exact (of_mem_assigned hu).1

/-- At the rate zero no other place is taken. -/
theorem drawnSet_of_le_zero (inside : always < n) (units : ∀ u ∈ us, Double.UnitFraction u)
    (zero : rate ≤ 0) : drawnSet rate n always us = {always} := by
  ext j
  rw [mem_drawnSet inside, Finset.mem_singleton]
  refine or_iff_left ?_
  rintro ⟨u, hu, under⟩
  exact Double.not_le_of_lt (Double.lt_of_lt_of_le under zero)
    (units u (of_mem_assigned hu).2).zero_le

/-- At the rate one every place is taken. -/
theorem drawnSet_of_one_le (inside : always < n) (enough : us.length = n - 1)
    (units : ∀ u ∈ us, Double.UnitFraction u) (one : 1 ≤ rate) :
    drawnSet rate n always us = Finset.range n := by
  refine Finset.Subset.antisymm (Finset.filter_subset ..) fun j hj => ?_
  refine (mem_drawnSet inside).2 (or_iff_not_imp_left.2 fun other => ?_)
  obtain ⟨u, hu⟩ := exists_assigned inside enough (Finset.mem_range.1 hj) other
  exact ⟨u, hu, Double.lt_of_lt_of_le (units u (of_mem_assigned hu).2).below_one one⟩

end

theorem binomialTrial_eq (rate : Float) (target mutant : Point α) (g : γ) :
    binomialTrial rate target mutant g =
      binomialFrom (below target.length g).1 rate 0 target mutant (below target.length g).2 := rfl

/-- Decided from the first place on, the places taken are those of the set. -/
theorem mixes_drawnSet {always : Nat} (rate : Float) {target mutant : Point α}
    (inside : always < target.length) (h : mutant.length = target.length) (g : γ) :
    Mixes target mutant
        (fun j => decide (j ∈ drawnSet rate target.length always
          (uniforms (target.length - 1) g).1))
        (binomialFrom always rate 0 target mutant g).1 ∧
      (binomialFrom always rate 0 target mutant g).2 =
        (uniforms (α := Float) (target.length - 1) g).2 := by
  have others : placesOver always 0 target.length =
      (List.range target.length).filter (· ≠ always) := by rw [placesOver, List.range_eq_range']
  obtain ⟨mixes, source⟩ := binomialFrom_takes always rate 0 h g
  rw [others, Shuffle.length_pool inside] at mixes source
  refine ⟨mixes.congr h fun j _ => ?_, source⟩
  rw [Nat.zero_add, Bool.eq_iff_iff, decide_eq_true_iff, mem_drawnSet inside, takesDrawn_iff,
    assigned]

/-- **A binomial trial takes what is drawn.**  One place is drawn first and taken always; the others
get one fraction each, in increasing order, and nothing else is drawn.  Exactly the places whose
fraction is below the rate are taken besides the first one: no other at the rate zero, and all of them
at the rate one. -/
theorem binomialTrial_takes_drawn (rate : Float) {target mutant : Point α}
    (wide : 0 < target.length) (h : mutant.length = target.length) (g : γ) :
    let n := target.length
    let always := (below n g).1
    let stream := (below n g).2
    let draws := assigned n always (uniforms (n - 1) stream).1
    let result := binomialTrial rate target mutant g
    ∃ taken ⊆ Finset.range n, always < n ∧ draws.length = n - 1 ∧
      (∀ j, j ∈ taken ↔ j = always ∨ ∃ u, (j, u) ∈ draws ∧ u < rate) ∧
      Mixes target mutant (fun j => decide (j ∈ taken)) result.1 ∧
      result.2 = (uniforms (α := Float) (n - 1) stream).2 ∧
      1 ≤ taken.card ∧ (rate ≤ 0 → taken.card = 1) ∧
      (1 ≤ rate → taken.card = n ∧ result.1 = mutant) := by
  have inside := WordSource.below_lt wide g
  dsimp only
  rw [binomialTrial_eq]
  generalize below target.length g = first at inside ⊢
  obtain ⟨always, stream⟩ := first
  dsimp only at inside ⊢
  obtain ⟨mixes, source⟩ := mixes_drawnSet rate inside h stream
  have enough := WordSource.length_uniforms (α := Float) (target.length - 1) stream
  have units : ∀ u ∈ (uniforms (target.length - 1) stream).1, Double.UnitFraction u :=
    fun u hu => WordSource.unitFraction_of_mem_uniforms hu
  refine ⟨_, Finset.filter_subset .., inside, length_assigned inside enough,
    fun j => mem_drawnSet inside, mixes, source, ?_, fun zero => ?_, fun one => ?_⟩
  · exact Finset.card_pos.2 ⟨always, (mem_drawnSet inside).2 (Or.inl rfl)⟩
  · exact Finset.card_eq_one.2 ⟨always, drawnSet_of_le_zero inside units zero⟩
  · have full := drawnSet_of_one_le inside enough units one
    refine ⟨(congrArg Finset.card full).trans (Finset.card_range _), mixes.eq_mutant h fun j hj => ?_⟩
    rw [full]
    exact decide_eq_true (Finset.mem_range.2 hj)

/-- Of four coordinates the rate zero takes one, and the rate one takes all. -/
theorem binomialTrial_takes_drawn_zeros :
    (∃ taken : Finset Nat, taken.card = 1 ∧
      Mixes [0, 0, 0, 0] [1, 1, 1, 1] (fun j => decide (j ∈ taken))
        (binomialTrial 0 ([0, 0, 0, 0] : Point Nat) [1, 1, 1, 1] (Generator.ofSeed 11)).1) ∧
    (binomialTrial 1 ([0, 0, 0, 0] : Point Nat) [1, 1, 1, 1] (Generator.ofSeed 11)).1 =
      [1, 1, 1, 1] := by
  have wide : 0 < ([0, 0, 0, 0] : Point Nat).length := by decide
  have h : ([1, 1, 1, 1] : Point Nat).length = [0, 0, 0, 0].length := rfl
  obtain ⟨taken, -, -, -, -, mixes, -, -, single, -⟩ :=
    binomialTrial_takes_drawn 0 wide h (Generator.ofSeed 11)
  obtain ⟨_, -, -, -, -, -, -, -, -, full⟩ :=
    binomialTrial_takes_drawn 1 wide h (Generator.ofSeed 11)
  exact ⟨⟨taken, single (by decide +kernel), mixes⟩, (full (by decide +kernel)).2⟩

end Crossover
end BoxSearch

import BoxSearch.Proofs.Sampling.Strata
import BoxSearch.Proofs.Strategy.Composition
import Mathlib.Data.Finset.Card

/-!
# One cyclic run of coordinates

That a trial takes some coordinates from its mutant and the others from its target says little: the
search depends on which ones are taken, and on how much is drawn for it, since the next trial is read
where this one stopped.  The exponential kind copies one coordinate after the other, around the end,
until a uniform fraction reaches the rate; here this loop is taken apart.

* `cyclicRun` — the places of a run, `card_cyclicRun` — as many as the run is long, as long as it is
  not longer than once around;
* `runLength_eq_min` — the length of a run, counted off the fractions that the source hands out,
  and `runLength_source` — how many of them are used up;
* `Copying.turn` — one round of the loop, with every access checked, `Copying.Ends` — the loop
  ends after a number of rounds, and `Copying.ends_after` — it does, with the run of the trial;
* `exponentialTrial_takes_run` — what an exponential trial takes, and what is drawn for it.
-/

namespace BoxSearch

variable {α γ : Type} [WordSource γ]

namespace Crossover

open WordSource (uniform uniforms below)

/-! ## The places of a run -/

/-- The places of the run of the given length from `start` on, around the end of `n` places. -/
def cyclicRun (n start length : Nat) : Finset Nat :=
  (Finset.range length).image fun k => (start + k) % n

section

variable {n start length j : Nat}

theorem mem_cyclicRun_iff (hs : start < n) (hl : length ≤ n) (hj : j < n) :
    j ∈ cyclicRun n start length ↔ inRun n start length j = true := by
  rw [cyclicRun, Finset.mem_image, inRun, decide_eq_true_iff]
  constructor
  · rintro ⟨k, hk, place⟩
    have hk := Finset.mem_range.1 hk
    rw [(distance_eq_iff hs (hk.trans_le hl) hj).2 place]
    exact hk
  · intro near
    exact ⟨_, Finset.mem_range.2 near, (distance_eq_iff hs (near.trans_le hl) hj).1 rfl⟩

/-- A run that is not longer than once around meets no place twice. -/
theorem card_cyclicRun (hs : start < n) (hl : length ≤ n) :
    (cyclicRun n start length).card = length := by
  have pos : 0 < n := Nat.zero_lt_of_lt hs
  have apart : Set.InjOn (fun k => (start + k) % n) (Finset.range length) := by
    intro k hk k' hk' same
    have hk := (Finset.mem_range.1 hk).trans_le hl
    have hk' := (Finset.mem_range.1 hk').trans_le hl
    have place : (start + k) % n < n := Nat.mod_lt _ pos
    rw [← (distance_eq_iff hs hk place).2 rfl, ← (distance_eq_iff hs hk' place).2 same.symm]
  rw [cyclicRun, Finset.card_image_of_injOn apart, Finset.card_range]

theorem cyclicRun_subset (pos : 0 < n) : cyclicRun n start length ⊆ Finset.range n :=
  Finset.image_subset_iff.2 fun _ _ => Finset.mem_range.2 (Nat.mod_lt _ pos)

/-- A run once around takes every place. -/
theorem cyclicRun_full (hs : start < n) : cyclicRun n start n = Finset.range n :=
  Finset.eq_of_subset_of_card_le (cyclicRun_subset (Nat.zero_lt_of_lt hs))
    (by rw [card_cyclicRun hs le_rfl, Finset.card_range])

/-- The trial that takes one cyclic run takes the places of the run. -/
theorem mixes_cyclicRun {target mutant : Point α} (h : mutant.length = target.length)
    (hs : start < target.length) (hl : length ≤ target.length) :
    Mixes target mutant (fun j => decide (j ∈ cyclicRun target.length start length))
      (blend target mutant start length) :=
  (mixes_blend h start length).congr h fun j hj => by
    rw [Bool.eq_iff_iff, decide_eq_true_iff, mem_cyclicRun_iff hs hl hj]

/-- The trial that takes a run once around is the mutant. -/
theorem blend_full {target mutant : Point α} (h : mutant.length = target.length)
    (hs : start < target.length) : blend target mutant start target.length = mutant := by
  refine (mixes_cyclicRun h hs le_rfl).eq_mutant h fun j hj => decide_eq_true ?_
  rw [cyclicRun_full hs]
  exact Finset.mem_range.2 hj

end

/-! ## How long a run is -/

/-- How many of the first `count` fractions come before one that is not below the rate. -/
def leading (rate : Float) (count : Nat) (g : γ) : Nat :=
  ((uniforms (α := Float) count g).1.takeWhile fun u => decide (u < rate)).length

/-- **The length of a run**: one place, and one more for each leading fraction below the rate, as
long as there is room. -/
theorem runLength_eq_min {rate : Float} (number : rate.isNaN = false) {room count : Nat}
    (enough : room ≤ count) (g : γ) :
    (runLength rate room g).1 = min (room + 1) (1 + leading rate count g) := by
  induction room generalizing count g with
  | zero => rw [runLength, Nat.min_eq_left (by omega)]
  | succ room ih =>
      obtain ⟨count, rfl⟩ := Nat.exists_eq_succ_of_ne_zero (by omega : count ≠ 0)
      have rest := ih (Nat.le_of_succ_le_succ enough) (uniform (α := Float) g).2
      have decided : ¬ rate ≤ (uniform g).1 ↔ (uniform g).1 < rate :=
        Double.not_le_iff number (WordSource.isNaN_uniform g)
      rw [runLength_succ, leading, WordSource.uniforms_succ, List.takeWhile_cons]
      by_cases stop : rate ≤ (uniform g).1
      · rw [if_pos stop, if_neg (by simpa using fun under => decided.2 under stop)]
        simp
      · rw [if_neg stop, if_pos (decide_eq_true (decided.1 stop)), rest, leading, List.length_cons]
        omega

/-- What is drawn for a run: a fraction for each place, except for the last one if there is no more
room. -/
theorem runLength_source (rate : Float) (room : Nat) (g : γ) :
    (runLength rate room g).2 =
      (uniforms (α := Float) (min (runLength rate room g).1 room) g).2 := by
  induction room generalizing g with
  | zero => rw [Nat.min_zero, runLength, uniforms]
  | succ room ih =>
      rw [runLength_succ]
      split
      · rw [Nat.min_eq_left (by omega), WordSource.uniforms_succ, uniforms]
      · rw [Nat.add_min_add_right, WordSource.uniforms_succ]
        exact ih _

/-- At the rate one no fraction ends a run. -/
theorem leading_of_one_le {rate : Float} (one : 1 ≤ rate) (count : Nat) (g : γ) :
    leading rate count g = count := by
  have under : (uniforms (α := Float) count g).1.takeWhile (fun u => decide (u < rate)) =
      (uniforms count g).1 := by
    refine List.takeWhile_eq_self_iff.2 fun u hu => decide_eq_true ?_
    exact Double.lt_of_lt_of_le (WordSource.unitFraction_of_mem_uniforms hu).below_one one
  rw [leading, under, WordSource.length_uniforms]

/-! ## The loop that copies a run -/

/-- What the loop has between two copies: the place that comes next, the number of copies, the trial
so far, and the source. -/
structure Copying (α γ : Type) where
  /-- the place that is copied next -/
  place : Nat
  /-- the number of copies so far -/
  copied : Nat
  /-- the target, with the copied coordinates replaced -/
  trial : Point α
  /-- the source of fractions -/
  source : γ

namespace Copying

variable {target mutant : Point α} {start : Nat}

/-- One round of the loop: a coordinate is copied and the place moves on, around the end.  The round
says whether there is another one: there is none once as many coordinates were copied as there are,
without a draw, and otherwise there is one unless the fraction drawn reaches the rate. -/
def turn (rate : Float) (mutant : Point α) (s : Copying α γ) :
    Except Fault (Bool × Copying α γ) := do
  let trial ← copyChecked mutant s.trial s.place
  let place := (s.place + 1) % trial.length
  let copied := s.copied + 1
  if trial.length ≤ copied then .ok (false, ⟨place, copied, trial, s.source⟩)
  else
    let (u, g) := uniform (α := Float) s.source
    .ok (!decide (rate ≤ u), ⟨place, copied, trial, g⟩)

/-- The loop ends after a number of rounds: the last one of them says that there is no other. -/
inductive Ends (rate : Float) (mutant : Point α) : Copying α γ → Nat → Copying α γ → Prop
  /-- the loop ends with this round -/
  | last {s t : Copying α γ} : turn rate mutant s = .ok (false, t) → Ends rate mutant s 1 t
  /-- the loop goes on after this round -/
  | next {s t u : Copying α γ} {k : Nat} : turn rate mutant s = .ok (true, t) →
      Ends rate mutant t k u → Ends rate mutant s (k + 1) u

/-- The loop after a number of copies. -/
def after (target mutant : Point α) (start copied : Nat) (g : γ) : Copying α γ :=
  ⟨(start + copied) % target.length, copied, blend target mutant start copied, g⟩

omit [WordSource γ] in
theorem after_zero (h : mutant.length = target.length) (hs : start < target.length) (g : γ) :
    after target mutant start 0 g = ⟨start, 0, target, g⟩ := by
  rw [after, blend_zero h, Nat.add_zero, Nat.mod_eq_of_lt hs]

/-- One round copies one more place of the run. -/
theorem turn_after (rate : Float) (h : mutant.length = target.length) (hs : start < target.length)
    {copied : Nat} (hc : copied < target.length) (g : γ) :
    turn rate mutant (after target mutant start copied g) =
      .ok (if target.length ≤ copied + 1 then (false, after target mutant start (copied + 1) g)
        else (!decide (rate ≤ (uniform (α := Float) g).1),
          after target mutant start (copied + 1) (uniform (α := Float) g).2)) := by
  have inside : (start + copied) % target.length < target.length :=
    Nat.mod_lt _ (Nat.zero_lt_of_lt hs)
  have reached : (start + copied) % target.length < mutant.length := by rwa [h]
  have entry := List.getElem?_eq_getElem reached
  have copy : copyChecked mutant (blend target mutant start copied)
      ((start + copied) % target.length) = .ok (blend target mutant start (copied + 1)) := by
    rw [copyChecked_eq entry ((mixes_blend h start copied).length.symm ▸ inside),
      set_blend h hs hc entry]
  have width : (blend target mutant start (copied + 1)).length = target.length :=
    (mixes_blend h start (copied + 1)).length
  have place : ((start + copied) % target.length + 1) % target.length =
      (start + (copied + 1)) % target.length := by
    rw [Nat.mod_add_mod, Nat.add_assoc]
  simp only [turn, after, copy, bind, Except.bind, width, place]
  split <;> rfl

/-- **The loop ends**, with the run of the trial: the induction is on the room that is left, and the
places copied so far are the invariant. -/
theorem ends_after (rate : Float) (h : mutant.length = target.length) (hs : start < target.length)
    (room : Nat) {copied : Nat} (hc : copied + room + 1 = target.length) (g : γ) :
    Ends rate mutant (after target mutant start copied g) (runLength rate room g).1
      (after target mutant start (copied + (runLength rate room g).1) (runLength rate room g).2) := by
  have round := turn_after rate h hs (by omega : copied < target.length) g
  induction room generalizing copied g with
  | zero =>
      rw [if_pos (by omega)] at round
      exact .last round
  | succ room ih =>
      rw [if_neg (by omega)] at round
      rw [runLength_succ]
      by_cases stop : rate ≤ (uniform (α := Float) g).1
      · rw [if_pos stop]
        rw [decide_eq_true stop] at round
        exact .last round
      · rw [if_neg stop]
        rw [decide_eq_false stop] at round
        have rest := ih (by omega : copied + 1 + room + 1 = target.length) (uniform (α := Float) g).2
          (turn_after rate h hs (by omega) _)
        rw [Nat.add_assoc, Nat.add_comm 1] at rest
        exact .next round rest

end Copying

/-! ## The exponential kind -/

theorem exponentialTrial_eq (rate : Float) (target mutant : Point α) (g : γ) :
    exponentialTrial rate target mutant g =
      (blend target mutant (below target.length g).1
          (runLength rate (target.length - 1) (below target.length g).2).1,
        (runLength rate (target.length - 1) (below target.length g).2).2) := rfl

/-- **An exponential trial takes one cyclic run.**  The run starts at the place that is drawn first,
and its length is one more than the number of leading fractions below the rate, but at most the
number of places, however many fractions are looked at.  The loop that copies one coordinate after
the other ends after as many copies, with this trial and this source.  Exactly the places of the run
are taken, each of them once; a fraction was drawn for each of them, except for the last one of a
full run; and at the rate one the run is full. -/
theorem exponentialTrial_takes_run {rate : Float} (number : rate.isNaN = false)
    {target mutant : Point α} (wide : 0 < target.length) (h : mutant.length = target.length)
    (g : γ) :
    let n := target.length
    let start := (below n g).1
    let stream := (below n g).2
    let result := exponentialTrial rate target mutant g
    ∃ length, start < n ∧ 1 ≤ length ∧ length ≤ n ∧
      (∀ count, n ≤ count + 1 → length = min n (1 + leading rate count stream)) ∧
      (∃ place, Copying.Ends rate mutant ⟨start, 0, target, stream⟩ length
        ⟨place, length, result.1, result.2⟩) ∧
      Mixes target mutant (fun j => decide (j ∈ cyclicRun n start length)) result.1 ∧
      (cyclicRun n start length).card = length ∧
      result.2 = (uniforms (α := Float) (min length (n - 1)) stream).2 ∧
      (1 ≤ rate → length = n ∧ result.1 = mutant) := by
  have hs := WordSource.below_lt wide g
  have room : target.length - 1 + 1 = target.length := Nat.sub_add_cancel wide
  dsimp only
  rw [exponentialTrial_eq]
  generalize below target.length g = drawn at hs ⊢
  obtain ⟨start, stream⟩ := drawn
  dsimp only at hs ⊢
  have counted {count : Nat} (enough : target.length ≤ count + 1) :
      (runLength rate (target.length - 1) stream).1 =
        min target.length (1 + leading rate count stream) := by
    rw [runLength_eq_min number (Nat.sub_le_of_le_add enough), room]
  have looped := Copying.ends_after rate h hs (target.length - 1)
    (by omega : 0 + (target.length - 1) + 1 = target.length) stream
  have source := runLength_source rate (target.length - 1) stream
  generalize runLength rate (target.length - 1) stream = run at counted looped source ⊢
  obtain ⟨length, rest⟩ := run
  dsimp only at counted looped source ⊢
  rw [Copying.after_zero h hs, Nat.zero_add] at looped
  have once : length ≤ target.length := by
    rw [counted room.ge]
    exact Nat.min_le_left ..
  refine ⟨length, hs, ?_, once, fun _ => counted, ⟨_, looped⟩, mixes_cyclicRun h hs once,
    card_cyclicRun hs once, source, fun one => ?_⟩
  · rw [counted room.ge]
    omega
  · have full : length = target.length := by
      rw [counted room.ge, leading_of_one_le one]
      omega
    rw [full]
    exact ⟨rfl, blend_full h hs⟩

/-- Of six coordinates a run takes as many as the loop has copied, and at the rate one it takes all
of them. -/
theorem exponentialTrial_takes_run_zeros :
    (∃ length ≤ 6, ∃ start < 6, Mixes [0, 0, 0, 0, 0, 0] [1, 1, 1, 1, 1, 1]
      (fun j => decide (j ∈ cyclicRun 6 start length))
      (exponentialTrial 0.5 ([0, 0, 0, 0, 0, 0] : Point Nat) [1, 1, 1, 1, 1, 1]
        (Generator.ofSeed 5)).1) ∧
    (exponentialTrial 1 ([0, 0, 0, 0, 0, 0] : Point Nat) [1, 1, 1, 1, 1, 1]
      (Generator.ofSeed 5)).1 = [1, 1, 1, 1, 1, 1] := by
  have half : (0.5 : Float).isNaN = false := by decide +kernel
  have one : (1 : Float).isNaN = false := by decide +kernel
  have wide : 0 < ([0, 0, 0, 0, 0, 0] : Point Nat).length := by decide
  have h : ([1, 1, 1, 1, 1, 1] : Point Nat).length = [0, 0, 0, 0, 0, 0].length := rfl
  obtain ⟨length, start, -, once, -, -, mixes, -⟩ :=
    exponentialTrial_takes_run half wide h (Generator.ofSeed 5)
  obtain ⟨_, -, -, -, -, -, -, -, -, full⟩ :=
    exponentialTrial_takes_run one wide h (Generator.ofSeed 5)
  exact ⟨⟨length, once, _, start, mixes⟩, (full (by decide +kernel)).2⟩

end Crossover
end BoxSearch

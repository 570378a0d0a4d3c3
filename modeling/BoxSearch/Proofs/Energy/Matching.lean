import BoxSearch.Proofs.Energy.Order
import BoxSearch.State
import Mathlib

/-!
# Energies that compare alike

A search compares energies and does nothing else with them.  So two lists of energies lead
it the same way when they compare alike: when their entries are matched one by one by a
relation that respects the comparisons and matches infinity, the energy of a point that was
never evaluated, with itself.  Such a relation is a `Matching`.

* `Rescales` — a function keeps the order of certain energies; then an energy and its
  image are matched (`Rescales.matching`);
* `argmin_matched` — the lowest energies of matched lists are matched, at the same place.
-/

namespace BoxSearch

/-- Nothing but infinity is as large as infinity, for doubles that compare equal are the
same, the two zeros apart. -/
theorem Double.eq_infinity_of_le {x : Float} (h : Double.infinity ≤ x) : x = Double.infinity := by
  obtain ⟨_, hx, _⟩ := Double.le_iff.1 h
  have same : (x == Double.infinity) = true := Double.beq_of_le_of_le (Double.le_infinity hx) h
  obtain ⟨_, _, eq | ⟨_, zero⟩ | ⟨_, zero⟩⟩ := Float.beq_iff_ne_nan_and_eq.1 same
  · exact eq
  · exact absurd zero (by decide +kernel)
  · exact absurd zero (by decide +kernel)

namespace Energy

/-- A relation between energies that respects comparisons. -/
structure Matching (ρ : Float → Float → Prop) : Prop where
  lt_iff : ∀ {a a' b b'}, ρ a a' → ρ b b' → (a < b ↔ a' < b')
  le_iff : ∀ {a a' b b'}, ρ a a' → ρ b b' → (a ≤ b ↔ a' ≤ b')
  infinity : ρ Double.infinity Double.infinity

/-! ## Rescaling -/

/-- A function keeps the order of the energies that are values of something, infinity among
them: it respects which number is below which, stays at infinity, and has no number to give
for a missing one. -/
structure Rescales (V : Float → Prop) (g : Float → Float) : Prop where
  lt_iff : ∀ a b, V a → V b → a.isNaN = false → b.isNaN = false → (a < b ↔ g a < g b)
  infinity_mem : V Double.infinity
  infinity : g Double.infinity = Double.infinity
  missing : ∀ a, V a → a.isNaN = true → (g a).isNaN = true

namespace Rescales

variable {V : Float → Prop} {g : Float → Float} {a b : Float}

/-- A number has a number for its image, since it is infinity or below it. -/
theorem isNaN_eq (h : Rescales V g) (ha : V a) : (g a).isNaN = a.isNaN := by
  cases hn : a.isNaN with
  | true => exact h.missing a ha hn
  | false =>
      by_cases hlt : a < Double.infinity
      · have := (h.lt_iff a _ ha h.infinity_mem hn Double.isNaN_infinity).1 hlt
        exact (Double.lt_iff.1 this).1
      · rw [Double.eq_infinity_of_le ((Double.not_lt_iff hn Double.isNaN_infinity).1 hlt),
          h.infinity]
        exact Double.isNaN_infinity

theorem lt (h : Rescales V g) (ha : V a) (hb : V b) : a < b ↔ g a < g b := by
  constructor
  · intro hlt
    obtain ⟨na, nb, _⟩ := Double.lt_iff.1 hlt
    exact (h.lt_iff a b ha hb na nb).1 hlt
  · intro hlt
    obtain ⟨na, nb, _⟩ := Double.lt_iff.1 hlt
    rw [h.isNaN_eq ha] at na
    rw [h.isNaN_eq hb] at nb
    exact (h.lt_iff a b ha hb na nb).2 hlt

theorem le (h : Rescales V g) (ha : V a) (hb : V b) : a ≤ b ↔ g a ≤ g b := by
  constructor
  · intro hle
    obtain ⟨na, nb, _⟩ := Double.le_iff.1 hle
    rw [← Double.not_lt_iff ((h.isNaN_eq hb).trans nb) ((h.isNaN_eq ha).trans na), ← h.lt hb ha]
    exact (Double.not_lt_iff nb na).2 hle
  · intro hle
    obtain ⟨na, nb, _⟩ := Double.le_iff.1 hle
    rw [← Double.not_lt_iff (h.isNaN_eq hb ▸ nb) (h.isNaN_eq ha ▸ na), h.lt hb ha]
    exact (Double.not_lt_iff nb na).2 hle

/-- **An energy is matched with its image under a rescaling.** -/
theorem matching (h : Rescales V g) : Matching fun a a' => V a ∧ a' = g a where
  lt_iff := by
    rintro a _ b _ ⟨ha, rfl⟩ ⟨hb, rfl⟩
    exact h.lt ha hb
  le_iff := by
    rintro a _ b _ ⟨ha, rfl⟩ ⟨hb, rfl⟩
    exact h.le ha hb
  infinity := ⟨h.infinity_mem, h.infinity.symm⟩

end Rescales

/-- Matched with its images, a list is mapped. -/
theorem eq_map_of_matched {V : Float → Prop} {g : Float → Float} {es es' : List Float}
    (h : List.Forall₂ (fun a a' => V a ∧ a' = g a) es es') : es' = es.map g := by
  induction h with
  | nil => rfl
  | cons hm _ ih => rw [List.map_cons, hm.2, ih]

/-! ## The lowest energy -/

variable {ρ : Float → Float → Prop} {es es' : List Float}

theorem argminFrom_matched (hρ : Matching ρ) (h : List.Forall₂ ρ es es') (i : Nat)
    {best best' : Nat × Float} (place : best'.1 = best.1) (energy : ρ best.2 best'.2) :
    (argminFrom i best' es').1 = (argminFrom i best es).1 ∧
      ρ (argminFrom i best es).2 (argminFrom i best' es').2 := by
  induction h generalizing i best best' with
  | nil => exact ⟨place, energy⟩
  | @cons e e' es es' he _ ih =>
      simp only [argminFrom]
      by_cases hlt : e < best.2
      · rw [if_pos hlt, if_pos ((hρ.lt_iff he energy).1 hlt)]
        exact ih (i + 1) rfl he
      · rw [if_neg hlt, if_neg fun h' => hlt ((hρ.lt_iff he energy).2 h')]
        exact ih (i + 1) place energy

/-- **The lowest of matched energies** are matched, and they stand at the same place. -/
theorem argmin_matched (hρ : Matching ρ) (h : List.Forall₂ ρ es es') :
    (argmin es').1 = (argmin es).1 ∧ ρ (argmin es).2 (argmin es').2 :=
  argminFrom_matched hρ h 0 rfl hρ.infinity

theorem replicate_infinity_matched (hρ : Matching ρ) (n : Nat) :
    List.Forall₂ ρ (List.replicate n Double.infinity) (List.replicate n Double.infinity) := by
  induction n with
  | zero => exact .nil
  | succ n ih => exact .cons hρ.infinity ih

end Energy

/-! ## States -/

/-- Two states differ in nothing but energies, and those are matched. -/
structure State.Matched {α : Type} (ρ : Float → Float → Prop) (s t : State α) : Prop where
  generation : t.generation = s.generation
  evaluations : t.evaluations = s.evaluations
  population : t.population = s.population
  energies : List.Forall₂ ρ s.energies t.energies
  bestSolution : t.bestSolution = s.bestSolution
  bestEnergy : ρ s.bestEnergy t.bestEnergy
  status : t.status = s.status

namespace State

/-- The state with its energies sent through a function. -/
def through {α : Type} (g : Float → Float) (s : State α) : State α :=
  { s with energies := s.energies.map g, bestEnergy := g s.bestEnergy }

/-- Matched with the images of its energies, a state is sent through the function. -/
theorem Matched.eq_through {α : Type} {V : Float → Prop} {g : Float → Float} {s t : State α}
    (h : Matched (fun a a' => V a ∧ a' = g a) s t) : t = s.through g := by
  obtain ⟨hg, hv, hp, he, hb, hbe, hs⟩ := h
  cases t
  simp only at hg hv hp he hb hbe hs
  simp only [through, hg, hv, hp, hb, hs, hbe.2, Energy.eq_map_of_matched he]

end State

end BoxSearch

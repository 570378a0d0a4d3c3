import BoxSearch.Proofs.Energy.Matching
import BoxSearch.Proofs.Energy.Order

/-!
# Which entry is the lowest one

The scan for the lowest energy is to answer with an entry: the first place of the lowest energy, and
the energy there.  It begins with place 0 and infinity, as if an entry were there that is infinite,
and moves on to what is strictly lower.  That is as good as an entry as long as something is lower,
or the entry at place 0 is infinite itself; but when every number among the energies is infinite and
the first energy is missing, the answer stays at a place where there is no number.

* `FirstLowest` — a place and an energy are the first lowest entry of some energies, and
  `FirstLowest.unique` — there is only one;
* `argmin_eq_of_none_below` — the answer when no energy is below infinity;
* `argmin_firstLowest_iff` — when the answer is the first lowest entry;
* `first_missing_is_answered` — two energies whose first lowest entry is not answered.
-/

namespace BoxSearch
namespace Energy

/-- The first of the lowest entries: an entry that is a number, no number is lower, and none before
it is as low. -/
structure FirstLowest (es : List Float) (r : Nat × Float) : Prop where
  /-- the energy is the one at the place -/
  entry : es[r.1]? = some r.2
  /-- it is a number -/
  number : r.2.isNaN = false
  /-- missing energies apart, none is lower -/
  lowest : ∀ e ∈ es, e.isNaN = false → r.2 ≤ e
  /-- no energy before it equals it -/
  first : ∀ e ∈ es.take r.1, (e == r.2) = false

variable {es : List Float}

/-- An entry before another is among those in front of it. -/
theorem mem_take_of_lt {i j : Nat} {e : Float} (h : es[i]? = some e) (before : i < j) :
    e ∈ es.take j :=
  List.mem_of_getElem? ((List.getElem?_take_of_lt before).trans h)

/-- **Energies have only one first lowest entry.** -/
theorem FirstLowest.unique {r s : Nat × Float} (hr : FirstLowest es r) (hs : FirstLowest es s) :
    r = s := by
  have equal : (r.2 == s.2) = true := Double.beq_of_le_of_le
    (hr.lowest _ (List.mem_of_getElem? hs.entry) hs.number)
    (hs.lowest _ (List.mem_of_getElem? hr.entry) hr.number)
  have place : r.1 = s.1 := by
    rcases Nat.lt_trichotomy r.1 s.1 with before | same | after
    · have apart := hs.first _ (mem_take_of_lt hr.entry before)
      rw [equal] at apart
      cases apart
    · exact same
    · have apart := hr.first _ (mem_take_of_lt hs.entry after)
      rw [Double.beq_iff_le_and_le.2 (Double.beq_iff_le_and_le.1 equal).symm] at apart
      cases apart
  have entry := hr.entry
  rw [place, hs.entry] at entry
  exact Prod.ext place (Option.some.inj entry).symm

/-- Without an energy below infinity the scan stays where it began. -/
theorem argmin_eq_of_none_below (h : ∀ e ∈ es, ¬ e < Double.infinity) :
    argmin es = (0, Double.infinity) := by
  rcases argmin_spec es with ⟨none, -⟩ | ⟨k, e, hk, -, below, -⟩
  · exact none
  · exact absurd below (h e (List.mem_of_getElem? hk))

/-- With an energy below infinity the answer is the first lowest entry. -/
theorem firstLowest_argmin_of_below (h : ∃ e ∈ es, e < Double.infinity) :
    FirstLowest es (argmin es) := by
  obtain ⟨low, hlow, below⟩ := h
  rcases argmin_spec es with ⟨-, none⟩ | ⟨k, e, hk, answer, he, above, first⟩
  · exact absurd below (none low hlow)
  · have number := (Double.lt_iff.1 he).1
    rw [answer]
    refine ⟨hk, number, fun e' he' number' => (Double.not_lt_iff number' number).1 (above e' he'),
      fun e' he' => ?_⟩
    exact Bool.eq_false_iff.2 fun equal => first e' he' (Double.beq_iff_le_and_le.1 equal).1

/-- An infinite first energy is the first lowest entry, when there is none below infinity. -/
theorem firstLowest_infinite (none : ∀ e ∈ es, ¬ e < Double.infinity) {first : Float}
    (entry : es[0]? = some first) (number : first.isNaN = false) :
    FirstLowest es (0, Double.infinity) := by
  have high {e : Float} (he : e ∈ es) (hn : e.isNaN = false) : Double.infinity ≤ e :=
    (Double.not_lt_iff hn Double.isNaN_infinity).1 (none e he)
  refine ⟨?_, Double.isNaN_infinity, fun e he hn => high he hn, ?_⟩
  · rw [entry, Double.eq_infinity_of_le (high (List.mem_of_getElem? entry) number)]
  · simp

/-- **When the answer of the scan is the first lowest entry.**  For energies without a number it is
place 0 and infinity.  For energies with a number it is their first lowest entry exactly if some
energy is below infinity or the first one is a number; otherwise it is place 0 and infinity all the
same. -/
theorem argmin_firstLowest_iff (es : List Float) :
    ((∀ e ∈ es, e.isNaN = true) → argmin es = (0, Double.infinity)) ∧
    ((∃ e ∈ es, e.isNaN = false) →
      (FirstLowest es (argmin es) ↔
        (∃ e ∈ es, e < Double.infinity) ∨ ∃ e, es[0]? = some e ∧ e.isNaN = false)) ∧
    ((∀ e ∈ es, ¬ e < Double.infinity) → argmin es = (0, Double.infinity)) := by
  refine ⟨fun missing => argmin_eq_of_none_below fun e he below => ?_, fun _ => ⟨fun h => ?_, ?_⟩,
    argmin_eq_of_none_below⟩
  · have number := (Double.lt_iff.1 below).1
    rw [missing e he] at number
    cases number
  · by_cases below : ∃ e ∈ es, e < Double.infinity
    · exact Or.inl below
    · have none : ∀ e ∈ es, ¬ e < Double.infinity := by simpa using below
      have answer := argmin_eq_of_none_below none
      rw [answer] at h
      exact Or.inr ⟨_, h.entry, h.number⟩
  · rintro (below | ⟨first, entry, number⟩)
    · exact firstLowest_argmin_of_below below
    · by_cases below : ∃ e ∈ es, e < Double.infinity
      · exact firstLowest_argmin_of_below below
      · have none : ∀ e ∈ es, ¬ e < Double.infinity := by simpa using below
        rw [argmin_eq_of_none_below none]
        exact firstLowest_infinite none entry number

/-- The first of two equal lowest energies is answered, past a missing one; infinite energies are
answered as soon as the first of them is no missing one; and nothing is found among missing ones. -/
theorem argmin_firstLowest_iff_samples :
    FirstLowest [3, Double.nan, 1, 1] (2, 1) ∧
    FirstLowest [Double.infinity, Double.nan, Double.infinity] (0, Double.infinity) ∧
    argmin [Double.nan, Double.nan] = (0, Double.infinity) := by
  have ties := (argmin_firstLowest_iff [3, Double.nan, 1, 1]).2.1 ⟨3, by simp, by decide +kernel⟩
  have infinite := (argmin_firstLowest_iff [Double.infinity, Double.nan, Double.infinity]).2.1
    ⟨Double.infinity, by simp, by decide +kernel⟩
  have answers : argmin [3, Double.nan, 1, 1] = (2, 1) ∧
      argmin [Double.infinity, Double.nan, Double.infinity] = (0, Double.infinity) := by
    decide +kernel
  rw [answers.1] at ties
  rw [answers.2] at infinite
  refine ⟨ties.2 (Or.inl ⟨1, by simp, by decide +kernel⟩),
    infinite.2 (Or.inr ⟨Double.infinity, rfl, by decide +kernel⟩),
    (argmin_firstLowest_iff [Double.nan, Double.nan]).1 (by decide +kernel)⟩

/-- **A missing first energy is answered** when the numbers after it are infinite: the answer is
place 0, where there is no number, and not the first lowest entry, which is at place 1. -/
theorem first_missing_is_answered :
    FirstLowest [Double.nan, Double.infinity] (1, Double.infinity) ∧
    argmin [Double.nan, Double.infinity] = (0, Double.infinity) ∧
    ¬ FirstLowest [Double.nan, Double.infinity] (argmin [Double.nan, Double.infinity]) := by
  have entry : FirstLowest [Double.nan, Double.infinity] (1, Double.infinity) :=
    ⟨rfl, by decide +kernel, by decide +kernel, by decide +kernel⟩
  have answer : argmin [Double.nan, Double.infinity] = (0, Double.infinity) := by decide +kernel
  refine ⟨entry, answer, fun same => ?_⟩
  rw [answer] at same
  cases same.unique entry

end Energy
end BoxSearch

import BoxSearch.Proofs.Criterion.Observations
import BoxSearch.Proofs.Energy.Order

/-!
# Stagnation

The test of stagnation counts the generations in a row that were no improvement on the lowest
best energy so far.  It does not keep the list of energies, but as long as they are numbers,
what it counts is how many of them came after the first place of the lowest one.  So it fires
exactly when the last generations did not lower the minimum.

* `Memory.Tracks` — what the counting memory knows of the observations; `Tracks.track` keeps it
  from one state to the next;
* `Tracks.le_stale_iff` — how many generations are stale, in terms of minima;
* `stops_stagnation_iff` — the test of stagnation compares the minimum of all observations with
  that of the observations before the last ones.
-/

namespace BoxSearch

variable {α : Type}

/-! ## What is counted -/

namespace Memory

/-- A memory knows the generation observed last and the lowest energy observed, and it counts
the observations after the first place of that energy. -/
structure Tracks (m : Memory) (kept : List (State α)) : Prop where
  /-- the generation observed last -/
  last : m.lastGeneration = kept.getLast?.map State.generation
  /-- there is no lowest energy before the first observation -/
  unknown : kept = [] → m.lowest = none
  /-- the lowest energy, and the distance from its first place to the end -/
  counted : kept ≠ [] → ∃ lowest, m.lowest = some lowest ∧
    (lowest == (Energy.argmin (kept.map State.bestEnergy)).2) = true ∧
    m.stale + (Energy.argmin (kept.map State.bestEnergy)).1 + 1 = kept.length

theorem tracks_blank : blank.Tracks ([] : List (State α)) :=
  ⟨rfl, fun _ => rfl, fun some => absurd rfl some⟩

variable {m : Memory} {kept : List (State α)} {s : State α}

/-- What is to be known after one observation more. -/
theorem tracks_concat (last : m.lastGeneration = some s.generation) {lowest : Float}
    (known : m.lowest = some lowest) {place : Nat × Float}
    (scanned : Energy.argmin (kept.map State.bestEnergy ++ [s.bestEnergy]) = place)
    (same : (lowest == place.2) = true) (counted : m.stale + place.1 = kept.length) :
    m.Tracks (kept ++ [s]) := by
  refine ⟨by simpa using last, fun nothing => absurd nothing (by simp), fun _ => ?_⟩
  rw [List.map_append, List.map_singleton, scanned, List.length_append, counted]
  exact ⟨lowest, known, same, rfl⟩

/-- **One state more.**  The count keeps up with the observations, as long as they are
numbers. -/
theorem Tracks.track (h : m.Tracks kept) (number : s.bestEnergy.isNaN = false) :
    (m.track s.generation s.bestEnergy).Tracks (State.note kept s) := by
  unfold Memory.track
  by_cases seen : m.lastGeneration = some s.generation
  · rw [if_pos seen, State.note_of_eq (h.last ▸ seen)]
    exact h
  rw [if_neg seen, State.note_of_ne (h.last ▸ seen)]
  have scanned := Energy.argmin_concat (kept.map State.bestEnergy) s.bestEnergy
  have itself := Double.beq_of_le_of_le (Double.le_refl_iff.2 number) (Double.le_refl_iff.2 number)
  by_cases first : kept = []
  · subst first
    rw [h.unknown rfl]
    -- the scan of one energy compares it with infinity, and leaves that if they are equal
    by_cases low : s.bestEnergy < Double.infinity
    · exact tracks_concat rfl rfl (scanned.trans (if_pos low)) itself rfl
    · have high := (Double.not_lt_iff number Double.isNaN_infinity).1 low
      exact tracks_concat rfl rfl (scanned.trans (if_neg low))
        (Double.beq_of_le_of_le (Double.le_infinity number) high) rfl
  · obtain ⟨lowest, known, same, counted⟩ := h.counted first
    obtain ⟨below, above⟩ := Double.beq_iff_le_and_le.1 same
    obtain ⟨known_number, scanned_number, -⟩ := Double.le_iff.1 below
    rw [known]
    by_cases stale : lowest ≤ s.bestEnergy
    · have higher : ¬ s.bestEnergy < (Energy.argmin (kept.map State.bestEnergy)).2 :=
        (Double.not_lt_iff number scanned_number).2 (Double.le_trans above stale)
      simp only [if_pos stale]
      refine tracks_concat rfl rfl (scanned.trans (if_neg higher)) same ?_
      simp only
      omega
    · have lower : s.bestEnergy < lowest := (Double.not_le_iff known_number number).1 stale
      have improved : s.bestEnergy < (Energy.argmin (kept.map State.bestEnergy)).2 :=
        Double.lt_of_lt_of_le lower below
      simp only [if_neg stale]
      refine tracks_concat rfl rfl (scanned.trans (if_pos improved)) itself ?_
      simp only [List.length_map, Nat.zero_add]

/-- **Stale generations**: some observations were no improvement exactly when the minimum is
that of the observations before them. -/
theorem Tracks.le_stale_iff (h : m.Tracks kept) (some : kept ≠ []) {es : List Float}
    (energies : kept.map State.bestEnergy = es) (numbers : ∀ e ∈ es, e.isNaN = false)
    (n : Nat) :
    n ≤ m.stale ↔ n < es.length ∧
      ((Energy.argmin (es.take (es.length - n))).2 == (Energy.argmin es).2) = true := by
  obtain ⟨lowest, -, -, counted⟩ := h.counted some
  have length : kept.length = es.length := by rw [← energies, List.length_map]
  rw [energies, length] at counted
  by_cases more : n < es.length
  · rw [Energy.argmin_take_beq_iff numbers (Nat.sub_pos_of_lt more)]
    omega
  · constructor
    · intro stale
      omega
    · exact fun both => absurd both.1 more

end Memory

/-! ## The test of stagnation -/

variable [Scalar α]

theorem Test.tracks_remember (generations : Nat) {states : List (State α)}
    (numbers : ∀ s ∈ states, s.bestEnergy.isNaN = false) :
    ((stagnation generations).remember .blank states).Tracks (State.observed states) := by
  refine remember_observed (P := Memory.Tracks) Memory.tracks_blank ?_ numbers
  intro m kept s number tracks
  exact tracks.track number

namespace Watch

/-- **Stagnation means no new minimum** for some generations.  Let `b` be the best energies
observed up to some state, of states in a row with one generation those of the first, and let
them be numbers, whether they fall or rise.  A test of stagnation that was made or reset just
before the series answers every question of it, and it answers with a stop exactly when there
are more observations than its generations and the minimum of all of them is that of the
observations without so many of the last. -/
theorem stops_stagnation_iff (generations : Nat) {w : Watch}
    (fresh : w.Fresh (.stagnation generations)) {states : List (State α)}
    (numbers : ∀ s ∈ states, s.bestEnergy.isNaN = false) :
    (w.inquire states).said.length = states.length ∧
    ∀ i < states.length,
      let b := State.observations (states.take (i + 1))
      (w.inquire states).stops i = true ↔
        generations < b.length ∧
          ((Energy.argmin (b.take (b.length - generations))).2 == (Energy.argmin b).2) = true := by
  rw [fresh.eq_blank]
  refine ⟨length_said rfl states, ?_⟩
  intro i hi b
  rw [stops_test rfl .blank states hi]
  have asked : states.take (i + 1) = states.take i ++ [states[i]] :=
    List.take_succ_eq_append_getElem hi
  have seen : ∀ s ∈ states.take (i + 1), s.bestEnergy.isNaN = false := fun s hs =>
    numbers s (List.mem_of_mem_take hs)
  have some : State.observed (states.take (i + 1)) ≠ [] :=
    State.observed_ne_nil (asked ▸ List.append_ne_nil_of_right_ne_nil _ (List.cons_ne_nil _ _))
  have observed : ∀ e ∈ b, e.isNaN = false := by
    intro e he
    obtain ⟨s, hs, rfl⟩ := List.mem_map.1 he
    exact seen s (State.mem_of_mem_observed hs)
  -- the look at a state counts the state itself
  have tracks := Test.tracks_remember generations seen
  rw [asked, Test.remember_concat, ← asked] at tracks
  exact decide_eq_true_iff.trans (tracks.le_stale_iff some rfl observed generations)

/-- Seven states of six generations, whose best energy falls, rises again and ties. -/
def rebounding : List (State Float) :=
  [stateSeen 1 8 4, stateSeen 2 16 2, stateSeen 3 24 3, stateSeen 3 26 1, stateSeen 4 32 2,
    stateSeen 5 40 2.5, stateSeen 6 48 1]

/-- Two generations after the second one the test fires, and a new minimum puts it off. -/
theorem stops_stagnation_rebounding :
    (∀ s ∈ rebounding, s.bestEnergy.isNaN = false) ∧
      State.observations rebounding = [4, 2, 3, 2, 2.5, 1] ∧
      ∀ i < 7, ((ofCriterion (.test (.stagnation 2))).inquire rebounding).stops i = true ↔
        i = 4 ∨ i = 5 := by
  have numbers : ∀ s ∈ rebounding, s.bestEnergy.isNaN = false := by decide +kernel
  obtain ⟨-, stops⟩ := stops_stagnation_iff 2
    (w := ofCriterion (.test (.stagnation 2))) (Or.inl rfl) numbers
  refine ⟨numbers, rfl, fun i hi => (stops i hi).trans ?_⟩
  revert i
  decide +kernel

end Watch

end BoxSearch

import BoxSearch.Proofs.Criterion.Observations

/-!
# Windows of best energies

A test of change remembers the newest best energies, one of each generation, and compares the
oldest of them with the newest once there are enough.  This file relates the window to the
whole list of observations: the window is its end, so the oldest entry of a full one is exactly
as many generations back as the test was told to look.

* `Memory.Holds` — what a memory with a window has of the observations; `Holds.observe` keeps it
  from one state to the next;
* `Holds.ends` — the two ends of a window, as places of the list of observations;
* `comparesOver` — a test of change stops the run exactly when the newest observation and the
  one so many generations before it are close enough.
-/

namespace BoxSearch

/-! ## What a window holds -/

namespace Memory

variable {α : Type}

/-- A memory knows the generation observed last, and of the observed energies the newest ones,
up to the length of the window. -/
structure Holds (m : Memory) (length : Nat) (kept : List (State α)) : Prop where
  /-- the generation observed last -/
  last : m.lastGeneration = kept.getLast?.map State.generation
  /-- the end of the list of observed energies -/
  window : m.window = (kept.map State.bestEnergy).drop (kept.length - length)

theorem holds_blank (length : Nat) : blank.Holds length ([] : List (State α)) :=
  ⟨rfl, List.drop_nil.symm⟩

variable {m : Memory} {length back : Nat} {kept : List (State α)}

/-- The end of a longer list, from the end of the list before. -/
theorem drop_drop_concat (es : List Float) (e : Float) (length : Nat) :
    (es.drop (es.length - length) ++ [e]).drop
        ((es.drop (es.length - length) ++ [e]).length - length) =
      (es ++ [e]).drop (es.length + 1 - length) := by
  have before : es.length - length ≤ es.length := Nat.sub_le _ _
  rw [List.length_append, List.length_drop, List.length_singleton,
    ← List.drop_append_of_le_length before, List.drop_drop]
  congr 1
  omega

/-- **One state more.**  The window keeps up with the observations. -/
theorem Holds.observe (h : m.Holds length kept) (s : State α) :
    (m.observe length s.generation s.bestEnergy).Holds length (State.note kept s) := by
  unfold Memory.observe
  by_cases seen : m.lastGeneration = some s.generation
  · rw [if_pos seen, State.note_of_eq (h.last ▸ seen)]
    exact h
  · rw [if_neg seen, State.note_of_ne (h.last ▸ seen)]
    have energies := drop_drop_concat (kept.map State.bestEnergy) s.bestEnergy length
    rw [List.length_map, ← h.window] at energies
    exact ⟨by simp, by simpa using energies⟩

/-- A window that is not full yet has no two ends. -/
theorem Holds.ends_of_le (h : m.Holds (back + 1) kept)
    (few : (kept.map State.bestEnergy).length ≤ back) : m.ends (back + 1) = none := by
  unfold Memory.ends
  rw [h.window, List.length_drop, if_pos (by omega)]

/-- **The two ends of a full window** that looks some generations back: the observation so many
before the newest one, and the newest one. -/
theorem Holds.ends_of_lt (h : m.Holds (back + 1) kept) {es : List Float}
    (energies : kept.map State.bestEnergy = es) (full : back < es.length) :
    m.ends (back + 1) = some (es[es.length - 1 - back], es[es.length - 1]) := by
  have window : m.window = es.drop (es.length - 1 - back) := by
    rw [h.window, energies, ← energies, List.length_map]
    congr 1
    omega
  have oldest : m.window.head? = some es[es.length - 1 - back] := by
    rw [window, List.head?_drop]
    exact List.getElem?_eq_getElem _
  have newest : m.window.getLast? = some es[es.length - 1] := by
    rw [window, List.getLast?_drop, if_neg (by omega), List.getLast?_eq_getElem?]
    exact List.getElem?_eq_getElem _
  have length : ¬ m.window.length < back + 1 := by
    rw [window, List.length_drop]
    omega
  unfold Memory.ends
  rw [if_neg length, oldest, newest]

end Memory

/-! ## Tests of change -/

variable {α : Type} [Scalar α]

namespace Test

/-- A test takes the best energy into its window and compares the two ends of it; how far they
may be apart can depend on the newest one. -/
def Compares (α : Type) [Scalar α] (t : Test) (back : Nat) (bound : Float → Float) : Prop :=
  ∀ (s : State α) (m : Memory),
    let seen := m.observe (back + 1) s.generation s.bestEnergy
    t.look s m =
      ((seen.ends (back + 1)).any fun p => decide ((p.1 - p.2).abs ≤ bound p.2), seen)

theorem compares_change (tolerance : Float) (generations : Nat) :
    (change tolerance generations).Compares α (lookBack generations) fun _ => tolerance := by
  intro s m
  simp only [look]
  cases (m.observe (lookBack generations + 1) s.generation s.bestEnergy).ends
    (lookBack generations + 1) <;> rfl

theorem compares_relativeChange (tolerance : Float) (generations : Nat) :
    (relativeChange tolerance generations).Compares α (lookBack generations) fun newest =>
      tolerance * Double.larger newest.abs Double.smallestNormal := by
  intro s m
  simp only [look]
  cases (m.observe (lookBack generations + 1) s.generation s.bestEnergy).ends
    (lookBack generations + 1) <;> rfl

theorem holds_remember {t : Test} {back : Nat} {bound : Float → Float}
    (compares : t.Compares α back bound) (states : List (State α)) :
    (t.remember .blank states).Holds (back + 1) (State.observed states) := by
  refine remember_observed (P := fun m kept => m.Holds (back + 1) kept) (Q := fun _ => True)
    (Memory.holds_blank _) ?_ fun _ _ => trivial
  intro m kept s _ held
  rw [compares s m]
  exact held.observe s

end Test

namespace Watch

/-- A watch stops a run when the newest observation and the one some observations before it
are close enough, and it has an answer to every question. -/
def ComparesOver (α : Type) [Scalar α] (w : Watch) (back : Nat) (bound : Float → Float) : Prop :=
  ∀ states : List (State α), (w.inquire states).said.length = states.length ∧
    ∀ i < states.length,
      let b := State.observations (states.take (i + 1))
      (w.inquire states).stops i = true ↔
        ∃ _ : back < b.length,
          (b[b.length - 1 - back] - b[b.length - 1]).abs ≤ bound b[b.length - 1]

theorem comparesOver_test {t : Test} {back : Nat} {bound : Float → Float}
    (compares : t.Compares α back bound) (faultless : t.fault? = none) {w : Watch}
    (fresh : w.Fresh t) : ComparesOver α w back bound := by
  intro states
  rw [fresh.eq_blank]
  refine ⟨length_said (w := .test t .blank) (Option.isNone_iff_eq_none.2 faultless) states, ?_⟩
  intro i hi b
  rw [stops_test faultless .blank states hi, compares]
  -- the look at a state leaves what the states up to it leave
  have held : (((t.remember .blank (states.take i)).observe (back + 1) states[i].generation
      states[i].bestEnergy)).Holds (back + 1) (State.observed (states.take (i + 1))) := by
    rw [List.take_succ_eq_append_getElem hi, State.observed_concat]
    exact (Test.holds_remember compares _).observe _
  by_cases full : back < b.length
  · rw [held.ends_of_lt rfl full, Option.any_some, decide_eq_true_iff]
    exact ⟨fun close => ⟨full, close⟩, fun ⟨_, close⟩ => close⟩
  · rw [held.ends_of_le (Nat.le_of_not_lt full)]
    exact ⟨nofun, fun ⟨more, _⟩ => absurd more full⟩

/-- **A test of change looks back exactly as many generations as it was told**, and at least
one.  Let `b` be the best energies observed up to some state, of states in a row with one
generation those of the first.  A test that was made or reset just before the series answers
every question of it, and it answers with a stop exactly when there are more than `N`
observations and the newest one differs by at most the tolerance from the one `N` observations
before it; the relative test multiplies the tolerance by the size of the newest one, which
counts as at least the smallest normal number. -/
theorem comparesOver_change (tolerance : Float) {generations : Nat}
    (countable : generations + 1 < UInt64.size) (w : Watch) :
    (w.Fresh (.change tolerance generations) →
      ComparesOver α w (max 1 generations) fun _ => tolerance) ∧
    (w.Fresh (.relativeChange tolerance generations) →
      ComparesOver α w (max 1 generations) fun newest =>
        tolerance * Double.larger newest.abs Double.smallestNormal) := by
  have small : Test.lookBack generations + 1 < UInt64.size := by
    have room : 1 < UInt64.size - 1 := by decide
    unfold Test.lookBack
    omega
  have change := comparesOver_test (Test.compares_change (α := α) tolerance generations)
    (if_pos small) (w := w)
  have relative := comparesOver_test
    (Test.compares_relativeChange (α := α) tolerance generations) (if_pos small) (w := w)
  rw [Test.lookBack, Nat.max_comm] at change relative
  exact ⟨change, relative⟩

/-- Six states of five generations; the best energy rests from the second one on. -/
def atRest : List (State Float) :=
  [stateSeen 1 8 10, stateSeen 2 16 5, stateSeen 2 20 1, stateSeen 3 24 5, stateSeen 4 32 5,
    stateSeen 5 40 5]

/-- Three generations back, the fifth generation is the first one compared with the second. -/
theorem comparesOver_change_atRest :
    3 + 1 < UInt64.size ∧ State.observations atRest = [10, 5, 5, 5, 5] ∧
      ∀ i < 6, ((ofCriterion (.test (.change 0.001 3))).inquire atRest).stops i = true ↔
        i = 5 := by
  have countable : 3 + 1 < UInt64.size := by decide
  obtain ⟨compares, -⟩ := comparesOver_change (α := Float) 0.001 countable
    (ofCriterion (.test (.change 0.001 3)))
  obtain ⟨-, stops⟩ := compares (Or.inl rfl) atRest
  refine ⟨countable, rfl, fun i hi => (stops i hi).trans ?_⟩
  revert i
  decide +kernel

end Watch

end BoxSearch

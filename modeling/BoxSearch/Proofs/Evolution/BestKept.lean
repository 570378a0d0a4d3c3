import BoxSearch.Proofs.Evolution.Coherence

/-!
# Which evaluations the best energy answers for

The best energy of a run is read off the energies of the members, not off the batches.
So it answers for an evaluated point only as long as a better trial takes the place of
its target, and there is one target that no trial replaces: a member whose energy is
missing, since no number is at most a missing one.

`best_le_evaluated` says that this is the only gap.  Every evaluation of a run is
recorded under its number, evaluations go round the members in order, and the best energy
is at most every recorded number whose member has an energy that is one.
`best_not_le_evaluated` is a run that falls into the gap: the only number that it ever
met belongs to the trial of a member without one, and its best energy stays infinite.
-/

namespace BoxSearch

/-! ## Records of a batch -/

/-- The records of a batch carry its points and energies in order, and count on. -/
theorem Batch.mem_records {α : Type} {first : Nat} {xs : List (Point α)} {es : List Float}
    {r : Record α} (h : Event.evaluated r ∈ records first xs es) :
    ∃ k, r.evaluations = first + k ∧ xs[k]? = some r.point ∧ es[k]? = some r.energy := by
  unfold records at h
  obtain ⟨k, hk⟩ := List.mem_iff_getElem?.1 h
  rw [List.getElem?_mapIdx] at hk
  obtain ⟨⟨x, e⟩, hxe, hr⟩ := Option.map_eq_some_iff.1 hk
  cases hr
  obtain ⟨hx, he⟩ := List.getElem?_zip_eq_some.1 hxe
  exact ⟨k, rfl, hx, he⟩

namespace Evolution

variable {α : Type}
variable {state : State α} {trials : List (Point α × Float)} {r : Record α}

theorem mem_append_log {events : List (Event α)} {entry : LogEntry} {r : Record α} :
    Event.evaluated r ∈ events ++ [.log entry] ↔ Event.evaluated r ∈ events := by
  simp

theorem exists_evaluated_of_any {l : List (Event α)} {p : Record α → Bool}
    (h : (l.filterMap Event.evaluated?).any p = true) :
    ∃ r, Event.evaluated r ∈ l ∧ p r = true := by
  obtain ⟨r, hr, hp⟩ := List.any_eq_true.1 h
  obtain ⟨event, hmem, he⟩ := List.mem_filterMap.1 hr
  cases event with
  | evaluated r' =>
      cases he
      exact ⟨r, hmem, hp⟩
  | generation r' => cases he
  | log entry => cases he

/-! ## Evaluations and members -/

/-- The energy of the member whose turn an evaluation was, when every member has its
turn in every round. -/
def turnOf (state : State α) (number : Nat) : Option Float :=
  state.energies[(number - 1) % state.energies.length]?

/-- The best energy answers for an evaluation, or there is no number there or at the
member whose turn it was. -/
def Answered (state : State α) (r : Record α) : Prop :=
  r.energy.isNaN = true ∨ state.bestEnergy ≤ r.energy ∨
    ∃ e, turnOf state r.evaluations = some e ∧ e.isNaN = true

/-- Every member had its turn as often as there were generations, and once before. -/
def Counted (state : State α) : Prop :=
  state.evaluations = state.energies.length * (state.generation + 1)

theorem length_energies_select (aligned : state.population.rows.length = state.energies.length)
    (hl : trials.length = state.population.rows.length) :
    (select state trials).energies.length = state.energies.length :=
  (noWorse_select aligned hl).length_eq

theorem counted_select (counted : Counted state)
    (aligned : state.population.rows.length = state.energies.length)
    (hl : trials.length = state.population.rows.length) : Counted (select state trials) := by
  show state.evaluations + trials.length =
    (select state trials).energies.length * (state.generation + 1 + 1)
  rw [length_energies_select aligned hl, counted, hl, aligned, ← Nat.mul_succ]

/-- What was answered for once is answered for after every selection. -/
theorem Answered.select (h : Answered state r) (tidy : state.Tidy)
    (hl : trials.length = state.population.rows.length) : Answered (select state trials) r := by
  have kept := noWorse_select tidy.aligned hl
  rcases h with h | h | ⟨e, he, missing⟩
  · exact Or.inl h
  · refine Or.inr (Or.inl ?_)
    have best : Energy.NoWorse (Evolution.select state trials).bestEnergy state.bestEnergy :=
      Energy.noWorse_improve _ _
    exact Double.le_trans (best.le tidy.lowest.number) h
  · -- a missing energy stays missing, at the same place
    obtain ⟨e', he', hkept⟩ := Energy.NoWorse.exists_after kept he
    refine Or.inr (Or.inr ⟨e', ?_, hkept.isNaN missing⟩)
    rw [turnOf, kept.length_eq]
    exact he'

/-- **A trial is answered for when it was made**, unless its target has no energy. -/
theorem answered_trial (tidy : state.Tidy) (counted : Counted state)
    (hl : trials.length = state.population.rows.length) {k : Nat}
    (number : r.evaluations = state.evaluations + 1 + k)
    (ht : trials[k]? = some (r.point, r.energy)) : Answered (select state trials) r := by
  have lowest := (tidy_select tidy hl).lowest
  obtain ⟨hk, _⟩ := List.getElem?_eq_some_iff.1 ht
  have hlen := length_energies_select tidy.aligned hl
  have turn : (r.evaluations - 1) % (select state trials).energies.length = k := by
    rw [hlen, number, counted, show ∀ a, a + 1 + k - 1 = k + a by omega,
      Nat.add_mul_mod_self_left, Nat.mod_eq_of_lt (by rw [← tidy.aligned]; omega)]
  have hk' : k < (state.population.rows.zip state.energies).length := by
    rw [List.length_zip, ← tidy.aligned]
    omega
  obtain ⟨⟨x, target⟩, hx⟩ : ∃ p, (state.population.rows.zip state.energies)[k]? = some p :=
    ⟨_, List.getElem?_eq_getElem hk'⟩
  have here : (select state trials).energies[k]? =
      some (survivor (x, target) (r.point, r.energy)).2 := by
    rw [energies_select, List.getElem?_map, survivors, List.getElem?_zipWith, hx, ht]
    rfl
  have mem := List.mem_of_getElem? here
  by_cases accepted : r.energy ≤ target
  · have stays := survivor_of_le (show (r.point, r.energy).2 ≤ (x, target).2 from accepted)
    rw [stays] at mem
    exact Or.inr (Or.inl (lowest.below _ mem (Double.le_iff.1 accepted).1))
  have stays := survivor_of_not_le (show ¬ (r.point, r.energy).2 ≤ (x, target).2 from accepted)
  rw [stays] at here mem
  cases htarget : target.isNaN with
  | true => exact Or.inr (Or.inr ⟨target, by rw [turnOf, turn]; exact here, htarget⟩)
  | false =>
      cases hr : r.energy.isNaN with
      | true => exact Or.inl hr
      | false =>
          have above := Double.le_of_lt ((Double.not_le_iff hr htarget).1 accepted)
          exact Or.inr (Or.inl (Double.le_trans (lowest.below _ mem htarget) above))

/-! ## Runs -/

variable [Scalar α] {usable : Objective α → Prop}

/-- A run is accounted for: before the first population is evaluated there is nothing to
account for, and afterwards every evaluation among the events is answered for. -/
def Accounted (events : List (Event α)) (s : Evolution α) : Prop :=
  (s.evaluated = false →
    s.state.evaluations = 0 ∧ s.state.generation = 0 ∧ ∀ r, Event.evaluated r ∉ events) ∧
  (s.evaluated = true →
    s.state.Tidy ∧ Counted s.state ∧ ∀ r, Event.evaluated r ∈ events → Answered s.state r)

theorem accounted_commitFirst {s : Evolution α} {events : List (Event α)} {es : List Float}
    (h : Accounted events s) (fresh : s.evaluated = false) (hl : es.length = s.firstRows.length) :
    Accounted (events ++ Batch.records (s.state.evaluations + 1) s.firstRows es)
      (s.commitFirst s.firstRows es) := by
  obtain ⟨evaluations, generation, none⟩ := h.1 fresh
  refine ⟨fun hs => (by cases hs), fun _ => ⟨tidy_commitFirst hl, ?_, ?_⟩⟩
  · show s.state.evaluations + s.firstRows.length = es.length * (s.state.generation + 1)
    rw [evaluations, generation, hl]
    omega
  · intro r hr
    rcases List.mem_append.1 hr with hr | hr
    · exact absurd hr (none r)
    · obtain ⟨k, _, _, he⟩ := Batch.mem_records hr
      cases hn : r.energy.isNaN with
      | true => exact Or.inl hn
      | false =>
          have lowest := Energy.isLowest_argmin es
          exact Or.inr (Or.inl (lowest.below _ (List.mem_of_getElem? he) hn))

theorem accounted_bred {s : Evolution α} {events : List (Event α)} {points : List (Point α)}
    {g : Generator} {es : List Float} (h : Accounted events s) (evaluated : s.evaluated = true)
    (hl : (points.zip es).length = s.state.population.rows.length) :
    Accounted (events ++ (Batch.records (s.state.evaluations + 1) points es ++
      [summary (s.bred points g es).state])) (s.bred points g es) := by
  obtain ⟨tidy, counted, answered⟩ := h.2 evaluated
  refine ⟨fun hs => (by cases evaluated.symm.trans hs), fun _ => ⟨tidy_select tidy hl, ?_, ?_⟩⟩
  · exact counted_select counted tidy.aligned hl
  · intro r hr
    rcases List.mem_append.1 hr with hr | hr
    · exact (answered r hr).select tidy hl
    · rcases List.mem_append.1 hr with hr | hr
      · obtain ⟨k, number, hx, he⟩ := Batch.mem_records hr
        exact answered_trial tidy counted hl number (List.getElem?_zip_eq_some.2 ⟨hx, he⟩)
      · simp [summary] at hr

theorem accounted_invariant : Invariant usable (Accounted (α := α)) where
  log entry h := ⟨fun hs => ⟨(h.1 hs).1, (h.1 hs).2.1, fun r hr =>
      (h.1 hs).2.2 r (mem_append_log.1 hr)⟩,
    fun hs => ⟨(h.2 hs).1, (h.2 hs).2.1, fun r hr => (h.2 hs).2.2 r (mem_append_log.1 hr)⟩⟩
  frame _ _ _ h := ⟨h.1, fun hs => ⟨⟨(h.2 hs).1.1, (h.2 hs).1.2⟩, (h.2 hs).2⟩⟩
  started _ _ _ fresh h := ⟨h.1, fun hs => by cases fresh.symm.trans hs⟩
  first _ _ fresh hb h := accounted_commitFirst h fresh (Batch.length_of_evaluate hb)
  bred _ _ _ evaluated ht hb h := accounted_bred h evaluated (length_of_batch ht hb)

/-- **The best energy is at most every recorded one**, but for a gap.  Wherever the calls
of a user lead after a solver was made ready, and whatever values its batches came back
with: an evaluation that is recorded with a number is not below the best energy, provided
that the member whose turn it was has an energy that is a number. -/
theorem best_le_evaluated (s : Evolution α) (box : Option (Box α)) (size : Nat)
    (seed : Seed) (prepared : (s.prepare box size seed).result = .ok ())
    (events : List (Event α)) (t : Solver α)
    (run : Solver.Reached usable (.evolution (s.prepare box size seed).after) events t) :
    ∃ s', t = .evolution s' ∧ ∀ r, Event.evaluated r ∈ events → r.energy.isNaN = false →
      (∃ e, turnOf s'.state r.evaluations = some e ∧ e.isNaN = true) ∨
        s'.state.bestEnergy ≤ r.energy := by
  obtain ⟨generator, population, start⟩ := prepare_ok prepared
  have atStart : Accounted [] (s.prepare box size seed).after := by
    rw [start]
    exact ⟨fun _ => ⟨rfl, rfl, fun r hr => by cases hr⟩, fun hs => by cases hs⟩
  obtain ⟨s', rfl, unevaluated, accounted⟩ :=
    accounted_invariant.of_reached atStart run
  refine ⟨s', rfl, fun r hr number => ?_⟩
  cases evaluated : s'.evaluated with
  | false => exact absurd hr ((unevaluated evaluated).2.2 r)
  | true =>
      rcases (accounted evaluated).2.2 r hr with h | h | h
      · rw [number] at h
        cases h
      · exact Or.inr h
      · exact Or.inl h

/-! ### A run that loses the only number it met -/

/-- The conditions of `best_le_evaluated` are met by a step of four members on a line, with
an objective that has a value far to the left only. -/
theorem best_le_evaluated_fourMembers :
    ∃ s', ((Solver.evolution fourMembers).step (.ofFunction scarce) 0).1.after = .evolution s' ∧
      ∀ r, Event.evaluated r ∈ ((Solver.evolution fourMembers).step (.ofFunction scarce) 0).1.events →
        r.energy.isNaN = false →
          (∃ e, turnOf s'.state r.evaluations = some e ∧ e.isNaN = true) ∨
            s'.state.bestEnergy ≤ r.energy := by
  obtain ⟨_, prepared⟩ := exists_ok_of_isOk
    (r := ((standard 1 false).prepare none 4 (.number 1)).result) (by decide +kernel)
  have run : Solver.Reached (·.AgreesWith scarce) (.evolution fourMembers) _ _ :=
    .stepped 0 .start (Objective.ofFunction_agreesWith scarce)
  have h := best_le_evaluated (standard 1 false) none 4 (.number 1) prepared _ _ run
  rw [List.nil_append] at h
  exact h

/-- The best energy is not at most every number that was met: no member has an energy
here, one trial does, and it is dropped because the energy of its target is missing. -/
theorem best_not_le_evaluated :
    (∃ b, (fourMembers.step (.ofFunction scarce) 0).1.result = .ok b) ∧
      ∃ r, Event.evaluated r ∈ (fourMembers.step (.ofFunction scarce) 0).1.events ∧
        r.energy.isNaN = false ∧
        ¬ (fourMembers.step (.ofFunction scarce) 0).1.after.state.bestEnergy ≤ r.energy := by
  refine ⟨exists_ok_of_isOk (by decide +kernel), ?_⟩
  obtain ⟨r, hr, hp⟩ := exists_evaluated_of_any
    (l := (fourMembers.step (.ofFunction scarce) 0).1.events) (p := fun r => !r.energy.isNaN &&
      !decide ((fourMembers.step (.ofFunction scarce) 0).1.after.state.bestEnergy ≤ r.energy))
    (by decide +kernel)
  simp only [Bool.and_eq_true, Bool.not_eq_true', decide_eq_false_iff_not] at hp
  exact ⟨r, hr, hp⟩

end Evolution
end BoxSearch

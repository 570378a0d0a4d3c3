import BoxSearch.Proofs.Criterion.Memoryless

/-!
# Criteria that do not look at coordinates

Of all tests only that of a collapse reads the members of the population.  A criterion
without it cannot tell two states apart that agree on everything else: it gives the same
answer, remembers the same, and meets the same faults (`askWatch_of_sameNumbers`).
-/

namespace BoxSearch

/-- Whether a test leaves the coordinates of the members alone. -/
def Test.coordinateFree : Test → Bool
  | .collapse .. => false
  | _ => true

/-- Two states are the same to everyone who does not look at coordinates. -/
structure State.SameNumbers {α : Type} (s t : State α) : Prop where
  generation : t.generation = s.generation
  evaluations : t.evaluations = s.evaluations
  energies : t.energies = s.energies
  bestEnergy : t.bestEnergy = s.bestEnergy
  status : t.status = s.status

variable {α : Type} [Scalar α] {s t : State α} {p : Test → Bool}

theorem Test.look_of_sameNumbers {c : Test} (free : c.coordinateFree = true)
    (h : s.SameNumbers t) (m : Memory) : c.look t m = c.look s m := by
  cases c with
  | collapse xtol ftol => cases free
  | _ => simp only [Test.look, h.generation, h.evaluations, h.energies, h.bestEnergy]

namespace Watch

/-! ## States that look the same -/

mutual

/-- A watch whose tests see no difference between two states sees none. -/
theorem ask_of_seen (seen : ∀ c : Test, p c = true → ∀ m, c.look t m = c.look s m) :
    ∀ w : Watch, w.criterion.every p = true → w.ask t = w.ask s
  | .test c m, h => by rw [ask, ask, seen c h m]
  | .any members _, h => by rw [ask, ask, askAny_of_seen seen 0 members h]
  | .all members, h => by rw [ask, ask, askAll_of_seen seen members h]

theorem askAny_of_seen (seen : ∀ c : Test, p c = true → ∀ m, c.look t m = c.look s m)
    (i : Nat) :
    ∀ ws : List Watch, Criterion.everyOne p (criteria ws) = true → askAny t i ws = askAny s i ws
  | [], _ => rfl
  | w :: ws, h => by
      obtain ⟨hw, hws⟩ := Bool.and_eq_true_iff.1 h
      rw [askAny, askAny, ask_of_seen seen w hw, askAny_of_seen seen (i + 1) ws hws]

theorem askAll_of_seen (seen : ∀ c : Test, p c = true → ∀ m, c.look t m = c.look s m) :
    ∀ ws : List Watch, Criterion.everyOne p (criteria ws) = true → askAll t ws = askAll s ws
  | [], _ => rfl
  | w :: ws, h => by
      obtain ⟨hw, hws⟩ := Bool.and_eq_true_iff.1 h
      rw [askAll, askAll, ask_of_seen seen w hw, askAll_of_seen seen ws hws]

end

mutual

theorem fault?_of_seen (seen : ∀ c : Test, p c = true → ∀ m, c.look t m = c.look s m) :
    ∀ w : Watch, w.criterion.every p = true → w.fault? t = w.fault? s
  | .test _ _, _ => rfl
  | .any members _, h => by rw [fault?, fault?, faultAny?_of_seen seen members h]
  | .all members, h => by rw [fault?, fault?, faultAll?_of_seen seen members h]

theorem faultAny?_of_seen (seen : ∀ c : Test, p c = true → ∀ m, c.look t m = c.look s m) :
    ∀ ws : List Watch, Criterion.everyOne p (criteria ws) = true →
      faultAny? t ws = faultAny? s ws
  | [], _ => rfl
  | w :: ws, h => by
      obtain ⟨hw, hws⟩ := Bool.and_eq_true_iff.1 h
      rw [faultAny?, faultAny?, fault?_of_seen seen w hw, ask_of_seen seen w hw,
        faultAny?_of_seen seen ws hws]

theorem faultAll?_of_seen (seen : ∀ c : Test, p c = true → ∀ m, c.look t m = c.look s m) :
    ∀ ws : List Watch, Criterion.everyOne p (criteria ws) = true →
      faultAll? t ws = faultAll? s ws
  | [], _ => rfl
  | w :: ws, h => by
      obtain ⟨hw, hws⟩ := Bool.and_eq_true_iff.1 h
      rw [faultAll?, faultAll?, fault?_of_seen seen w hw, ask_of_seen seen w hw,
        faultAll?_of_seen seen ws hws]

end

end Watch

/-- **A criterion that does not look at coordinates** answers alike on states that differ in
nothing else. -/
theorem askWatch_of_sameNumbers {w : Option Watch} (free : Watch.Tests Test.coordinateFree w)
    (h : s.SameNumbers t) : askWatch t w = askWatch s w := by
  cases w with
  | none => rfl
  | some w =>
      have seen (c : Test) (hc : c.coordinateFree = true) (m : Memory) :
          c.look t m = c.look s m := Test.look_of_sameNumbers hc h m
      have hw : w.criterion.every Test.coordinateFree = true := free _ rfl
      simp only [askWatch, Watch.answer, Watch.ask_of_seen seen w hw,
        Watch.fault?_of_seen seen w hw]

end BoxSearch

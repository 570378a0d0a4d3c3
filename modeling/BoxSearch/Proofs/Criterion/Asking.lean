import BoxSearch.Solver.Basic

/-!
# Asking a criterion twice

A criterion with a memory is changed by being asked.  What makes it safe to ask
again after a generation was taken back is that it takes in one observation per
generation: asked a second time on the same state it gives the same answer, for the
same reason, and is not changed any more.

* `Test.look_look` says so of a single test,
* `Watch.ask_ask` of a tree of them, whose nodes stop asking at the first member that
  decides, and
* `askWatch_askWatch` of the question as a solver puts it.
-/

namespace BoxSearch

variable {α : Type} [Scalar α]

/-! ## Tests -/

namespace Memory

theorem observe_observe (m : Memory) (length generation : Nat) (best : Float) :
    (m.observe length generation best).observe length generation best =
      m.observe length generation best := by
  by_cases h : m.lastGeneration = some generation
  · simp only [observe, if_pos h]
  · simp only [observe, if_neg h, if_true]

theorem track_track (m : Memory) (generation : Nat) (best : Float) :
    (m.track generation best).track generation best = m.track generation best := by
  by_cases h : m.lastGeneration = some generation
  · simp only [track, if_pos h]
  · have hg : (m.track generation best).lastGeneration = some generation := by
      simp only [track, if_neg h]
      split
      · split <;> rfl
      · rfl
    rw [track, if_pos hg]

end Memory

/-- A test that looks again at the same state sees what it saw. -/
theorem Test.look_look (s : State α) (m : Memory) (t : Test) :
    t.look s (t.look s m).2 = t.look s m := by
  cases t with
  | change tolerance generations =>
      cases he : (m.observe (lookBack generations + 1) s.generation s.bestEnergy).ends
        (lookBack generations + 1) <;> simp only [look, he, Memory.observe_observe]
  | relativeChange tolerance generations =>
      cases he : (m.observe (lookBack generations + 1) s.generation s.bestEnergy).ends
        (lookBack generations + 1) <;> simp only [look, he, Memory.observe_observe]
  | stagnation generations => simp only [look, Memory.track_track]
  | energyDeviation tol atol =>
      simp only [look]
      split <;> rfl
  | _ => rfl

/-! ## Trees -/

namespace Watch

mutual

/-- A watch that is asked again on the same state answers as before and stays as it
is. -/
theorem ask_ask (s : State α) : ∀ w : Watch, (w.ask s).2.ask s = w.ask s
  | .test t m => by simp only [ask, Test.look_look]
  | .any members fired => by simp only [ask, askAny_askAny s 0 members]
  | .all members => by
      simp only [ask, askAll_askAll s members]
      cases members with
      | nil => rfl
      | cons w ws =>
        simp only [askAll]
        split <;> rfl

theorem askAny_askAny (s : State α) (i : Nat) :
    ∀ ws : List Watch, askAny s i (askAny s i ws).2 = askAny s i ws
  | [] => rfl
  | w :: ws => by
      have hw := ask_ask s w
      have hws := askAny_askAny s (i + 1) ws
      cases ha : (w.ask s).1 with
      | true => simp only [askAny, ha, if_true, hw]
      | false => simp only [askAny, ha, Bool.false_eq_true, if_false, hw, hws]

theorem askAll_askAll (s : State α) :
    ∀ ws : List Watch, askAll s (askAll s ws).2 = askAll s ws
  | [] => rfl
  | w :: ws => by
      have hw := ask_ask s w
      have hws := askAll_askAll s ws
      cases ha : (w.ask s).1 with
      | true => simp only [askAll, ha, if_true, hw, hws]
      | false => simp only [askAll, ha, Bool.false_eq_true, if_false, hw]

end

mutual

/-- Asking does not change which questions have no answer. -/
theorem fault?_ask (s : State α) : ∀ w : Watch, (w.ask s).2.fault? s = w.fault? s
  | .test t m => rfl
  | .any members fired => by simp only [ask, fault?, faultAny?_askAny s 0 members]
  | .all members => by simp only [ask, fault?, faultAll?_askAll s members]

theorem faultAny?_askAny (s : State α) (i : Nat) :
    ∀ ws : List Watch, faultAny? s (askAny s i ws).2 = faultAny? s ws
  | [] => rfl
  | w :: ws => by
      have hw := fault?_ask s w
      have hws := faultAny?_askAny s (i + 1) ws
      cases ha : (w.ask s).1 with
      | true => simp only [askAny, ha, if_true, faultAny?, hw, ask_ask]
      | false => simp only [askAny, ha, Bool.false_eq_true, if_false, faultAny?, hw, ask_ask, hws]

theorem faultAll?_askAll (s : State α) :
    ∀ ws : List Watch, faultAll? s (askAll s ws).2 = faultAll? s ws
  | [] => rfl
  | w :: ws => by
      have hw := fault?_ask s w
      have hws := faultAll?_askAll s ws
      cases ha : (w.ask s).1 with
      | true => simp only [askAll, ha, if_true, faultAll?, hw, ask_ask, hws]
      | false => simp only [askAll, ha, Bool.false_eq_true, if_false, faultAll?, hw, ask_ask]

end

/-- The first watch that fires stands at its place or after it. -/
theorem le_of_askAny {s : State α} {i k : Nat} {ws : List Watch}
    (h : (askAny s i ws).1 = some k) : i ≤ k := by
  induction ws generalizing i with
  | nil => cases h
  | cons w ws ih =>
      cases ha : (w.ask s).1 with
      | true =>
          simp only [askAny, ha, if_true, Option.some.injEq] at h
          omega
      | false =>
          simp only [askAny, ha, Bool.false_eq_true, if_false] at h
          have := ih h
          omega

theorem answer_answer {s : State α} {w w' : Watch} {stop : Bool}
    (h : w.answer s = .ok (stop, w')) : w'.answer s = .ok (stop, w') := by
  unfold answer at h
  split at h
  · cases h
  · next hf =>
      have hw : w.ask s = (stop, w') := Except.ok.inj h
      have hw' : (w.ask s).2 = w' := by rw [hw]
      unfold answer
      rw [← hw', fault?_ask, hf, ask_ask, hw]

end Watch

/-! ## The question of a solver -/

/-- **A criterion that was asked is asked again for nothing.**  The reason to stop is
the same, and so is what the criterion remembers. -/
theorem askWatch_askWatch {s : State α} {w w' : Option Watch} {reason : Option String}
    (h : askWatch s w = .ok (reason, w')) : askWatch s w' = .ok (reason, w') := by
  cases w with
  | none => cases h; rfl
  | some w =>
      simp only [askWatch] at h
      cases ha : w.answer s with
      | error f => rw [ha] at h; cases h
      | ok p =>
          obtain ⟨stop, v⟩ := p
          rw [ha] at h
          cases h
          simp only [askWatch, Watch.answer_answer ha]

/-- A criterion that has no answer met a fault. -/
theorem fault_of_askWatch {s : State α} {w : Option Watch} {e : SolverError}
    (h : askWatch s w = .error e) : ∃ c, e = .fault c := by
  cases w with
  | none => cases h
  | some w =>
      simp only [askWatch] at h
      cases ha : w.answer s with
      | error f =>
          rw [ha] at h
          cases h
          exact ⟨f, rfl⟩
      | ok p => rw [ha] at h; cases h

/-- Asking neither installs a criterion nor takes one out. -/
theorem isSome_of_askWatch {s : State α} {w w' : Option Watch} {reason : Option String}
    (h : askWatch s w = .ok (reason, w')) : w'.isSome = w.isSome := by
  cases w with
  | none => cases h; rfl
  | some w =>
      simp only [askWatch] at h
      cases ha : w.answer s with
      | error f => rw [ha] at h; cases h
      | ok p => rw [ha] at h; cases h; rfl

end BoxSearch

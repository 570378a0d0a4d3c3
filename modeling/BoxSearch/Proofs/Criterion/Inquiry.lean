import BoxSearch.Proofs.Criterion.Memoryless

/-!
# Series of questions

A solver asks its criterion about one state after the other, and now and then about the same
state again: a generation that failed is made once more, and a run that was interrupted goes
on where it stood.  This file follows a watch through such a series, whatever its answers are,
and writes down what it says.

* `Watch.inquire` — what a watch says to each state of a series, answer and reason, and the
  watch afterwards; a question that has no answer ends the series with its fault.
* `length_said` — a criterion whose windows can be counted is asked to the end of a series.
* `inquire_repeated` — a question that is put twice in a row is answered twice alike, and
  leaves no trace: the rest of the series is the same as if it had been put once.
* `stops_test` — a single test answers by the state and by what it remembers of the states
  before it, which is `Test.remember`.
-/

namespace BoxSearch

/-- What came of a series of questions. -/
structure Inquiry where
  /-- the answers in order, each with the reason the watch gave after it -/
  said : List (Bool × String)
  /-- the watch afterwards, or the fault that ended the series -/
  after : Except Fault Watch

namespace Inquiry

/-- Whether the question at a place of the series was answered with a stop. -/
def stops (q : Inquiry) (i : Nat) : Bool := q.said[i]?.any Prod.fst

/-- The outcome of a series in which the question at a place was put once more: what is said
to it is said twice, if it has an answer. -/
def doubled (q : Inquiry) (i : Nat) : Inquiry :=
  ⟨q.said.take (i + 1) ++ q.said.drop i, q.after⟩

end Inquiry

namespace Watch

variable {α : Type} [Scalar α]

/-- Asks about one state after the other, whatever the answers are. -/
def inquire (w : Watch) : List (State α) → Inquiry
  | [] => ⟨[], .ok w⟩
  | s :: states =>
    match w.answer s with
    | .error f => ⟨[], .error f⟩
    | .ok (stop, w) =>
      let rest := w.inquire states
      ⟨(stop, w.reason) :: rest.said, rest.after⟩

theorem inquire_of_fault {s : State α} {w : Watch} {f : Fault} (h : w.answer s = .error f)
    (states : List (State α)) : w.inquire (s :: states) = ⟨[], .error f⟩ := by
  simp only [inquire, h]

theorem inquire_of_answer {s : State α} {w w' : Watch} {stop : Bool}
    (h : w.answer s = .ok (stop, w')) (states : List (State α)) :
    w.inquire (s :: states) =
      ⟨(stop, w'.reason) :: (w'.inquire states).said, (w'.inquire states).after⟩ := by
  simp only [inquire, h]

/-- **A criterion whose windows can be counted is asked to the end of a series.** -/
theorem length_said {w : Watch} (faultless : w.criterion.faultless = true)
    (states : List (State α)) : (w.inquire states).said.length = states.length := by
  induction states generalizing w with
  | nil => rfl
  | cons s states ih =>
      have answered : w.answer s = .ok ((w.ask s).1, (w.ask s).2) := by
        rw [answer, fault?_of_faultless faultless s]
      have same : (w.ask s).2.criterion.faultless = true := by rwa [criterion_ask]
      rw [inquire_of_answer answered, List.length_cons, List.length_cons, ih same]

/-! ## The same question again -/

/-- A question that is put a second time at once only doubles what is said to it. -/
theorem inquire_twice (w : Watch) (s : State α) (later : List (State α)) :
    w.inquire (s :: s :: later) = (w.inquire (s :: later)).doubled 0 := by
  cases ha : w.answer s with
  | error f =>
      rw [inquire_of_fault ha, inquire_of_fault ha]
      rfl
  | ok p =>
      obtain ⟨stop, w'⟩ := p
      have again : w'.answer s = .ok (stop, w') := answer_answer ha
      rw [inquire_of_answer ha, inquire_of_answer again, inquire_of_answer ha]
      rfl

/-- The same in the middle of a series. -/
theorem inquire_append_twice (w : Watch) (history : List (State α)) (s : State α)
    (later : List (State α)) :
    w.inquire (history ++ s :: s :: later) =
      (w.inquire (history ++ s :: later)).doubled history.length := by
  induction history generalizing w with
  | nil => exact inquire_twice w s later
  | cons t history ih =>
      rw [List.cons_append, List.cons_append]
      cases ha : w.answer t with
      | error f =>
          rw [inquire_of_fault ha, inquire_of_fault ha]
          rfl
      | ok p =>
          obtain ⟨stop, w'⟩ := p
          rw [inquire_of_answer ha, inquire_of_answer ha, ih w']
          rfl

/-- **Asking twice is harmless.**  A criterion whose windows can be counted answers every
question of a series.  Whatever a criterion was asked before, a question that is put twice in a
row gets the same answer both times, for the same reason, and the second time changes nothing:
what the criterion remembers is what one question left there, and so is everything it says in
the rest of the series. -/
theorem inquire_repeated (c : Criterion) (history : List (State α)) (s : State α) :
    (c.faultless = true → ∀ states : List (State α),
      ((ofCriterion c).inquire states).said.length = states.length) ∧
    (∀ w stop w', ((ofCriterion c).inquire history).after = .ok w → w.answer s = .ok (stop, w') →
      w'.answer s = .ok (stop, w')) ∧
    ∀ later, (ofCriterion c).inquire (history ++ s :: s :: later) =
      ((ofCriterion c).inquire (history ++ s :: later)).doubled history.length := by
  refine ⟨?_, ?_, ?_⟩
  · intro faultless states
    exact length_said (by rwa [criterion_ofCriterion]) states
  · intro w stop w' _ asked
    exact answer_answer asked
  · intro later
    exact inquire_append_twice (ofCriterion c) history s later

/-! ### Three states -/

/-- A state after some generations and evaluations, with the best energy so far. -/
def stateSeen (generation evaluations : Nat) (bestEnergy : Float) : State Float :=
  { State.empty 1 with generation, evaluations, bestEnergy }

/-- A tree with two tests that remember. -/
def twoMemories : Criterion :=
  .all [.any [.test (.stagnation 2), .test (.change 0.5 1)], .test (.maxEvaluations 20)]

/-- The third state is asked about twice, with energies that have come to rest: both times the
run is to stop, and the reason is said twice. -/
theorem inquire_repeated_twoMemories :
    twoMemories.faultless = true ∧
    ((ofCriterion twoMemories).inquire
      [stateSeen 1 8 4, stateSeen 2 16 2, stateSeen 3 24 2, stateSeen 3 24 2]).said.length = 4 ∧
    ∃ w w', ((ofCriterion twoMemories).inquire [stateSeen 1 8 4, stateSeen 2 16 2]).after =
        .ok w ∧
      w.answer (stateSeen 3 24 2) = .ok (true, w') ∧ w'.answer (stateSeen 3 24 2) = .ok (true, w') ∧
      ((ofCriterion twoMemories).inquire
          [stateSeen 1 8 4, stateSeen 2 16 2, stateSeen 3 24 2, stateSeen 3 24 2]).said =
        ((ofCriterion twoMemories).inquire
          [stateSeen 1 8 4, stateSeen 2 16 2, stateSeen 3 24 2]).said ++ [(true, w'.reason)] := by
  obtain ⟨answered, again, whole⟩ :=
    inquire_repeated twoMemories [stateSeen 1 8 4, stateSeen 2 16 2] (stateSeen 3 24 2)
  refine ⟨rfl, answered rfl _, _, _, rfl, rfl, again _ _ _ rfl rfl, ?_⟩
  exact congrArg Inquiry.said (whole [])

end Watch

/-! ## A single test -/

namespace Test

variable {α : Type} [Scalar α]

/-- What a test remembers after it has looked at some states, one after the other. -/
def remember (t : Test) (m : Memory) (states : List (State α)) : Memory :=
  states.foldl (fun m s => (t.look s m).2) m

theorem remember_concat (t : Test) (m : Memory) (states : List (State α)) (s : State α) :
    t.remember m (states ++ [s]) = (t.look s (t.remember m states)).2 := by
  simp only [remember, List.foldl_append, List.foldl_cons, List.foldl_nil]

end Test

namespace Watch

/-- The watch of a single test as it is made, or as a reset leaves it. -/
def Fresh (w : Watch) (t : Test) : Prop :=
  w = ofCriterion (.test t) ∨ ∃ m, w = (Watch.test t m).reset

theorem Fresh.eq_blank {w : Watch} {t : Test} (h : w.Fresh t) : w = .test t .blank := by
  rcases h with rfl | ⟨m, rfl⟩ <;> rfl

variable {α : Type} [Scalar α] {t : Test}

theorem answer_test (faultless : t.fault? = none) (s : State α) (m : Memory) :
    (Watch.test t m).answer s = .ok ((t.look s m).1, .test t (t.look s m).2) := by
  simp only [answer, fault?, faultless, ask]

/-- **A test answers by the state and by what it remembers** of the states before it. -/
theorem stops_test (faultless : t.fault? = none) (m : Memory) (states : List (State α)) {i : Nat}
    (h : i < states.length) :
    ((Watch.test t m).inquire states).stops i =
      (t.look states[i] (t.remember m (states.take i))).1 := by
  induction states generalizing m i with
  | nil => exact absurd h (Nat.not_lt_zero i)
  | cons s states ih =>
      rw [inquire_of_answer (answer_test faultless s m)]
      cases i with
      | zero => rfl
      | succ i => exact ih (t.look s m).2 (Nat.lt_of_succ_lt_succ h)

end Watch

end BoxSearch

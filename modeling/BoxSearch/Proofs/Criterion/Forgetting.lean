import BoxSearch.Proofs.Criterion.Inquiry

/-!
# Forgetting

A run that starts over resets the criterion of the one before.  This file says what is left of
the run before: nothing, whatever the criterion was asked and wherever it was reset on the way.

* `Watch.Used` — what a criterion that was built has become after some questions and resets;
* `criterion_of_used` — a question changes what is remembered and never what is watched;
* `reset_as_built` — after a reset the criterion is as it was built: it gives the same reason
  before it is asked anything, and says the same to every series of states.
-/

namespace BoxSearch

namespace Watch

variable {α : Type} [Scalar α]

/-- What a criterion that was built has become after some calls.  A question that ends in a
fault breaks off somewhere in the tree, and nothing is said about what it leaves in the
memories. -/
inductive Used (α : Type) [Scalar α] (c : Criterion) : Watch → Prop
  /-- no call was made -/
  | built : Used α c (ofCriterion c)
  /-- the last call was a question with an answer -/
  | asked {w w' : Watch} {s : State α} {stop : Bool} (before : Used α c w)
      (h : w.answer s = .ok (stop, w')) : Used α c w'
  /-- the last call was a question that broke off -/
  | brokenOff {w w' : Watch} {s : State α} {f : Fault} (before : Used α c w)
      (h : w.answer s = .error f) (same : w'.criterion = w.criterion) : Used α c w'
  /-- the last call was a reset -/
  | forgotten {w : Watch} (before : Used α c w) : Used α c w.reset

/-- A question does not change what is watched. -/
theorem criterion_of_answer {w w' : Watch} {s : State α} {stop : Bool}
    (h : w.answer s = .ok (stop, w')) : w'.criterion = w.criterion := by
  unfold answer at h
  split at h
  · cases h
  · have hw : w.ask s = (stop, w') := Except.ok.inj h
    rw [← criterion_ask s w, hw]

/-- **A criterion is the same after any calls**, its memories apart. -/
theorem criterion_of_used {c : Criterion} {w : Watch} (used : Used α c w) : w.criterion = c := by
  induction used with
  | built => exact criterion_ofCriterion c
  | asked before h ih => exact (criterion_of_answer h).trans ih
  | brokenOff before h same ih => exact same.trans ih
  | forgotten before ih => exact (criterion_reset _).trans ih

/-- A series of questions is a use of the criterion. -/
theorem Used.of_inquire {c : Criterion} {w w' : Watch} (used : Used α c w)
    {states : List (State α)} (h : (w.inquire states).after = .ok w') : Used α c w' := by
  induction states generalizing w with
  | nil =>
      cases h
      exact used
  | cons s states ih =>
      cases ha : w.answer s with
      | error f =>
          rw [inquire_of_fault ha] at h
          cases h
      | ok p =>
          rw [inquire_of_answer ha] at h
          exact ih (used.asked ha) h

/-- **A reset leaves no trace of what came before.**  Whatever a criterion was asked since it
was built, with whatever answers, faults and resets on the way, a reset makes it what it was
when it was built.  So it gives the reason of a criterion that was never asked, and it says to
every further series of states, answer for answer and reason for reason, what a criterion that
is built anew says, and ends the series like it. -/
theorem reset_as_built {c : Criterion} {w : Watch} (used : Used α c w) :
    w.reset = ofCriterion c ∧ w.reset.reason = (ofCriterion c).reason ∧
      ∀ states : List (State α), w.reset.inquire states = (ofCriterion c).inquire states := by
  have same : w.reset = ofCriterion c := by rw [reset_eq_ofCriterion, criterion_of_used used]
  refine ⟨same, ?_, ?_⟩
  · rw [same]
  · intro states
    rw [same]

/-- Two tests that have come to rest, asked about the last state once more: they would stop the
run again, and after a reset they do not, although it is a generation that they have seen. -/
theorem reset_as_built_twoMemories :
    ∃ w, Used Float twoMemories w ∧
      (w.inquire [stateSeen 3 24 2]).said.map Prod.fst = [true] ∧
      w.reset = ofCriterion twoMemories ∧
      (w.reset.inquire [stateSeen 3 24 2]).said.map Prod.fst = [false] := by
  obtain ⟨w, history, rested⟩ :
      ∃ w, ((ofCriterion twoMemories).inquire
          [stateSeen 1 8 4, stateSeen 2 16 2, stateSeen 3 24 2]).after = .ok w ∧
        (w.inquire [stateSeen 3 24 2]).said.map Prod.fst = [true] := ⟨_, rfl, rfl⟩
  have used : Used Float twoMemories w := .of_inquire .built history
  obtain ⟨same, _, again⟩ := reset_as_built used
  refine ⟨w, used, rested, same, ?_⟩
  rw [again]
  rfl

end Watch

end BoxSearch

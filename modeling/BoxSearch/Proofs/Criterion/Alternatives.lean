import BoxSearch.Proofs.Solver.Caps
import Mathlib.Data.List.MinMax

/-!
# A criterion that stops with the first of its alternatives

An `any` node stops a run when one of its members does, and it asks them from left to right
only up to the first that fires.  So a member with a memory may miss a state.  That does no
harm as long as nothing has fired: until then every member was asked about every state, and
remembers what it would remember if it had been asked alone.

* `Watch.ending` — a criterion is asked about one state after the other until it stops: where
  that happens, and why.  A question can also meet a fault, and then the series ends there.
* `Criterion.alternatives` — the criteria below the `any` nodes at the top of a tree, however
  deep these are nested, from left to right.
* `ending_eq_argmin` — a criterion ends where the first of its alternatives ends when it is
  asked alone; of several that end together it is the leftmost one, and the reason is its.
* `broken_window_hides_later_member` — a window that cannot be counted ends the series with a
  fault, also where a member to the right of it would have stopped the run.
-/

namespace BoxSearch

/-! ## Series of questions -/

/-- The end of a series of questions. -/
structure Ending where
  /-- the number of questions before the one that ended the series -/
  place : Nat
  /-- the reason to stop, or the fault that the question met -/
  verdict : Except Fault String

namespace Ending

/-- The same end with one question more before it. -/
def later (e : Ending) : Ending := { e with place := e.place + 1 }

/-- The series ended with a reason to stop. -/
def Fires (e : Ending) : Prop := ∃ reason, e.verdict = .ok reason

end Ending

namespace Watch

variable {α : Type} [Scalar α]

/-- What a question about a state decides, if it decides anything: that the run stops, with
the reason, or that there is no answer. -/
def verdict? (s : State α) (w : Watch) : Option (Except Fault String) :=
  match w.answer s with
  | .error f => some (.error f)
  | .ok (stop, w) => if stop then some (.ok w.reason) else none

/-- Where a series of questions ends, one about each state and in order, if it ends: at the
first one that stops the run, or that has no answer. -/
def ending (w : Watch) : List (State α) → Option Ending
  | [] => none
  | s :: states =>
    match w.answer s with
    | .error f => some ⟨0, .error f⟩
    | .ok (true, w) => some ⟨0, .ok w.reason⟩
    | .ok (false, w) => (w.ending states).map .later

theorem ending_of_verdict {s : State α} {w : Watch} {v : Except Fault String}
    (h : w.verdict? s = some v) (states : List (State α)) :
    w.ending (s :: states) = some ⟨0, v⟩ := by
  cases ha : w.answer s with
  | error f =>
      simp only [verdict?, ha, Option.some.injEq] at h
      simp only [ending, ha, h]
  | ok p =>
      obtain ⟨stop, w'⟩ := p
      cases stop with
      | true =>
          simp only [verdict?, ha, if_true, Option.some.injEq] at h
          simp only [ending, ha, h]
      | false =>
          simp only [verdict?, ha] at h
          cases h

/-- A question that decides nothing has an answer, and the series goes on after it. -/
theorem ending_of_undecided {s : State α} {w : Watch} (h : w.verdict? s = none)
    (states : List (State α)) :
    w.ending (s :: states) = ((w.ask s).2.ending states).map .later := by
  cases hf : w.fault? s with
  | some f =>
      simp only [verdict?, answer, hf] at h
      cases h
  | none =>
      cases ha : w.ask s with
      | mk stop w' =>
          cases stop with
          | true =>
              simp only [verdict?, answer, hf, ha] at h
              cases h
          | false => simp only [ending, answer, hf, ha]

/-! ## Alternatives -/

mutual

/-- The watches below the `any` nodes at the top of a tree, from left to right. -/
def alternatives : Watch → List Watch
  | .any members _ => alternativesAll members
  | w => [w]

/-- The alternatives of several watches, one after the other. -/
def alternativesAll : List Watch → List Watch
  | [] => []
  | w :: ws => alternatives w ++ alternativesAll ws

end

/-- What members asked from left to right decide about a state, if anything; the place of
the first of them is `i`. -/
def verdictAny? (s : State α) (i : Nat) (ws : List Watch) : Option (Except Fault String) :=
  match faultAny? s ws with
  | some f => some (.error f)
  | none => (askAny s i ws).1.map fun k => .ok (reasonAt (k - i) (askAny s i ws).2)

/-- An `any` node decides what its members decide. -/
theorem verdict?_any (s : State α) (members : List Watch) (fired : Option Nat) :
    (Watch.any members fired).verdict? s = verdictAny? s 0 members := by
  cases hf : faultAny? s members with
  | some f => simp only [verdict?, answer, verdictAny?, fault?, hf]
  | none =>
      cases hk : askAny s 0 members with
      | mk k asked =>
          simp only [verdict?, answer, verdictAny?, fault?, hf, ask, hk]
          cases k <;> rfl

/-- The first of several members decides, and where it does not, the others do. -/
theorem verdictAny?_cons (s : State α) (i : Nat) (w : Watch) (ws : List Watch) :
    verdictAny? s i (w :: ws) = (w.verdict? s).or (verdictAny? s (i + 1) ws) := by
  unfold verdictAny? verdict? answer
  rw [faultAny?]
  cases w.fault? s with
  | some f => rfl
  | none =>
      rcases ha : w.ask s with ⟨stop, w'⟩
      cases stop with
      | true => simp [askAny, ha, reasonAt]
      | false =>
          simp only [askAny, ha, Bool.false_eq_true, if_false, Option.none_or]
          cases faultAny? s ws with
          | some f => rfl
          | none =>
              cases hk : (askAny s (i + 1) ws).1 with
              | none => rfl
              | some k =>
                  -- the place is counted from the second member on
                  have hle := le_of_askAny hk
                  simp only [Option.map_some]
                  rw [show k - i = k - (i + 1) + 1 by omega, reasonAt]

mutual

/-- **A watch decides what the first of its alternatives decides.** -/
theorem verdict?_eq_findSome? (s : State α) :
    ∀ w : Watch, w.verdict? s = w.alternatives.findSome? (verdict? s)
  | .test t m => by
      rw [alternatives, List.findSome?_singleton]
      nofun
  | .all members => by
      rw [alternatives, List.findSome?_singleton]
      nofun
  | .any members fired => by
      rw [alternatives, verdict?_any, verdictAny?_eq_findSome? s 0 members]

theorem verdictAny?_eq_findSome? (s : State α) (i : Nat) :
    ∀ ws : List Watch, verdictAny? s i ws = (alternativesAll ws).findSome? (verdict? s)
  | [] => rfl
  | w :: ws => by
      rw [verdictAny?_cons, alternativesAll, List.findSome?_append, verdict?_eq_findSome? s w,
        verdictAny?_eq_findSome? s (i + 1) ws]

end

/-! ## Memories while nothing fires -/

theorem ask_of_undecided {s : State α} {w : Watch} (h : w.verdict? s = none) :
    (w.ask s).1 = false := by
  cases hf : w.fault? s with
  | some f =>
      simp only [verdict?, answer, hf] at h
      cases h
  | none =>
      cases ha : (w.ask s).1 with
      | false => rfl
      | true =>
          simp only [verdict?, answer, hf, ha, if_true] at h
          cases h

mutual

/-- **As long as nothing is decided, every alternative is asked**, and remembers what it would
remember if it had been asked alone. -/
theorem alternatives_ask (s : State α) :
    ∀ w : Watch, w.verdict? s = none →
      (w.ask s).2.alternatives = w.alternatives.map fun v => (v.ask s).2
  | .test _ _, _ => rfl
  | .all _, _ => rfl
  | .any members _, h => alternativesAll_ask s 0 members (verdict?_any s members _ ▸ h)

theorem alternativesAll_ask (s : State α) (i : Nat) :
    ∀ ws : List Watch, verdictAny? s i ws = none →
      alternativesAll (askAny s i ws).2 = (alternativesAll ws).map fun v => (v.ask s).2
  | [], _ => rfl
  | w :: ws, h => by
      rw [verdictAny?_cons, Option.or_eq_none_iff] at h
      obtain ⟨hw, hws⟩ := h
      simp only [askAny, ask_of_undecided hw, Bool.false_eq_true, if_false, alternativesAll,
        List.map_append, alternatives_ask s w hw, alternativesAll_ask s (i + 1) ws hws]

end

/-! ## The first of several ends -/

/-- Ends after one question more are compared as they were. -/
theorem argmin_map_later (ends : List Ending) :
    (ends.map .later).argmin Ending.place = (ends.argmin Ending.place).map .later := by
  induction ends with
  | nil => rfl
  | cons e ends ih =>
      rw [List.map_cons, List.argmin_cons, List.argmin_cons, ih]
      cases ends.argmin Ending.place with
      | none => rfl
      | some first =>
          simp only [Option.map_some, Ending.later, Nat.add_lt_add_iff_right]
          split <;> rfl

/-- An end at the first question comes before all later ones, wherever they stand, and before
those at the first question that stand to the right of it. -/
theorem argmin_of_first {before : List Ending} (later : ∀ e ∈ before, 0 < e.place)
    (v : Except Fault String) (behind : List Ending) :
    (before ++ ⟨0, v⟩ :: behind).argmin Ending.place = some ⟨0, v⟩ := by
  induction before with
  | nil =>
      rw [List.nil_append, List.argmin_cons]
      cases behind.argmin Ending.place with
      | none => rfl
      | some e => exact if_neg (Nat.not_lt_zero _)
  | cons e before ih =>
      rw [List.cons_append, List.argmin_cons, ih fun e he => later e (List.mem_cons_of_mem _ he)]
      exact if_pos (later e List.mem_cons_self)

/-- **A watch ends where the first of its alternatives ends.** -/
theorem ending_eq (states : List (State α)) (w : Watch) :
    w.ending states = (w.alternatives.filterMap (·.ending states)).argmin Ending.place := by
  induction states generalizing w with
  | nil => simp only [ending, List.filterMap_none, List.argmin_nil]
  | cons s states ih =>
      have decided := verdict?_eq_findSome? s w
      cases hv : w.verdict? s with
      | some v =>
          rw [hv] at decided
          obtain ⟨before, a, behind, halts, ha, quiet⟩ := List.findSome?_eq_some_iff.1 decided.symm
          simp only [ending_of_verdict hv, halts, List.filterMap_append, List.filterMap_cons,
            ending_of_verdict ha states]
          rw [argmin_of_first]
          intro e he
          obtain ⟨b, hb, hbe⟩ := List.mem_filterMap.1 he
          rw [ending_of_undecided (quiet b hb)] at hbe
          obtain ⟨e', -, rfl⟩ := Option.map_eq_some_iff.1 hbe
          exact Nat.succ_pos _
      | none =>
          rw [hv] at decided
          have quiet := List.findSome?_eq_none_iff.1 decided.symm
          rw [ending_of_undecided hv, ih, alternatives_ask s w hv, List.filterMap_map,
            ← argmin_map_later, List.map_filterMap]
          refine congrArg (List.argmin Ending.place) (List.filterMap_congr fun a ha => ?_)
          exact (ending_of_undecided (quiet a ha) states).symm

/-- A series of questions to a faultless criterion ends with a reason, if it ends. -/
theorem fires_of_faultless (states : List (State α)) {w : Watch}
    (faultless : w.criterion.faultless = true) {e : Ending} (h : w.ending states = some e) :
    e.Fires := by
  induction states generalizing w e with
  | nil => cases h
  | cons s states ih =>
      have answers := fault?_of_faultless faultless s
      cases ha : w.ask s with
      | mk stop w' =>
          have same : w'.criterion = w.criterion := by rw [← criterion_ask s w, ha]
          simp only [ending, answer, answers, ha] at h
          cases stop with
          | true =>
              cases h
              exact ⟨w'.reason, rfl⟩
          | false =>
              obtain ⟨e', he', rfl⟩ := Option.map_eq_some_iff.1 h
              have fires : e'.Fires := ih (same ▸ faultless) he'
              exact fires

end Watch

/-! ## Criteria -/

namespace Criterion

mutual

/-- The criteria below the `any` nodes at the top of a tree, from left to right. -/
def alternatives : Criterion → List Criterion
  | .any members => alternativesAll members
  | c => [c]

/-- The alternatives of several criteria, one after the other. -/
def alternativesAll : List Criterion → List Criterion
  | [] => []
  | c :: cs => alternatives c ++ alternativesAll cs

end

mutual

/-- What every test of a criterion has, every test of an alternative has. -/
theorem every_of_mem_alternatives {p : Test → Bool} {a : Criterion} :
    ∀ c : Criterion, c.every p = true → a ∈ c.alternatives → a.every p = true
  | .test _, h, ha => List.mem_singleton.1 ha ▸ h
  | .all _, h, ha => List.mem_singleton.1 ha ▸ h
  | .any members, h, ha => every_of_mem_alternativesAll members h ha

theorem every_of_mem_alternativesAll {p : Test → Bool} {a : Criterion} :
    ∀ cs : List Criterion, everyOne p cs = true → a ∈ alternativesAll cs → a.every p = true
  | [], _, ha => nomatch ha
  | c :: cs, h, ha => by
      obtain ⟨hc, hcs⟩ := Bool.and_eq_true_iff.1 h
      rcases List.mem_append.1 ha with ha | ha
      · exact every_of_mem_alternatives c hc ha
      · exact every_of_mem_alternativesAll cs hcs ha

end

mutual

theorem alternatives_ofCriterion :
    ∀ c : Criterion, (Watch.ofCriterion c).alternatives = c.alternatives.map .ofCriterion
  | .test _ => rfl
  | .all _ => rfl
  | .any members => alternativesAll_ofCriteria members

theorem alternativesAll_ofCriteria :
    ∀ cs : List Criterion,
      Watch.alternativesAll (Watch.ofCriteria cs) = (alternativesAll cs).map .ofCriterion
  | [] => rfl
  | c :: cs => by
      rw [Watch.ofCriteria, Watch.alternativesAll, alternatives_ofCriterion c,
        alternativesAll_ofCriteria cs, alternativesAll, List.map_append]

end

/-- Where a run would end by a criterion that is asked about one state after the other, from
a start with nothing observed. -/
def ending {α : Type} [Scalar α] (c : Criterion) (states : List (State α)) : Option Ending :=
  (Watch.ofCriterion c).ending states

/-- **A criterion stops with the first of its alternatives.**  Asked about one state after the
other, it ends where the first of its alternatives ends when that is asked alone about the same
states, and for its reason; where several end together, it is the leftmost of them, and where
none ends, neither does the criterion.  If the windows of the criterion can be counted, all
these ends are ends with a reason. -/
theorem ending_eq_argmin {α : Type} [Scalar α] (c : Criterion) (states : List (State α)) :
    c.ending states = (c.alternatives.filterMap (·.ending states)).argmin Ending.place ∧
      (c.faultless = true →
        ∀ a ∈ c :: c.alternatives, ∀ e, a.ending states = some e → e.Fires) := by
  constructor
  · rw [ending, Watch.ending_eq, alternatives_ofCriterion, List.filterMap_map]
    rfl
  · intro faultless a ha e he
    have inherited : a.faultless = true := by
      rcases List.mem_cons.1 ha with rfl | ha
      · exact faultless
      · exact every_of_mem_alternatives c faultless ha
    exact Watch.fires_of_faultless states ((Watch.criterion_ofCriterion a).symm ▸ inherited) he

/-! ### Three states -/

/-- A state after some generations and evaluations. -/
def stateAfter (generation evaluations : Nat) : State Float :=
  { State.empty 1 with generation, evaluations }

/-- A tree whose alternatives are nested, with a memory in one of them. -/
def nested : Criterion :=
  .any [.any [.test .never, .test (.change 1.0 3)],
    .all [.test (.maxGenerations 2), .test (.maxEvaluations 10)],
    .any [.any [.test (.maxGenerations 2)], .test (.maxGenerations 3)]]

/-- Two alternatives stop with the second state, and one with the third.  The tree stops with
the second state, and the reason is that of the first of the two. -/
theorem nested_ends_with_the_leftmost :
    (nested.alternatives.filterMap (·.ending [stateAfter 1 8, stateAfter 2 12,
        stateAfter 3 16])).map Ending.place = [1, 1, 2] ∧
      nested.ending [stateAfter 1 8, stateAfter 2 12, stateAfter 3 16] =
        some ⟨1, .ok "Maximum generations reached: 2 and Maximum evaluations reached: 10"⟩ ∧
      ∀ a ∈ nested :: nested.alternatives, ∀ e,
        a.ending [stateAfter 1 8, stateAfter 2 12, stateAfter 3 16] = some e → e.Fires := by
  obtain ⟨first, fires⟩ :=
    ending_eq_argmin nested [stateAfter 1 8, stateAfter 2 12, stateAfter 3 16]
  exact ⟨rfl, first, fires rfl⟩

/-! ### A window that cannot be counted -/

/-- A test of change over the largest number of generations there is, and after it a cap that
is reached. -/
def brokenFirst : Criterion :=
  .any [.test (.change 1.0 18446744073709551615), .test (.maxGenerations 0)]

/-- **A member that cannot be asked hides the members to the right of it**: the cap alone would
stop the run in the first state, and the tree meets a fault there. -/
theorem broken_window_hides_later_member :
    ∃ a ∈ brokenFirst.alternatives,
      a.ending [stateAfter 1 8] = some ⟨0, .ok "Maximum generations reached: 0"⟩ ∧
      brokenFirst.ending [stateAfter 1 8] = some ⟨0, .error .overflow⟩ ∧
      brokenFirst.faultless = false :=
  ⟨.test (.maxGenerations 0), List.mem_cons_of_mem _ List.mem_cons_self, rfl, rfl, rfl⟩

end Criterion

end BoxSearch

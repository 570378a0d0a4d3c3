import BoxSearch.Proofs.Criterion.Memoryless
import BoxSearch.Proofs.Energy.Matching

/-!
# Criteria that compare energies

Some tests read an energy for its size, and some only ask whether it is below another one,
or do not look at energies at all.  A criterion made of tests of the second kind is
`ordinal`: it cannot tell two runs apart whose energies compare alike.

`Watch.Matched` relates two watches of such runs: they watch the same criterion, and the
energies that they remember are matched.  `askWatch_matched` says that they answer the
same, with the same reason, and stay matched.
-/

namespace BoxSearch

/-- Whether a test reads energies only to compare them. -/
def Test.ordinal : Test → Bool
  | .maxGenerations _ | .maxEvaluations _ | .stagnation _ | .never => true
  | _ => false

theorem Test.fault?_of_ordinal {t : Test} (h : t.ordinal = true) : t.fault? = none := by
  cases t <;> first | rfl | cases h

/-- Two memories of a test of stagnation hold the same counts and matched energies. -/
structure Memory.Matched (ρ : Float → Float → Prop) (m m' : Memory) : Prop where
  lastGeneration : m'.lastGeneration = m.lastGeneration
  lowest : Option.Rel ρ m.lowest m'.lowest
  stale : m'.stale = m.stale

variable {α : Type} {ρ : Float → Float → Prop} {s t : State α}

namespace Memory

theorem matched_blank : Matched ρ blank blank := ⟨rfl, .none, rfl⟩

theorem track_matched {m m' : Memory} (hρ : Energy.Matching ρ) (h : m.Matched ρ m')
    (generation : Nat) {best best' : Float} (hb : ρ best best') :
    (m.track generation best).Matched ρ (m'.track generation best') := by
  obtain ⟨hg, hl, hs⟩ := h
  unfold track
  rw [hg]
  by_cases seen : m.lastGeneration = some generation
  · rw [if_pos seen, if_pos seen]
    exact ⟨hg, hl, hs⟩
  rw [if_neg seen, if_neg seen]
  generalize m.lowest = lowest, m'.lowest = lowest' at hl
  cases hl with
  | none => exact ⟨rfl, .some hb, rfl⟩
  | @some low low' hlow =>
      by_cases hle : low ≤ best
      · simp only [if_pos hle, if_pos ((hρ.le_iff hlow hb).1 hle)]
        exact ⟨rfl, .some hlow, congrArg (· + 1) hs⟩
      · simp only [if_neg hle, if_neg fun h => hle ((hρ.le_iff hlow hb).2 h)]
        exact ⟨rfl, .some hb, rfl⟩

end Memory

variable [Scalar α]

/-- An ordinal test does not tell matched states apart. -/
theorem Test.look_matched {t : Test} (ordinal : t.ordinal = true) (hρ : Energy.Matching ρ)
    {a b : State α} (hab : a.Matched ρ b) {m m' : Memory} (hm : m.Matched ρ m') :
    (t.look b m').1 = (t.look a m).1 ∧ (t.look a m).2.Matched ρ (t.look b m').2 := by
  cases t with
  | maxGenerations n => exact ⟨by simp only [look, hab.generation], hm⟩
  | maxEvaluations n => exact ⟨by simp only [look, hab.evaluations], hm⟩
  | stagnation n =>
      have tracked := Memory.track_matched hρ hm a.generation hab.bestEnergy
      simp only [look, hab.generation, tracked.stale]
      exact ⟨trivial, tracked⟩
  | never => exact ⟨rfl, hm⟩
  | valueToReach _ => cases ordinal
  | change _ _ => cases ordinal
  | relativeChange _ _ => cases ordinal
  | collapse _ _ => cases ordinal
  | energyDeviation _ _ => cases ordinal

namespace Watch

/-! ## Matched watches -/

mutual

/-- Two watches watch the same criterion and remember matched energies. -/
def Matched (ρ : Float → Float → Prop) : Watch → Watch → Prop
  | .test t m, .test t' m' => t' = t ∧ m.Matched ρ m'
  | .any members fired, .any members' fired' => fired' = fired ∧ MatchedAll ρ members members'
  | .all members, .all members' => MatchedAll ρ members members'
  | _, _ => False

/-- The same of several watches, one by one. -/
def MatchedAll (ρ : Float → Float → Prop) : List Watch → List Watch → Prop
  | [], [] => True
  | w :: ws, w' :: ws' => Matched ρ w w' ∧ MatchedAll ρ ws ws'
  | _, _ => False

end

mutual

/-- At the start of a run nothing is remembered. -/
theorem matched_ofCriterion : ∀ c : Criterion, Matched ρ (ofCriterion c) (ofCriterion c)
  | .test _ => ⟨rfl, Memory.matched_blank⟩
  | .any members => ⟨rfl, matchedAll_ofCriteria members⟩
  | .all members => matchedAll_ofCriteria members

theorem matchedAll_ofCriteria :
    ∀ cs : List Criterion, MatchedAll ρ (ofCriteria cs) (ofCriteria cs)
  | [] => trivial
  | c :: cs => ⟨matched_ofCriterion c, matchedAll_ofCriteria cs⟩

end

/-- Before a run two watches of one criterion are matched. -/
theorem map_reset_matched (w : Option Watch) :
    Option.Rel (Matched ρ) (w.map reset) (w.map reset) := by
  cases w with
  | none => exact .none
  | some w =>
      rw [Option.map_some, reset_eq_ofCriterion]
      exact .some (matched_ofCriterion w.criterion)

mutual

theorem criterion_of_matched : ∀ w w' : Watch, Matched ρ w w' → w'.criterion = w.criterion
  | .test _ _, .test _ _, h => congrArg Criterion.test h.1
  | .any ms _, .any ms' _, h => congrArg Criterion.any (criteria_of_matched ms ms' h.2)
  | .all ms, .all ms', h => congrArg Criterion.all (criteria_of_matched ms ms' h)
  | .test .., .any .., h | .test .., .all .., h | .any .., .test .., h | .any .., .all .., h
  | .all .., .test .., h | .all .., .any .., h => by cases h

theorem criteria_of_matched :
    ∀ ws ws' : List Watch, MatchedAll ρ ws ws' → criteria ws' = criteria ws
  | [], [], _ => rfl
  | w :: ws, w' :: ws', h => by
      rw [criteria, criteria, criterion_of_matched w w' h.1, criteria_of_matched ws ws' h.2]
  | [], _ :: _, h | _ :: _, [], h => by cases h

end

mutual

/-- Matched watches speak with one voice. -/
theorem reason_of_matched : ∀ w w' : Watch, Matched ρ w w' → w'.reason = w.reason
  | .test _ _, .test _ _, h => congrArg Test.reason h.1
  | .any ms fired, .any ms' fired', h => by
      obtain ⟨rfl, hm⟩ := h
      cases fired' with
      | none => rfl
      | some i => exact reasonAt_of_matched i ms ms' hm
  | .all ms, .all ms', h => congrArg (" and ".intercalate ·) (reasons_of_matched ms ms' h)
  | .test .., .any .., h | .test .., .all .., h | .any .., .test .., h | .any .., .all .., h
  | .all .., .test .., h | .all .., .any .., h => by cases h

theorem reasonAt_of_matched : ∀ (i : Nat) (ws ws' : List Watch), MatchedAll ρ ws ws' →
    reasonAt i ws' = reasonAt i ws
  | _, [], [], _ => rfl
  | 0, w :: _, w' :: _, h => reason_of_matched w w' h.1
  | i + 1, _ :: ws, _ :: ws', h => reasonAt_of_matched i ws ws' h.2
  | _, [], _ :: _, h | _, _ :: _, [], h => by cases h

theorem reasons_of_matched : ∀ ws ws' : List Watch, MatchedAll ρ ws ws' →
    reasons ws' = reasons ws
  | [], [], _ => rfl
  | w :: ws, w' :: ws', h => by
      rw [reasons, reasons, reason_of_matched w w' h.1, reasons_of_matched ws ws' h.2]
  | [], _ :: _, h | _ :: _, [], h => by cases h

end

/-! ## Asking -/

mutual

/-- **Ordinal watches of matched runs answer the same**, and stay matched. -/
theorem ask_matched (hρ : Energy.Matching ρ) (hs : s.Matched ρ t) : ∀ w w' : Watch,
    w.criterion.every Test.ordinal = true → Matched ρ w w' →
      (w'.ask t).1 = (w.ask s).1 ∧ Matched ρ (w.ask s).2 (w'.ask t).2
  | .test x m, .test x' m', ordinal, h => by
      obtain ⟨rfl, hm⟩ := h
      obtain ⟨answer, memory⟩ := Test.look_matched ordinal hρ hs hm
      exact ⟨answer, rfl, memory⟩
  | .any ms _, .any ms' _, ordinal, h => by
      obtain ⟨fired, matched⟩ := askAny_matched hρ hs 0 ms ms' ordinal h.2
      exact ⟨congrArg Option.isSome fired, fired, matched⟩
  | .all ms, .all ms', ordinal, h => by
      obtain ⟨answer, matched⟩ := askAll_matched hρ hs ms ms' ordinal h
      refine ⟨?_, matched⟩
      simp only [ask, answer]
      cases ms <;> cases ms' <;> first | rfl | cases h
  | .test .., .any .., _, h | .test .., .all .., _, h | .any .., .test .., _, h
  | .any .., .all .., _, h | .all .., .test .., _, h | .all .., .any .., _, h => by cases h

theorem askAny_matched (hρ : Energy.Matching ρ) (hs : s.Matched ρ t) (i : Nat) :
    ∀ ws ws' : List Watch, Criterion.everyOne Test.ordinal (criteria ws) = true →
      MatchedAll ρ ws ws' →
        (askAny t i ws').1 = (askAny s i ws).1 ∧
          MatchedAll ρ (askAny s i ws).2 (askAny t i ws').2
  | [], [], _, _ => ⟨rfl, trivial⟩
  | w :: ws, w' :: ws', ordinal, h => by
      obtain ⟨hw, hws⟩ := Bool.and_eq_true_iff.1 ordinal
      obtain ⟨answer, matched⟩ := ask_matched hρ hs w w' hw h.1
      obtain ⟨fired, rest⟩ := askAny_matched hρ hs (i + 1) ws ws' hws h.2
      cases ha : (w.ask s).1 with
      | true =>
          simp only [askAny, answer, ha, if_true]
          exact ⟨trivial, matched, h.2⟩
      | false =>
          simp only [askAny, answer, ha, Bool.false_eq_true, if_false]
          exact ⟨fired, matched, rest⟩
  | [], _ :: _, _, h | _ :: _, [], _, h => by cases h

theorem askAll_matched (hρ : Energy.Matching ρ) (hs : s.Matched ρ t) :
    ∀ ws ws' : List Watch, Criterion.everyOne Test.ordinal (criteria ws) = true →
      MatchedAll ρ ws ws' →
        (askAll t ws').1 = (askAll s ws).1 ∧ MatchedAll ρ (askAll s ws).2 (askAll t ws').2
  | [], [], _, _ => ⟨rfl, trivial⟩
  | w :: ws, w' :: ws', ordinal, h => by
      obtain ⟨hw, hws⟩ := Bool.and_eq_true_iff.1 ordinal
      obtain ⟨answer, matched⟩ := ask_matched hρ hs w w' hw h.1
      obtain ⟨others, rest⟩ := askAll_matched hρ hs ws ws' hws h.2
      cases ha : (w.ask s).1 with
      | true =>
          simp only [askAll, answer, ha, if_true]
          exact ⟨others, matched, rest⟩
      | false =>
          simp only [askAll, answer, ha, Bool.false_eq_true, if_false]
          exact ⟨trivial, matched, h.2⟩
  | [], _ :: _, _, h | _ :: _, [], _, h => by cases h

end

end Watch

/-! ## The question of a solver -/

/-- **Matched runs end together and for the same reason**, as far as an ordinal criterion is
asked. -/
theorem askWatch_matched (hρ : Energy.Matching ρ) (hs : s.Matched ρ t) {w w' : Option Watch}
    (ordinal : Watch.Tests Test.ordinal w) (h : Option.Rel (Watch.Matched ρ) w w') :
    ∃ reason v v', askWatch s w = .ok (reason, v) ∧ askWatch t w' = .ok (reason, v') ∧
      Option.Rel (Watch.Matched ρ) v v' := by
  cases h with
  | none => exact ⟨none, none, none, rfl, rfl, .none⟩
  | @some w w' h =>
      have hw := ordinal _ rfl
      have hw' : w'.criterion.every Test.ordinal = true := by
        rw [Watch.criterion_of_matched w w' h]
        exact hw
      obtain ⟨answer, matched⟩ := Watch.ask_matched hρ hs w w' hw h
      have reason := Watch.reason_of_matched _ _ matched
      refine ⟨if (w.ask s).1 then some (w.ask s).2.reason else none, _, _, ?_, ?_, .some matched⟩
      · simp only [askWatch, Watch.answer,
          Watch.fault?_of_every (fun _ => Test.fault?_of_ordinal) s w hw]
      · simp only [askWatch, Watch.answer,
          Watch.fault?_of_every (fun _ => Test.fault?_of_ordinal) t w' hw', answer, reason]

end BoxSearch

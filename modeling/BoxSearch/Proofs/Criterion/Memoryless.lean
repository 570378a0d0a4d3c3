import BoxSearch.Proofs.Criterion.Account

/-!
# Criteria and their memories

A watch is a criterion together with what it remembers.  This file takes the two apart.

* `Watch.criterion` — the criterion that is watched; asking does not change it
  (`criterion_ask`), and resetting leaves nothing but it (`reset_eq_ofCriterion`);
* `Criterion.faultless` — a criterion whose windows can be counted in 64 bits; asking it
  always has an answer (`fault?_of_faultless`);
* `Test.memoryless` — the tests that read the current state alone; of a criterion made of
  them `Criterion.reason?` says why it stops a run in a state, without a watch;
* `askWatch_of_same` — such a criterion is asked for the same answer whatever was asked
  before.
-/

namespace BoxSearch

/-! ## Criteria -/

namespace Test

/-- Whether a test reads the current state alone. -/
def memoryless : Test → Bool
  | .change .. | .relativeChange .. | .stagnation _ => false
  | _ => true

theorem fault?_of_memoryless {t : Test} (h : t.memoryless = true) : t.fault? = none := by
  cases t <;> first | rfl | cases h

end Test

namespace Criterion

mutual

/-- Whether every test of a criterion has a property. -/
def every (p : Test → Bool) : Criterion → Bool
  | .test t => p t
  | .any members => everyOne p members
  | .all members => everyOne p members

/-- Whether every test of several criteria has a property. -/
def everyOne (p : Test → Bool) : List Criterion → Bool
  | [] => true
  | c :: cs => every p c && everyOne p cs

end

/-- The windows of a criterion can be counted in 64 bits. -/
def faultless (c : Criterion) : Bool := c.every fun t => t.fault?.isNone

section

variable {α : Type} [Scalar α]

mutual

/-- Why a criterion stops a run in a state when nothing was observed before, if it does:
an `any` node speaks through its first member that stops the run. -/
def reason? (s : State α) : Criterion → Option String
  | .test t => if (t.look s .blank).1 then some t.reason else none
  | .any members => reasonAny? s members
  | .all members =>
    if members.isEmpty then none else (reasonsAll? s members).map (" and ".intercalate ·)

/-- The reason of the first of several criteria that stops the run. -/
def reasonAny? (s : State α) : List Criterion → Option String
  | [] => none
  | c :: cs => (reason? s c).or (reasonAny? s cs)

/-- The reasons of several criteria, if all of them stop the run. -/
def reasonsAll? (s : State α) : List Criterion → Option (List String)
  | [] => some []
  | c :: cs =>
    match reason? s c with
    | some reason => (reasonsAll? s cs).map (reason :: ·)
    | none => none

end

end

end Criterion

namespace Watch

/-! ## The criterion of a watch -/

mutual

/-- The criterion that is watched. -/
def criterion : Watch → Criterion
  | .test t _ => .test t
  | .any members _ => .any (criteria members)
  | .all members => .all (criteria members)

/-- The criteria that several watches watch. -/
def criteria : List Watch → List Criterion
  | [] => []
  | w :: ws => criterion w :: criteria ws

end

mutual

@[simp]
theorem criterion_ofCriterion : ∀ c : Criterion, (ofCriterion c).criterion = c
  | .test _ => rfl
  | .any members => congrArg Criterion.any (criteria_ofCriteria members)
  | .all members => congrArg Criterion.all (criteria_ofCriteria members)

theorem criteria_ofCriteria : ∀ cs : List Criterion, criteria (ofCriteria cs) = cs
  | [] => rfl
  | c :: cs => by rw [ofCriteria, criteria, criterion_ofCriterion c, criteria_ofCriteria cs]

end

mutual

/-- **Resetting leaves the criterion and nothing else**: a watch that is reset is the one
that a run with its criterion starts with. -/
theorem reset_eq_ofCriterion : ∀ w : Watch, w.reset = ofCriterion w.criterion
  | .test _ _ => rfl
  | .any members _ => congrArg (Watch.any · none) (resets_eq_ofCriteria members)
  | .all members => congrArg Watch.all (resets_eq_ofCriteria members)

theorem resets_eq_ofCriteria : ∀ ws : List Watch, resets ws = ofCriteria (criteria ws)
  | [] => rfl
  | w :: ws => by
      rw [resets, criteria, ofCriteria, reset_eq_ofCriterion w, resets_eq_ofCriteria ws]

end

@[simp]
theorem criterion_reset (w : Watch) : w.reset.criterion = w.criterion := by
  rw [reset_eq_ofCriterion, criterion_ofCriterion]

/-- A reset keeps the criterion. -/
theorem map_criterion_map_reset (w : Option Watch) :
    (w.map reset).map criterion = w.map criterion := by
  rw [Option.map_map]
  exact congrArg (Option.map · w) (funext criterion_reset)

/-- Two watches are the same after a reset when they watch the same criterion. -/
theorem map_reset_eq_iff {w w' : Option Watch} :
    w.map reset = w'.map reset ↔ w.map criterion = w'.map criterion := by
  have hr (v : Option Watch) : v.map reset = (v.map criterion).map ofCriterion := by
    rw [Option.map_map]
    exact congrArg (Option.map · v) (funext reset_eq_ofCriterion)
  constructor
  · intro h
    rw [← map_criterion_map_reset w, h, map_criterion_map_reset]
  · intro h
    rw [hr w, h, ← hr]

section

variable {α : Type} [Scalar α]

mutual

/-- Asking does not change what is watched. -/
@[simp]
theorem criterion_ask (s : State α) : ∀ w : Watch, (w.ask s).2.criterion = w.criterion
  | .test _ _ => rfl
  | .any members _ => congrArg Criterion.any (criteria_askAny s 0 members)
  | .all members => congrArg Criterion.all (criteria_askAll s members)

theorem criteria_askAny (s : State α) (i : Nat) :
    ∀ ws : List Watch, criteria (askAny s i ws).2 = criteria ws
  | [] => rfl
  | w :: ws => by
      have hw := criterion_ask s w
      have hws := criteria_askAny s (i + 1) ws
      cases ha : (w.ask s).1 with
      | true => simp only [askAny, ha, if_true, criteria, hw]
      | false => simp only [askAny, ha, Bool.false_eq_true, if_false, criteria, hw, hws]

theorem criteria_askAll (s : State α) :
    ∀ ws : List Watch, criteria (askAll s ws).2 = criteria ws
  | [] => rfl
  | w :: ws => by
      have hw := criterion_ask s w
      have hws := criteria_askAll s ws
      cases ha : (w.ask s).1 with
      | true => simp only [askAll, ha, if_true, criteria, hw, hws]
      | false => simp only [askAll, ha, Bool.false_eq_true, if_false, criteria, hw]

end

/-! ## Asking without a fault -/

mutual

/-- A criterion is asked without a fault when none of its tests can meet one. -/
theorem fault?_of_every {p : Test → Bool} (faultless : ∀ t, p t = true → t.fault? = none)
    (s : State α) :
    ∀ w : Watch, w.criterion.every p = true → w.fault? s = none
  | .test t _, h => faultless t h
  | .any members _, h => faultAny?_of_every faultless s members h
  | .all members, h => faultAll?_of_every faultless s members h

theorem faultAny?_of_every {p : Test → Bool} (faultless : ∀ t, p t = true → t.fault? = none)
    (s : State α) :
    ∀ ws : List Watch, Criterion.everyOne p (criteria ws) = true → faultAny? s ws = none
  | [], _ => rfl
  | w :: ws, h => by
      obtain ⟨hw, hws⟩ := Bool.and_eq_true_iff.1 h
      rw [faultAny?, fault?_of_every faultless s w hw, faultAny?_of_every faultless s ws hws]
      simp

theorem faultAll?_of_every {p : Test → Bool} (faultless : ∀ t, p t = true → t.fault? = none)
    (s : State α) :
    ∀ ws : List Watch, Criterion.everyOne p (criteria ws) = true → faultAll? s ws = none
  | [], _ => rfl
  | w :: ws, h => by
      obtain ⟨hw, hws⟩ := Bool.and_eq_true_iff.1 h
      rw [faultAll?, fault?_of_every faultless s w hw, faultAll?_of_every faultless s ws hws]
      simp

end

/-- A criterion whose windows can be counted has an answer to every question. -/
theorem fault?_of_faultless {w : Watch} (faultless : w.criterion.faultless = true)
    (s : State α) : w.fault? s = none :=
  fault?_of_every (fun _ ht => Option.isNone_iff_eq_none.1 ht) s w faultless

/-! ## Asking without a memory -/

theorem look_of_memoryless {t : Test} (h : t.memoryless = true) (s : State α) (m : Memory) :
    (t.look s m).1 = (t.look s .blank).1 := by
  cases t with
  | energyDeviation tol atol =>
      simp only [Test.look]
      split <;> rfl
  | change _ _ => cases h
  | relativeChange _ _ => cases h
  | stagnation _ => cases h
  | _ => rfl

mutual

/-- A watch without memories gives the account of a criterion about which nothing is known. -/
theorem account?_of_memoryless (s : State α) :
    ∀ w : Watch, w.criterion.every Test.memoryless = true →
      (w.account? s).map Account.text = w.criterion.reason? s
  | .test t m, h => by
      rw [account?, Test.fires, criterion, Criterion.reason?, ← look_of_memoryless h s m]
      cases (t.look s m).1 <;> rfl
  | .any members _, h => accountAny?_of_memoryless s members h
  | .all [], _ => rfl
  | .all (w :: ws), h => by
      have others := accountAll?_of_memoryless s (w :: ws) h
      rw [account?, List.isEmpty_cons, if_neg Bool.false_ne_true, Option.map_map, criterion,
        Criterion.reason?, ← others, Option.map_map]
      rfl

theorem accountAny?_of_memoryless (s : State α) :
    ∀ ws : List Watch, Criterion.everyOne Test.memoryless (criteria ws) = true →
      (accountAny? s ws).map Account.text = Criterion.reasonAny? s (criteria ws)
  | [], _ => rfl
  | w :: ws, h => by
      obtain ⟨hw, hws⟩ := Bool.and_eq_true_iff.1 h
      rw [accountAny?, Option.map_or, account?_of_memoryless s w hw,
        accountAny?_of_memoryless s ws hws, criteria, Criterion.reasonAny?]

theorem accountAll?_of_memoryless (s : State α) :
    ∀ ws : List Watch, Criterion.everyOne Test.memoryless (criteria ws) = true →
      (accountAll? s ws).map Account.texts = Criterion.reasonsAll? s (criteria ws)
  | [], _ => rfl
  | w :: ws, h => by
      obtain ⟨hw, hws⟩ := Bool.and_eq_true_iff.1 h
      rw [accountAll?, criteria, Criterion.reasonsAll?, ← account?_of_memoryless s w hw,
        ← accountAll?_of_memoryless s ws hws]
      cases w.account? s with
      | none => rfl
      | some a => cases accountAll? s ws <;> rfl

end

/-- **A criterion without memories answers by the state alone.** -/
theorem ask_of_memoryless (s : State α) (w : Watch)
    (h : w.criterion.every Test.memoryless = true) :
    (if (w.ask s).1 then some (w.ask s).2.reason else none) = w.criterion.reason? s := by
  rw [← account?_text, account?_of_memoryless s w h]

end

end Watch

/-! ## The question of a solver -/

variable {α : Type} [Scalar α] {s : State α} {w w' : Option Watch} {reason : Option String}

/-- Asking does not change what is watched. -/
theorem criterion_of_askWatch (h : askWatch s w = .ok (reason, w')) :
    w'.map Watch.criterion = w.map Watch.criterion := by
  cases w with
  | none => cases h; rfl
  | some v =>
      cases hf : v.fault? s with
      | some f => simp only [askWatch, Watch.answer, hf] at h; cases h
      | none =>
          simp only [askWatch, Watch.answer, hf] at h
          cases h
          exact congrArg some (Watch.criterion_ask s v)

/-- Every test of the criterion has a property, if there is a criterion. -/
def Watch.Tests (p : Test → Bool) (w : Option Watch) : Prop :=
  ∀ c, w.map Watch.criterion = some c → c.every p = true

theorem Watch.Tests.of_same {p : Test → Bool} (h : Watch.Tests p w)
    (same : w'.map Watch.criterion = w.map Watch.criterion) : Watch.Tests p w' :=
  fun c hc => h c (same ▸ hc)

/-- The criterion, if there is one, reads the current state alone. -/
abbrev Watch.ReadsState (w : Option Watch) : Prop := Watch.Tests Test.memoryless w

theorem askWatch_of_memoryless (s : State α) (h : Watch.ReadsState w) :
    ∃ v, askWatch s w = .ok ((w.map Watch.criterion).bind (·.reason? s), v) ∧
      v.map Watch.criterion = w.map Watch.criterion := by
  cases w with
  | none => exact ⟨none, rfl, rfl⟩
  | some w =>
      have hw := h _ rfl
      refine ⟨some (w.ask s).2, ?_, congrArg some (Watch.criterion_ask s w)⟩
      simp only [askWatch, Watch.answer,
        Watch.fault?_of_every (fun _ => Test.fault?_of_memoryless) s w hw,
        Watch.ask_of_memoryless s w hw, Option.map_some, Option.bind_some]

/-- **A criterion without memories is asked for the same answer whatever was asked
before.** -/
theorem askWatch_of_same (s : State α) (h : Watch.ReadsState w)
    (same : w'.map Watch.criterion = w.map Watch.criterion) :
    ∃ reason v v', askWatch s w = .ok (reason, v) ∧ askWatch s w' = .ok (reason, v') ∧
      v'.map Watch.criterion = v.map Watch.criterion := by
  obtain ⟨v, hv, kept⟩ := askWatch_of_memoryless s h
  obtain ⟨v', hv', kept'⟩ := askWatch_of_memoryless s (h.of_same same)
  rw [same] at hv'
  exact ⟨_, v, v', hv, hv', kept'.trans (same.trans kept.symm)⟩

end BoxSearch

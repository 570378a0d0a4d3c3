import BoxSearch.Proofs.Compass.Growth
import BoxSearch.Proofs.Evolution.Growth
import BoxSearch.Solver.Tree

/-!
# The generation a solver is about to make

What `Evolution` and `Compass` say about their next generation on a function, said of
a solver of either family.  Everything that compares two runs of one solver is proved
from the four facts of this file and opens neither family again:

* `step_withPlugs_ok` — what a step that succeeds has made;
* `step_withPlugs_of_grownOn` — when a step on the function itself succeeds;
* `step_withPlugs_error` — what a step that fails leaves behind;
* `rolledBack_of_grownOn` and `rolledBack_of_begunOn` — that a checkpoint takes back
  all of a generation, except for what the criterion has seen of it.

An ensemble has no plug-ins of this kind, and is no `Lone` solver.
-/

namespace BoxSearch

/-- The state that a checkpoint holds. -/
def Checkpoint.state {α : Type} : Checkpoint α → State α
  | .evolution state .. => state
  | .compass state .. => state
  | .ensemble state .. => state

namespace Solver

variable {α : Type} [Scalar α]
variable {s t u : Solver α} {o : Objective α} {f : Point α → Float}
variable {m : EvaluationMap α} {w : Option Watch}
variable {calls : Nat} {b : Bool} {e : SolverError}

/-! ## One solver of either family -/

/-- The solver has no members. -/
def Lone : Solver α → Prop
  | .ensemble .. => False
  | _ => True

/-- What ends the run. -/
def watch : Solver α → Option Watch
  | .evolution s => s.watch
  | .compass s => s.watch
  | .ensemble f _ _ => f.watch

/-- What evaluates the batches, or dispatches the members. -/
def map? : Solver α → Option (EvaluationMap α)
  | .evolution s => s.map
  | .compass s => some s.map
  | .ensemble f _ _ => some f.map

/-- The solver with another map and another watch. -/
def withPlugs (m : EvaluationMap α) (w : Option Watch) : Solver α → Solver α
  | .evolution s => .evolution (s.withPlugs m w)
  | .compass s => .compass (s.withPlugs m w)
  | s => s

/-- The solver has what a step needs of it, given its criterion. -/
def Equipped (w : Option Watch) : Solver α → Prop
  | .evolution s => s.Equipped ∧ w.isSome = true
  | .compass s => s.ready = true
  | .ensemble .. => False

/-- The solver when the points of its generation on a function are due. -/
def begunOn (f : Point α → Float) : Solver α → Option (Solver α)
  | .evolution s => (s.begunOn f).map .evolution
  | .compass s => (s.begunOn f).map .compass
  | .ensemble .. => none

/-- The solver after its next generation on a function, before the question whether
the run stops. -/
def grownOn (f : Point α → Float) : Solver α → Option (Solver α)
  | .evolution s => (s.grownOn f).map .evolution
  | .compass s => (s.grownOn f).map .compass
  | .ensemble .. => none

/-- Why a solver stops of itself. -/
def ownReason? : Solver α → Option String
  | .evolution s => s.limits.reason? s.state
  | .compass s => s.ownReason?
  | .ensemble .. => none

/-- The solver after the question whether the run ends was answered. -/
def concluded (reason : Option String) : Solver α → Solver α
  | .evolution s => .evolution (s.concluded reason)
  | .compass s => .compass (s.concluded reason)
  | s => s

/-- The solver with what a checkpoint of another one holds. -/
def rolledBack (t s : Solver α) : Solver α := (t.restore s.checkpoint).2

/-! ## Exchanging plug-ins -/

@[simp]
theorem state_withPlugs : (s.withPlugs m w).state = s.state := by
  cases s <;> rfl

@[simp]
theorem checkpoint_withPlugs : (s.withPlugs m w).checkpoint = s.checkpoint := by
  cases s <;> rfl

theorem watch_withPlugs (lone : s.Lone) : (s.withPlugs m w).watch = w := by
  cases s with
  | evolution s => rfl
  | compass s => rfl
  | ensemble f build ms => cases lone

@[simp]
theorem withPlugs_withPlugs {m' : EvaluationMap α} {w' : Option Watch} :
    (s.withPlugs m w).withPlugs m' w' = s.withPlugs m' w' := by
  cases s <;> rfl

theorem withPlugs_self (lone : s.Lone) (h : s.map? = some m) : s.withPlugs m s.watch = s := by
  cases s with
  | evolution s => exact congrArg Solver.evolution (Evolution.withPlugs_self h)
  | compass s => cases h; rfl
  | ensemble f build ms => cases lone

theorem lone_withPlugs (lone : s.Lone) : (s.withPlugs m w).Lone := by
  cases s with
  | evolution s => trivial
  | compass s => trivial
  | ensemble f build ms => exact lone

/-- Installing a map exchanges the map alone. -/
theorem setMap_eq_withPlugs (lone : s.Lone) : (s.setMap m).1 = s.withPlugs m s.watch := by
  cases s with
  | evolution s => rfl
  | compass s => rfl
  | ensemble f build ms => cases lone

theorem setMap_withPlugs {m' : EvaluationMap α} (lone : s.Lone) :
    ((s.withPlugs m w).setMap m').1 = s.withPlugs m' w := by
  rw [setMap_eq_withPlugs (lone_withPlugs lone), withPlugs_withPlugs, watch_withPlugs lone]

theorem rolledBack_withPlugs :
    (s.withPlugs m w).rolledBack t = (s.rolledBack t).withPlugs m w := by
  unfold rolledBack
  cases s with
  | evolution s => cases t <;> rfl
  | compass s => cases t <;> rfl
  | ensemble f build ms =>
      cases t with
      | evolution t => rfl
      | compass t => rfl
      | ensemble g build' ns =>
          simp only [withPlugs, checkpoint, restore]
          split
          · rfl
          · split <;> rfl

theorem state_checkpoint : s.checkpoint.state = s.state := by
  cases s <;> rfl

/-! ## Steps -/

/-- Without a map nothing is evaluated. -/
theorem step_of_mapless (o : Objective α) (calls : Nat) (lone : s.Lone) (h : s.map? = none) :
    ∃ e, (s.step o calls).1.result = .error e ∧ (s.step o calls).1.after = s := by
  cases s with
  | evolution s =>
      have hm : s.map = none := h
      cases hc : s.checkReady o with
      | ok p =>
          obtain ⟨_, _, _, hm', _⟩ := Evolution.checkReady_eq_ok_iff.1 hc
          rw [hm] at hm'
          cases hm'
      | error e =>
          refine ⟨e, ?_⟩
          simp only [step, Evolution.step_of_refused hc]
          exact ⟨rfl, rfl⟩
  | compass s => cases h
  | ensemble f build ms => cases lone

/-- A step that succeeds has found what it needs. -/
theorem equipped_of_step_ok (lone : s.Lone)
    (h : ((s.withPlugs m w).step o calls).1.result = .ok b) : s.Equipped w := by
  cases s with
  | evolution s => exact Evolution.equipped_of_step_ok h
  | compass s =>
      obtain ⟨hc, _⟩ := Compass.step_ok h
      exact Compass.ready_of_checkReady hc
  | ensemble f build ms => cases lone

/-- A step of a run that has ended changes nothing. -/
theorem step_withPlugs_of_ended (calls : Nat) (equipped : s.Equipped w)
    (ended : s.state.isTerminated = true) :
    ((s.withPlugs m w).step (.ofFunction f) calls).1.result = .ok true ∧
      ((s.withPlugs m w).step (.ofFunction f) calls).1.after = s.withPlugs m w := by
  cases s with
  | evolution s =>
      obtain ⟨strategy, hc⟩ :=
        Evolution.checkReady_of_equipped (m := m) (f := f) equipped.1 equipped.2
      have hs : (s.withPlugs m w).step (.ofFunction f) calls =
          (.done (s.withPlugs m w) true [], calls) :=
        Evolution.step_of_ended hc ended
      simp only [step, withPlugs, hs]
      exact ⟨rfl, rfl⟩
  | compass s =>
      have hc : (s.withPlugs m w).checkReady (.ofFunction f) = .ok () :=
        Compass.checkReady_ofFunction_iff.2 equipped
      have hs : (s.withPlugs m w).step (.ofFunction f) calls =
          (.done (s.withPlugs m w) true [], calls) :=
        Compass.step_of_ended hc ended
      simp only [step, withPlugs, hs]
      exact ⟨rfl, rfl⟩
  | ensemble f build ms => cases equipped

/-- A step that succeeds on a run that has ended changes nothing. -/
theorem step_ok_of_ended (lone : s.Lone) (ended : s.state.isTerminated = true)
    (h : (s.step o calls).1.result = .ok b) : b = true ∧ (s.step o calls).1.after = s := by
  cases s with
  | evolution s =>
      obtain ⟨_, _, _, ⟨_, hb, ha⟩ | ⟨going, _⟩⟩ := Evolution.step_ok h
      · exact ⟨hb, congrArg Solver.evolution ha⟩
      · exact absurd (ended.symm.trans going) (by simp)
  | compass s =>
      obtain ⟨_, ⟨_, hb, ha⟩ | ⟨going, _⟩⟩ := Compass.step_ok h
      · exact ⟨hb, congrArg Solver.compass ha⟩
      · exact absurd (ended.symm.trans going) (by simp)
  | ensemble f build ms => cases lone

/-- **A step that succeeds made the generation that was settled before**, and then
asked the criterion about it. -/
theorem step_withPlugs_ok (lone : s.Lone) (faithful : m.Faithful) (agrees : o.AgreesWith f)
    (going : s.state.isTerminated = false)
    (h : ((s.withPlugs m w).step o calls).1.result = .ok b) :
    ∃ u reason w', s.grownOn f = some u ∧ askWatch u.state w = .ok (reason, w') ∧
      b = (reason.or u.ownReason?).isSome ∧
      ((s.withPlugs m w).step o calls).1.after = (u.concluded reason).withPlugs m w' := by
  cases s with
  | evolution s =>
      obtain ⟨u, reason, w', hu, hask, hb, ha⟩ :=
        Evolution.step_withPlugs_ok faithful agrees going h
      exact ⟨.evolution u, reason, w', congrArg (Option.map Solver.evolution) hu, hask, hb,
        congrArg Solver.evolution ha⟩
  | compass s =>
      obtain ⟨u, reason, w', hu, hask, hb, ha⟩ :=
        Compass.step_withPlugs_ok faithful agrees going h
      exact ⟨.compass u, reason, w', congrArg (Option.map Solver.compass) hu, hask, hb,
        congrArg Solver.compass ha⟩
  | ensemble f build ms => cases lone

/-- **On the function itself the generation is made**, if the map is dependable. -/
theorem step_withPlugs_of_grownOn (calls : Nat) (dependable : m.Dependable)
    (equipped : s.Equipped w) (going : s.state.isTerminated = false) (hu : s.grownOn f = some u)
    {reason : Option String} {w' : Option Watch} (hask : askWatch u.state w = .ok (reason, w')) :
    ((s.withPlugs m w).step (.ofFunction f) calls).1.result =
        .ok (reason.or u.ownReason?).isSome ∧
      ((s.withPlugs m w).step (.ofFunction f) calls).1.after =
        (u.concluded reason).withPlugs m w' := by
  cases s with
  | evolution s =>
      obtain ⟨v, hv, rfl⟩ := Option.map_eq_some_iff.1 hu
      obtain ⟨hr, ha⟩ := Evolution.step_withPlugs_of_grownOn calls dependable equipped.1 equipped.2
        going hv hask
      exact ⟨hr, congrArg Solver.evolution ha⟩
  | compass s =>
      obtain ⟨v, hv, rfl⟩ := Option.map_eq_some_iff.1 hu
      obtain ⟨hr, ha⟩ := Compass.step_withPlugs_of_grownOn calls dependable equipped going hv hask
      exact ⟨hr, congrArg Solver.compass ha⟩
  | ensemble f build ms => cases equipped

/-- **A step that fails leaves the solver as it was, or its generation begun.** -/
theorem step_withPlugs_error (lone : s.Lone) (faithful : m.Faithful) (agrees : o.AgreesWith f)
    (h : ((s.withPlugs m w).step o calls).1.result = .error e) (returned : e.fault? = none) :
    ((s.withPlugs m w).step o calls).1.after = s.withPlugs m w ∨
      s.state.isTerminated = false ∧ ∃ t, s.begunOn f = some t ∧
        ((s.withPlugs m w).step o calls).1.after = t.withPlugs m w := by
  cases s with
  | evolution s =>
      rcases Evolution.begunOn_of_step_error (s := s.withPlugs m w) rfl faithful agrees h returned
        with ha | ⟨going, ha⟩
      · exact Or.inl (congrArg Solver.evolution ha)
      · rw [Evolution.begunOn_withPlugs] at ha
        obtain ⟨t, ht, ha⟩ := Option.map_eq_some_iff.1 ha
        exact Or.inr ⟨going, .evolution t, congrArg (Option.map Solver.evolution) ht,
          congrArg Solver.evolution ha.symm⟩
  | compass s => exact Or.inl (congrArg Solver.compass (Compass.step_error h))
  | ensemble f build ms => cases lone

/-! ## Beginning twice -/

theorem going_of_begunOn (h : s.begunOn f = some t) : t.state.isTerminated = false := by
  cases s with
  | evolution s =>
      obtain ⟨t, ht, rfl⟩ := Option.map_eq_some_iff.1 h
      exact Evolution.going_of_begunOn ht
  | compass s =>
      obtain ⟨t, ht, rfl⟩ := Option.map_eq_some_iff.1 h
      exact Compass.going_of_begunOn ht
  | ensemble f build ms => cases h

theorem lone_of_begunOn (h : s.begunOn f = some t) : t.Lone := by
  cases s with
  | evolution s => obtain ⟨t, _, rfl⟩ := Option.map_eq_some_iff.1 h; trivial
  | compass s => obtain ⟨t, _, rfl⟩ := Option.map_eq_some_iff.1 h; trivial
  | ensemble f build ms => cases h

theorem lone_of_grownOn (h : s.grownOn f = some u) : u.Lone := by
  cases s with
  | evolution s => obtain ⟨u, _, rfl⟩ := Option.map_eq_some_iff.1 h; trivial
  | compass s => obtain ⟨u, _, rfl⟩ := Option.map_eq_some_iff.1 h; trivial
  | ensemble f build ms => cases h

theorem lone_concluded {reason : Option String} (lone : u.Lone) : (u.concluded reason).Lone := by
  cases u with
  | evolution u => trivial
  | compass u => trivial
  | ensemble f build ms => cases lone

/-- What was begun is not begun anew. -/
theorem begunOn_of_begunOn (h : s.begunOn f = some t) : t.begunOn f = some t := by
  cases s with
  | evolution s =>
      obtain ⟨t, ht, rfl⟩ := Option.map_eq_some_iff.1 h
      exact congrArg (Option.map Solver.evolution) (Evolution.begunOn_of_begunOn ht)
  | compass s =>
      obtain ⟨t, ht, rfl⟩ := Option.map_eq_some_iff.1 h
      exact congrArg (Option.map Solver.compass) (Compass.begunOn_of_begunOn ht)
  | ensemble f build ms => cases h

/-- The generation of a solver that has begun is the one it was about to make. -/
theorem grownOn_of_begunOn (h : s.begunOn f = some t) : t.grownOn f = s.grownOn f := by
  cases s with
  | evolution s =>
      obtain ⟨t, ht, rfl⟩ := Option.map_eq_some_iff.1 h
      exact congrArg (Option.map Solver.evolution) (Evolution.grownOn_of_begunOn ht)
  | compass s =>
      obtain ⟨t, ht, rfl⟩ := Option.map_eq_some_iff.1 h
      exact congrArg (Option.map Solver.compass) (Compass.grownOn_of_begunOn ht)
  | ensemble f build ms => cases h

theorem equipped_of_begunOn (h : s.begunOn f = some t) (equipped : t.Equipped w) :
    s.Equipped w := by
  cases s with
  | evolution s =>
      obtain ⟨t, ht, rfl⟩ := Option.map_eq_some_iff.1 h
      exact ⟨Evolution.equipped_of_begunOn ht equipped.1, equipped.2⟩
  | compass s =>
      obtain ⟨t, ht, rfl⟩ := Option.map_eq_some_iff.1 h
      exact (Compass.ready_of_begunOn ht).symm.trans equipped
  | ensemble f build ms => cases h

/-! ## Taking a generation back -/

theorem rolledBack_self (lone : s.Lone) : s.rolledBack s = s := by
  cases s with
  | evolution s => rfl
  | compass s => rfl
  | ensemble f build ms => cases lone

theorem rolledBack_of_begunOn (h : s.begunOn f = some t) : t.rolledBack s = s := by
  cases s with
  | evolution s =>
      obtain ⟨t, ht, rfl⟩ := Option.map_eq_some_iff.1 h
      exact congrArg Solver.evolution (Evolution.rolledBack_of_begunOn ht)
  | compass s =>
      obtain ⟨t, ht, rfl⟩ := Option.map_eq_some_iff.1 h
      exact congrArg Solver.compass (Compass.rolledBack_of_begunOn ht)
  | ensemble f build ms => cases h

/-- A generation that was made and concluded is taken back by the checkpoint before it. -/
theorem rolledBack_of_grownOn (reason : Option String) (h : s.grownOn f = some u) :
    (u.concluded reason).rolledBack s = s := by
  cases s with
  | evolution s =>
      obtain ⟨u, hu, rfl⟩ := Option.map_eq_some_iff.1 h
      exact congrArg Solver.evolution
        ((Evolution.rolledBack_concluded reason).trans (Evolution.rolledBack_of_grownOn hu))
  | compass s =>
      obtain ⟨u, hu, rfl⟩ := Option.map_eq_some_iff.1 h
      exact congrArg Solver.compass
        ((Compass.rolledBack_concluded reason).trans (Compass.rolledBack_of_grownOn hu))
  | ensemble f build ms => cases h

end Solver
end BoxSearch

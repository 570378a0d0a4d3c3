import BoxSearch.Proofs.Ensemble.Generation
import BoxSearch.Proofs.Solver.Settings

/-!
# Starting anew

A solver can be made ready again after any history, and then it must not remember any of
it: the tokens, the marks, the step lengths, the flags of the members, the members
themselves, and what the criterion has seen, however deep in its tree.

`anew` is a solver with all of this taken out, so with nothing but its dimension and its
plug-ins.  No call of a run and no restoring changes it, since it can be read off the
settings (`anew_of_settings`), and neither does making ready (`anew_prepare`).  A solver
that is made ready with success is made ready like the one without a history
(`prepare_anew`).

`Lived` follows a solver with its history and one without: both are made alike and get the
same plug-ins.  `prepare_of_lived` says that after making ready they are the same solver.
-/

namespace BoxSearch

/-- Resetting twice is resetting once. -/
theorem map_reset_map_reset (w : Option Watch) :
    (w.map Watch.reset).map Watch.reset = w.map Watch.reset :=
  Watch.map_reset_eq_iff.2 (Watch.map_criterion_map_reset w)

/-! ## The three families without a history -/

section

variable {α : Type} [Scalar α] {box : Option (Box α)} {size : Nat} {seed : Seed}

/-- A run of differential evolution with its plug-ins alone. -/
def Evolution.anew (s : Evolution α) : Evolution α :=
  { s.settings with box := none, ready := false }

/-- A compass search with its plug-ins alone. -/
def Compass.anew (s : Compass α) : Compass α :=
  { s.settings with box := none, steps := List.replicate s.dim Scalar.zero, ready := false }

/-- A frame with its plug-ins alone. -/
def Frame.anew (f : Frame α) : Frame α := { f.settings with ready := false }

namespace Evolution

theorem anew_prepare (s : Evolution α) (box : Option (Box α)) (size : Nat) (seed : Seed) :
    (s.prepare box size seed).after.anew = s.anew := by
  unfold prepare
  cases checkStart s.dim box size with
  | error e => rfl
  | ok u => simp only [Reply.done, anew, settings, map_reset_map_reset]

theorem prepare_anew {s : Evolution α} (success : (s.prepare box size seed).result = .ok ()) :
    s.prepare box size seed = s.anew.prepare box size seed := by
  have hd : s.anew.dim = s.dim := rfl
  unfold prepare at success ⊢
  rw [hd]
  cases hc : checkStart s.dim box size with
  | error e => rw [hc] at success; cases success
  | ok u => simp only [anew, settings, map_reset_map_reset]

end Evolution

namespace Compass

theorem anew_prepare (s : Compass α) (box : Option (Box α)) (size : Nat) (seed : Seed) :
    (s.prepare box size seed).after.anew = s.anew := by
  unfold prepare
  split
  · rfl
  · cases Evolution.checkBox s.dim box with
    | error e => rfl
    | ok u => simp only [Reply.done, anew, settings, map_reset_map_reset]

theorem prepare_anew {s : Compass α} (success : (s.prepare box size seed).result = .ok ()) :
    s.prepare box size seed = s.anew.prepare box size seed := by
  have hd : s.anew.dim = s.dim := rfl
  have hs : s.anew.initialStep = s.initialStep := rfl
  unfold prepare at success ⊢
  rw [hd, hs]
  split at success
  · cases success
  · next nonzero =>
      rw [if_neg nonzero, if_neg nonzero]
      cases hc : Evolution.checkBox s.dim box with
      | error e => rw [hc] at success; cases success
      | ok u => simp only [anew, settings, map_reset_map_reset]

end Compass

namespace Frame

theorem anew_begin (f : Frame α) (starts : Population α) : (f.begin starts).anew = f.anew := by
  simp only [begin, anew, settings, map_reset_map_reset]

theorem begin_anew (f : Frame α) (starts : Population α) :
    f.anew.begin starts = f.begin starts := by
  simp only [begin, anew, settings, map_reset_map_reset]

end Frame

end

/-! ## Solvers -/

namespace Solver

variable {α : Type} [Scalar α] {s t : Solver α}
variable {box : Option (Box α)} {size : Nat} {seed : Seed}

/-- The solver with its plug-ins alone; an ensemble has no members then. -/
def anew : Solver α → Solver α
  | .evolution s => .evolution s.anew
  | .compass s => .compass s.anew
  | .ensemble f build _ => .ensemble f.anew build []

/-- What is left without a history can be read off the settings. -/
theorem anew_of_settings (h : s.settings = t.settings) : s.anew = t.anew := by
  cases s <;> cases t <;> simp only [settings, reduceCtorEq] at h
  case evolution s t =>
    have hs := Solver.evolution.inj h
    simp only [anew, Evolution.anew, hs]
  case compass s t =>
    have hs := Solver.compass.inj h
    have hd : s.settings.dim = t.settings.dim := by rw [hs]
    change s.dim = t.dim at hd
    simp only [anew, Compass.anew, hs, hd]
  case ensemble f build ms f' build' ms' =>
    obtain ⟨hf, hb, _⟩ := Solver.ensemble.inj h
    simp only [anew, Frame.anew, hf, hb]

/-! ### Making ready -/

/-- New members depend on the frame by its dimension and its constraints. -/
theorem buildMembers_anew (f : Frame α) (build : Builder α) (seed : Seed) (i : Nat)
    (starts : List (Point α)) :
    buildMembers f.anew build seed i starts = buildMembers f build seed i starts := by
  induction starts generalizing i with
  | nil => rfl
  | cons start starts ih =>
      simp only [buildMembers, ih]
      rfl

/-- Making ready keeps the plug-ins, also where it fails. -/
theorem anew_prepare (s : Solver α) (box : Option (Box α)) (size : Nat) (seed : Seed) :
    (s.prepare box size seed).after.anew = s.anew := by
  cases s with
  | evolution s => exact congrArg Solver.evolution (s.anew_prepare box size seed)
  | compass s => exact congrArg Solver.compass (s.anew_prepare box size seed)
  | ensemble f build members =>
      simp only [prepare, prepareEnsemble]
      cases f.drawStarts box seed with
      | error e => rfl
      | ok starts =>
          simp only
          rcases buildMembers f build seed 0 starts.rows with ⟨e | built, events⟩
          · rfl
          · exact congrArg (Solver.ensemble · build []) (f.anew_begin starts)

/-- **What was there before has no part in making ready.** -/
theorem prepare_anew (success : (s.prepare box size seed).result = .ok ()) :
    s.prepare box size seed = s.anew.prepare box size seed := by
  cases s with
  | evolution s => exact congrArg (Reply.lift Solver.evolution) (Evolution.prepare_anew success)
  | compass s => exact congrArg (Reply.lift Solver.compass) (Compass.prepare_anew success)
  | ensemble f build members =>
      have hd : f.anew.drawStarts box seed = f.drawStarts box seed := rfl
      have hs : f.anew.starts = f.starts := rfl
      simp only [prepare, anew, prepareEnsemble, hd, hs, buildMembers_anew] at success ⊢
      cases hx : f.drawStarts box seed with
      | error e => rw [hx] at success; cases success
      | ok starts =>
          rw [hx] at success
          rcases hb : buildMembers f build seed 0 starts.rows with ⟨e | built, events⟩
          · simp only [hb] at success
            cases success
          · simp only [hb, f.begin_anew starts]

/-! ### Histories -/

/-- A solver that was just made. -/
inductive Made : Solver α → Prop
  /-- a run of differential evolution without plug-ins -/
  | evolution (dim : Nat) (timed : Bool) : Made (.evolution (.bare dim timed))
  /-- a compass search with its first step and its tolerance -/
  | compass (dim : Nat) (initialStep tolerance : α) :
      Made (.compass (.withMesh dim initialStep tolerance))
  /-- an ensemble that is to have members of a certain kind at certain places -/
  | ensemble (dim : Nat) (starts : StartPoints) (build : Builder α) :
      Made (.ensemble (.make dim starts) build [])

/-- `Lived s t`: the solver `t` has a history.  `s` was made in the same way and was given
the same plug-ins, each criterion as it is before a run, and that is all that happened to
it. -/
inductive Lived : Solver α → Solver α → Prop
  /-- nothing happened yet -/
  | made {s : Solver α} (h : Made s) : Lived s s
  /-- a strategy was installed -/
  | strategy {s t : Solver α} (x : Strategy α) (before : Lived s t) :
      Lived (s.setStrategy x).1 (t.setStrategy x).1
  /-- a criterion was installed, which may have watched other runs -/
  | watch {s t : Solver α} (w : Watch) (before : Lived s t) :
      Lived (s.setWatch (.ofCriterion w.criterion)) (t.setWatch w)
  /-- a map was installed -/
  | map {s t : Solver α} (m : EvaluationMap α) (before : Lived s t) :
      Lived (s.setMap m).1 (t.setMap m).1
  /-- the hard caps were set -/
  | limits {s t : Solver α} (l : Limits) (before : Lived s t) :
      Lived (s.setLimits l) (t.setLimits l)
  /-- the way of drawing was set -/
  | init {s t : Solver α} (i : Init) (before : Lived s t) : Lived (s.setInit i) (t.setInit i)
  /-- repair and penalty were set -/
  | constraints {s t : Solver α} (c : Constraints α) (before : Lived s t) :
      Lived (s.setConstraints c) (t.setConstraints c)
  /-- it was made ready, or that failed -/
  | prepared {s t : Solver α} (box : Option (Box α)) (size : Nat) (seed : Seed)
      (before : Lived s t) : Lived s (t.prepare box size seed).after
  /-- a user stepped it, solved with it, asked it to stop, gave it start values -/
  | called {s t u : Solver α} {events : List (Event α)} (before : Lived s t)
      (calls : Reached (fun _ => True) t events u) : Lived s u
  /-- it went back to a checkpoint, or refused to -/
  | restored {s t : Solver α} (c : Checkpoint α) (before : Lived s t) : Lived s (t.restore c).2

/-- A solver without a history is its own plug-ins. -/
theorem Made.anew (h : Made s) : s.anew = s := by
  cases h <;> rfl

/-- **A history changes nothing but what starting anew takes out.** -/
theorem Lived.anew (h : Lived s t) : t.anew = s := by
  induction h with
  | made h => exact h.anew
  | @strategy _ t x _ ih =>
      subst ih
      cases t <;> rfl
  | @watch _ t w _ ih =>
      subst ih
      cases t <;> simp [setWatch, Solver.anew, Evolution.anew, Evolution.settings, Compass.anew,
        Compass.settings, Frame.anew, Frame.settings, Watch.reset_eq_ofCriterion]
  | @map _ t m _ ih =>
      subst ih
      cases t <;> rfl
  | @limits _ t l _ ih =>
      subst ih
      cases t <;> rfl
  | @init _ t i _ ih =>
      subst ih
      cases t <;> rfl
  | @constraints _ t c _ ih =>
      subst ih
      cases t <;> rfl
  | prepared box size seed _ ih => exact (anew_prepare _ box size seed).trans ih
  | called _ calls ih => exact (anew_of_settings (settings_of_reached calls)).trans ih
  | restored c _ ih => exact (anew_of_settings (settings_restore _ c)).trans ih

/-- **Making ready forgets everything.**  Let `t` be a solver of any of the three families
after any history: runs with steps that succeed or fail, on whatever objectives, calls of
`solve`, requests to stop, start values, checkpoints it went back to or refused, runs begun
and not finished.  Let `s` be a solver that was just made and was given the same plug-ins,
its criterion as it is before a run.  When `t` is made ready with success, from a box, a
size and a seed, then so is `s`, with the same events, and the two are the same solver then:
so whatever is done next, the results, the states, and the generation and the reason at
which a run stops are the same. -/
theorem prepare_of_lived (lived : Lived s t) (box : Option (Box α)) (size : Nat) (seed : Seed)
    (success : (t.prepare box size seed).result = .ok ()) :
    t.prepare box size seed = s.prepare box size seed := by
  rw [prepare_anew success, lived.anew]

/-! ### An ensemble that is made ready again -/

/-- An ensemble of two compass searches on a line, which stops when nothing improves for
some time, or when two things happen at once. -/
def freshPair : Solver Float :=
  (Solver.ensemble (.make 1 (.scattershot 2)) pairBuild []).setWatch
    (.ofCriterion (.any [.test (.stagnation 9), .all [.test (.change 0.5 3), .test .never]]))

/-- The ensemble after a run of three generations, the second of which was taken back, and
then a request to stop. -/
def usedPair : Solver Float :=
  let begun := (freshPair.prepare none 1 (.number 1)).after
  let once := (begun.step (.ofFunction squares) 0).1.after
  let later := ((once.step (.ofFunction squares) 6).1.after.restore once.checkpoint).2
  (later.solve (fun _ => false) (.ofFunction squares) 9 (some 2)).1.after.cancel

theorem freshPair_lived : Lived freshPair usedPair := by
  have made := Lived.watch (.ofCriterion
    (.any [.test (.stagnation 9), .all [.test (.change 0.5 3), .test .never]]))
    (.made (.ensemble 1 (.scattershot 2) pairBuild))
  rw [Watch.criterion_ofCriterion] at made
  have begun : Lived freshPair (freshPair.prepare none 1 (.number 1)).after := .prepared _ _ _ made
  have twice : Reached (fun _ => True) (freshPair.prepare none 1 (.number 1)).after _ _ :=
    (Reached.start.stepped (o := .ofFunction squares) 0 trivial).stepped
      (o := .ofFunction squares) 6 trivial
  have later := (begun.called twice).restored
    ((freshPair.prepare none 1 (.number 1)).after.step (.ofFunction squares) 0).1.after.checkpoint
  have rest : Reached (fun _ => True) _ _ usedPair :=
    (Reached.start.solved (fun _ => false) 9 (some 2) trivial).cancelled
  exact later.called rest

/-- Nothing of the run, the request or what the criterion has seen is left. -/
theorem prepare_of_lived_usedPair :
    Lived freshPair usedPair ∧ usedPair.state.generation = 3 ∧ usedPair.token.cancelled = true ∧
      usedPair.prepare none 1 (.number 7) = freshPair.prepare none 1 (.number 7) ∧
      (usedPair.prepare none 1 (.number 7)).after.state.generation = 0 := by
  have history : usedPair.state.generation = 3 ∧ usedPair.token.cancelled = true := by
    decide +kernel
  obtain ⟨_, success⟩ := exists_ok_of_isOk (r := (usedPair.prepare none 1 (.number 7)).result)
    (by decide +kernel)
  exact ⟨freshPair_lived, history.1, history.2,
    prepare_of_lived freshPair_lived none 1 (.number 7) success, by decide +kernel⟩

end Solver
end BoxSearch
